/-!
# DeclGen.Pattern.Property.NameTable

The other names of Unicode properties and scripts.
-/

namespace DeclGen.Pattern

/-- The other names of binary properties. -/
def binaryNames : List (String × List String) :=
  [("ASCII_Hex_Digit", ["AHex"]), ("Alphabetic", ["Alpha"]), ("Bidi_Control", ["Bidi_C"]),
   ("Bidi_Mirrored", ["Bidi_M"]), ("Case_Ignorable", ["CI"]),
   ("Changes_When_Casefolded", ["CWCF"]), ("Changes_When_Casemapped", ["CWCM"]),
   ("Changes_When_Lowercased", ["CWL"]), ("Changes_When_Titlecased", ["CWT"]),
   ("Changes_When_Uppercased", ["CWU"]), ("Default_Ignorable_Code_Point", ["DI"]),
   ("Deprecated", ["Dep"]), ("Diacritic", ["Dia"]), ("Emoji_Component", ["EComp"]),
   ("Emoji_Modifier", ["EMod"]), ("Emoji_Modifier_Base", ["EBase"]),
   ("Emoji_Presentation", ["EPres"]), ("Extended_Pictographic", ["ExtPict"]),
   ("Extender", ["Ext"]), ("Grapheme_Base", ["Gr_Base"]), ("Grapheme_Extend", ["Gr_Ext"]),
   ("Grapheme_Link", ["Gr_Link"]), ("Hex_Digit", ["Hex"]), ("IDS_Binary_Operator", ["IDSB"]),
   ("IDS_Trinary_Operator", ["IDST"]), ("IDS_Unary_Operator", ["IDSU"]),
   ("ID_Continue", ["IDC"]), ("ID_Start", ["IDS"]), ("Ideographic", ["Ideo"]),
   ("Join_Control", ["Join_C"]), ("Logical_Order_Exception", ["LOE"]), ("Lowercase", ["Lower"]),
   ("Modifier_Combining_Mark", ["MCM"]), ("Noncharacter_Code_Point", ["NChar"]),
   ("Other_Alphabetic", ["OAlpha"]), ("Other_Default_Ignorable_Code_Point", ["ODI"]),
   ("Other_Grapheme_Extend", ["OGr_Ext"]), ("Other_ID_Continue", ["OIDC"]),
   ("Other_ID_Start", ["OIDS"]), ("Other_Lowercase", ["OLower"]), ("Other_Math", ["OMath"]),
   ("Other_Uppercase", ["OUpper"]), ("Pattern_Syntax", ["Pat_Syn"]),
   ("Pattern_White_Space", ["Pat_WS"]), ("Prepended_Concatenation_Mark", ["PCM"]),
   ("Quotation_Mark", ["QMark"]), ("Regional_Indicator", ["RI"]),
   ("Sentence_Terminal", ["STerm"]), ("Soft_Dotted", ["SD"]),
   ("Terminal_Punctuation", ["Term"]), ("Unified_Ideograph", ["UIdeo"]),
   ("Uppercase", ["Upper"]), ("Variation_Selector", ["VS"]),
   ("White_Space", ["WSpace", "space"]), ("XID_Continue", ["XIDC"]), ("XID_Start", ["XIDS"])]

/-- The other names of scripts. -/
def scriptNames : List (String × List String) :=
  [("Adlam", ["Adlm"]), ("Anatolian_Hieroglyphs", ["Hluw"]), ("Arabic", ["Arab"]),
   ("Armenian", ["Armn"]), ("Avestan", ["Avst"]), ("Balinese", ["Bali"]), ("Bamum", ["Bamu"]),
   ("Bassa_Vah", ["Bass"]), ("Batak", ["Batk"]), ("Bengali", ["Beng"]), ("Bhaiksuki", ["Bhks"]),
   ("Bopomofo", ["Bopo"]), ("Brahmi", ["Brah"]), ("Braille", ["Brai"]), ("Buginese", ["Bugi"]),
   ("Buhid", ["Buhd"]), ("Canadian_Aboriginal", ["Cans"]), ("Carian", ["Cari"]),
   ("Caucasian_Albanian", ["Aghb"]), ("Chakma", ["Cakm"]), ("Cherokee", ["Cher"]),
   ("Chorasmian", ["Chrs"]), ("Common", ["Zyyy"]), ("Coptic", ["Copt", "Qaac"]),
   ("Cuneiform", ["Xsux"]), ("Cypriot", ["Cprt"]), ("Cypro_Minoan", ["Cpmn"]),
   ("Cyrillic", ["Cyrl"]), ("Deseret", ["Dsrt"]), ("Devanagari", ["Deva"]),
   ("Dives_Akuru", ["Diak"]), ("Dogra", ["Dogr"]), ("Duployan", ["Dupl"]),
   ("Egyptian_Hieroglyphs", ["Egyp"]), ("Elbasan", ["Elba"]), ("Elymaic", ["Elym"]),
   ("Ethiopic", ["Ethi"]), ("Garay", ["Gara"]), ("Georgian", ["Geor"]),
   ("Glagolitic", ["Glag"]), ("Gothic", ["Goth"]), ("Grantha", ["Gran"]), ("Greek", ["Grek"]),
   ("Gujarati", ["Gujr"]), ("Gunjala_Gondi", ["Gong"]), ("Gurmukhi", ["Guru"]),
   ("Gurung_Khema", ["Gukh"]), ("Han", ["Hani"]), ("Hangul", ["Hang"]),
   ("Hanifi_Rohingya", ["Rohg"]), ("Hanunoo", ["Hano"]), ("Hatran", ["Hatr"]),
   ("Hebrew", ["Hebr"]), ("Hiragana", ["Hira"]), ("Imperial_Aramaic", ["Armi"]),
   ("Inherited", ["Zinh", "Qaai"]), ("Inscriptional_Pahlavi", ["Phli"]),
   ("Inscriptional_Parthian", ["Prti"]), ("Javanese", ["Java"]), ("Kaithi", ["Kthi"]),
   ("Kannada", ["Knda"]), ("Katakana", ["Kana"]), ("Kayah_Li", ["Kali"]),
   ("Kharoshthi", ["Khar"]), ("Khitan_Small_Script", ["Kits"]), ("Khmer", ["Khmr"]),
   ("Khojki", ["Khoj"]), ("Khudawadi", ["Sind"]), ("Kirat_Rai", ["Krai"]), ("Lao", ["Laoo"]),
   ("Latin", ["Latn"]), ("Lepcha", ["Lepc"]), ("Limbu", ["Limb"]), ("Linear_A", ["Lina"]),
   ("Linear_B", ["Linb"]), ("Lycian", ["Lyci"]), ("Lydian", ["Lydi"]), ("Mahajani", ["Mahj"]),
   ("Makasar", ["Maka"]), ("Malayalam", ["Mlym"]), ("Mandaic", ["Mand"]),
   ("Manichaean", ["Mani"]), ("Marchen", ["Marc"]), ("Masaram_Gondi", ["Gonm"]),
   ("Medefaidrin", ["Medf"]), ("Meetei_Mayek", ["Mtei"]), ("Mende_Kikakui", ["Mend"]),
   ("Meroitic_Cursive", ["Merc"]), ("Meroitic_Hieroglyphs", ["Mero"]), ("Miao", ["Plrd"]),
   ("Mongolian", ["Mong"]), ("Mro", ["Mroo"]), ("Multani", ["Mult"]), ("Myanmar", ["Mymr"]),
   ("Nabataean", ["Nbat"]), ("Nag_Mundari", ["Nagm"]), ("Nandinagari", ["Nand"]),
   ("New_Tai_Lue", ["Talu"]), ("Nko", ["Nkoo"]), ("Nushu", ["Nshu"]),
   ("Nyiakeng_Puachue_Hmong", ["Hmnp"]), ("Ogham", ["Ogam"]), ("Ol_Chiki", ["Olck"]),
   ("Ol_Onal", ["Onao"]), ("Old_Hungarian", ["Hung"]), ("Old_Italic", ["Ital"]),
   ("Old_North_Arabian", ["Narb"]), ("Old_Permic", ["Perm"]), ("Old_Persian", ["Xpeo"]),
   ("Old_Sogdian", ["Sogo"]), ("Old_South_Arabian", ["Sarb"]), ("Old_Turkic", ["Orkh"]),
   ("Old_Uyghur", ["Ougr"]), ("Oriya", ["Orya"]), ("Osage", ["Osge"]), ("Osmanya", ["Osma"]),
   ("Pahawh_Hmong", ["Hmng"]), ("Palmyrene", ["Palm"]), ("Pau_Cin_Hau", ["Pauc"]),
   ("Phags_Pa", ["Phag"]), ("Phoenician", ["Phnx"]), ("Psalter_Pahlavi", ["Phlp"]),
   ("Rejang", ["Rjng"]), ("Runic", ["Runr"]), ("Samaritan", ["Samr"]), ("Saurashtra", ["Saur"]),
   ("Sharada", ["Shrd"]), ("Shavian", ["Shaw"]), ("Siddham", ["Sidd"]),
   ("SignWriting", ["Sgnw"]), ("Sinhala", ["Sinh"]), ("Sogdian", ["Sogd"]),
   ("Sora_Sompeng", ["Sora"]), ("Soyombo", ["Soyo"]), ("Sundanese", ["Sund"]),
   ("Sunuwar", ["Sunu"]), ("Syloti_Nagri", ["Sylo"]), ("Syriac", ["Syrc"]),
   ("Tagalog", ["Tglg"]), ("Tagbanwa", ["Tagb"]), ("Tai_Le", ["Tale"]), ("Tai_Tham", ["Lana"]),
   ("Tai_Viet", ["Tavt"]), ("Takri", ["Takr"]), ("Tamil", ["Taml"]), ("Tangsa", ["Tnsa"]),
   ("Tangut", ["Tang"]), ("Telugu", ["Telu"]), ("Thaana", ["Thaa"]), ("Tibetan", ["Tibt"]),
   ("Tifinagh", ["Tfng"]), ("Tirhuta", ["Tirh"]), ("Todhri", ["Todr"]),
   ("Tulu_Tigalari", ["Tutg"]), ("Ugaritic", ["Ugar"]), ("Vai", ["Vaii"]),
   ("Vithkuqi", ["Vith"]), ("Wancho", ["Wcho"]), ("Warang_Citi", ["Wara"]),
   ("Yezidi", ["Yezi"]), ("Yi", ["Yiii"]), ("Zanabazar_Square", ["Zanb"])]

end DeclGen.Pattern
