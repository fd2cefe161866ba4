import Mathlib
import DeclGen.Emission.CamelCase
import DeclGen.Proofs.Text.Uppercase

/-!
# DeclGen.Proofs.Emission.CamelCase

Camel case, word by word, and the way back to snake case.

Camel case reads a name character by character.  The words of a name are what
stands between its underscores, where there is something (`words`), and
`joinWords` writes words together: the first as it is, each later one with its
first character in upper case.

* `camelCaseFrom_splitOn`: what is left of a name is read as parts between
  underscores, and the state of the reader says what becomes of the first part.
* `camelCase_wordwise`: camel case joins the words, and leaves no underscore.
* `camelCase_undone`: a name in regular snake case is got back by putting an
  underscore and a lower-case letter for each capital letter.
-/

namespace DeclGen

open Text (uppercase)

/-! ## words -/

/-- The words of a name: what stands between underscores, where there is
something. -/
def words (name : List Char) : List (List Char) := (name.splitOn '_').filter (· ≠ [])

/-- A word with its first character in upper case. -/
def capitalize : List Char → List Char
  | [] => []
  | c :: r => uppercase c ++ r

/-- Words written together, each but the first with its first character in upper
case. -/
def joinWords : List (List Char) → List Char
  | [] => []
  | first :: later => first ++ later.flatMap capitalize

/-- Parts without characters add nothing. -/
theorem flatMap_capitalize_filter (parts : List (List Char)) :
    (parts.filter (· ≠ [])).flatMap capitalize = parts.flatMap capitalize := by
  induction parts with
  | nil => rfl
  | cons part parts ih =>
      cases part with
      | nil => simpa [capitalize] using ih
      | cons c r => simpa using ih

/-! ## one character -/

theorem camelCaseFrom_underscore (started raise : Bool) (r : List Char) :
    camelCaseFrom started raise ('_' :: r) = camelCaseFrom started started r := rfl

/-- Any other character is kept, or put into upper case. -/
theorem camelCaseFrom_cons {c : Char} (hc : c ≠ '_') (started raise : Bool) (r : List Char) :
    camelCaseFrom started raise (c :: r) =
      (if raise then uppercase c else [c]) ++ camelCaseFrom true false r := by
  rw [camelCaseFrom, if_neg hc]
  cases raise <;> rfl

/-- Characters of the result are those of the name but for underscores, or come
in by upper case. -/
theorem mem_camelCaseFrom {started raise : Bool} {s : List Char} {c : Char}
    (h : c ∈ camelCaseFrom started raise s) :
    c ≠ '_' ∧ (c ∈ s ∨ Text.inRanges Text.formRanges c.toNat = true) := by
  induction s generalizing started raise with
  | nil => simp [camelCaseFrom] at h
  | cons d r ih =>
      by_cases hd : d = '_'
      · rw [hd, camelCaseFrom_underscore] at h
        exact (ih h).imp_right (Or.imp_left (List.mem_cons_of_mem d))
      · rw [camelCaseFrom_cons hd, List.mem_append] at h
        rcases h with h | h
        · cases raise with
          | false =>
              obtain rfl : c = d := List.mem_singleton.mp h
              exact ⟨hd, .inl List.mem_cons_self⟩
          | true =>
              refine ⟨?_, (Text.mem_uppercase h).imp_left ?_⟩
              · rintro rfl
                exact Text.not_mem_uppercase (by decide) hd h
              · rintro rfl
                exact List.mem_cons_self
        · exact (ih h).imp_right (Or.imp_left (List.mem_cons_of_mem d))

/-- Nothing is left of a name if and only if it has nothing but underscores. -/
theorem camelCaseFrom_eq_nil {started raise : Bool} {s : List Char} :
    camelCaseFrom started raise s = [] ↔ ∀ c ∈ s, c = '_' := by
  induction s generalizing started raise with
  | nil => simp [camelCaseFrom]
  | cons c r ih =>
      rw [List.forall_mem_cons]
      by_cases hc : c = '_'
      · rw [hc, camelCaseFrom_underscore, ih]
        simp
      · have hsome : (if raise then uppercase c else [c]) ≠ [] := by
          cases raise
          · exact List.cons_ne_nil c []
          · exact Text.uppercase_ne_nil c
        rw [camelCaseFrom_cons hc, List.append_eq_nil_iff]
        simp [hc, hsome]

/-! ## whole names -/

/-- What becomes of the rest of a name in the three states of the reader: within
a word, behind a word and its underscore, and in front of all words. -/
theorem camelCaseFrom_splitOn (s : List Char) :
    ∃ first later, s.splitOn '_' = first :: later ∧
      camelCaseFrom true false s = first ++ later.flatMap capitalize ∧
      camelCaseFrom true true s = (first :: later).flatMap capitalize ∧
      camelCaseFrom false false s = joinWords ((first :: later).filter (· ≠ [])) := by
  induction s with
  | nil => exact ⟨[], [], rfl, rfl, rfl, rfl⟩
  | cons c r ih =>
      obtain ⟨first, later, hsplit, hwithin, hbehind, hfront⟩ := ih
      by_cases hc : c = '_'
      · -- the part in front of the underscore is empty
        refine ⟨[], first :: later, ?_, ?_, ?_, ?_⟩
        · rw [List.splitOn_cons_eq_if_modifyHead, hsplit, if_pos (by simp [hc])]
        · rw [hc, camelCaseFrom_underscore, hbehind, List.nil_append]
        · rw [hc, camelCaseFrom_underscore, hbehind]
          rfl
        · rw [hc, camelCaseFrom_underscore, hfront]
          rfl
      · -- the character belongs to the first part
        refine ⟨c :: first, later, ?_, ?_, ?_, ?_⟩
        · rw [List.splitOn_cons_eq_if_modifyHead, hsplit, if_neg (by simp [hc])]
          rfl
        · rw [camelCaseFrom_cons hc, hwithin]
          rfl
        · rw [camelCaseFrom_cons hc, hwithin, List.flatMap_cons, capitalize, List.append_assoc]
          rfl
        · have hfilter : ((c :: first) :: later).filter (· ≠ []) =
              (c :: first) :: later.filter (· ≠ []) := rfl
          rw [camelCaseFrom_cons hc, hwithin, hfilter, joinWords, flatMap_capitalize_filter]
          rfl

/-- A name in camel case is its words joined. -/
theorem camelCase_eq_joinWords (name : List Char) : camelCase name = joinWords (words name) := by
  obtain ⟨first, later, hsplit, -, -, hfront⟩ := camelCaseFrom_splitOn name
  rw [camelCase, hfront, words, hsplit]

/-- There is no underscore in camel case. -/
theorem underscore_not_mem_camelCase (name : List Char) : '_' ∉ camelCase name :=
  fun h => (mem_camelCaseFrom h).1 rfl

/-- A name without underscores is in camel case already. -/
theorem camelCase_of_not_mem {name : List Char} (h : '_' ∉ name) : camelCase name = name := by
  rw [camelCase_eq_joinWords, words, List.splitOn_eq_singleton h]
  cases name <;> simp [joinWords]

/-- **Camel case, word by word.**  The result is what stands between underscores,
where there is something, written together: the first word as it is, each later
one with its first character replaced by the full upper-case form of it.  So
there is no underscore in it, and camel case of it changes nothing. -/
theorem camelCase_wordwise (name : List Char) :
    camelCase name = joinWords ((name.splitOn '_').filter (· ≠ [])) ∧
      '_' ∉ camelCase name ∧ camelCase (camelCase name) = camelCase name :=
  ⟨camelCase_eq_joinWords name, underscore_not_mem_camelCase name,
    camelCase_of_not_mem (underscore_not_mem_camelCase name)⟩

/-- Underscores at the ends and doubled ones leave nothing, and an upper-case
form may have several characters. -/
example : camelCase "__stra_ße__2_x_".toList = "straSSe2X".toList := by decide +kernel

/-! ## regular names -/

/-- Whether a text is made of lower-case ASCII letters and digits, a letter
first. -/
def isPlainWord : List Char → Bool
  | [] => false
  | c :: r => c.isLower && r.all fun d => d.isLower || d.isDigit

/-- Whether a name is in regular snake case: made of plain words with one
underscore between each two. -/
def isSnakeCase (name : List Char) : Bool := (name.splitOn '_').all isPlainWord

/-- A name with an underscore and the lower-case form in place of each capital
letter of ASCII. -/
def snakeCase (name : List Char) : List Char :=
  name.flatMap fun c => if c.isUpper then ['_', c.toLower] else [c]

/-- A digit is no capital letter. -/
theorem isUpper_eq_false_of_isDigit {c : Char} (h : c.isDigit = true) : c.isUpper = false := by
  rw [Char.isDigit_iff_toNat] at h
  rw [Char.isUpper, decide_eq_false_iff_not, ge_iff_le, UInt32.le_iff_toNat_le]
  exact fun hupper => absurd (hupper.1.trans h.2) (by decide)

/-- A plain word starts with a lower-case letter. -/
theorem isLower_of_isPlainWord {c : Char} {r : List Char} (h : isPlainWord (c :: r) = true) :
    c.isLower = true := (Bool.and_eq_true_iff.mp h).1

/-- Lower-case letters are letters. -/
theorem isAlpha_of_isLower {c : Char} (h : c.isLower = true) : c.isAlpha = true :=
  Bool.or_eq_true_iff.mpr (.inr h)

/-- The characters of a plain word are letters and digits, but no capitals. -/
theorem mem_plainWord {word : List Char} (h : isPlainWord word = true) {c : Char}
    (hc : c ∈ word) : c.isUpper = false ∧ c.isAlphanum = true := by
  have hkind : c.isLower = true ∨ c.isDigit = true := by
    cases word with
    | nil => contradiction
    | cons d r =>
        rw [isPlainWord, Bool.and_eq_true, List.all_eq_true] at h
        rcases List.mem_cons.mp hc with rfl | hr
        · exact .inl h.1
        · exact Bool.or_eq_true_iff.mp (h.2 c hr)
  rcases hkind with hlower | hdigit
  · exact ⟨Bool.eq_false_iff.mpr (Char.not_isUpper_of_isLower hlower),
      Bool.or_eq_true_iff.mpr (.inl (isAlpha_of_isLower hlower))⟩
  · exact ⟨isUpper_eq_false_of_isDigit hdigit, Bool.or_eq_true_iff.mpr (.inr hdigit)⟩

/-- A plain word is capitalised by its first letter. -/
theorem capitalize_plainWord {c : Char} {r : List Char} (h : isPlainWord (c :: r) = true) :
    capitalize (c :: r) = c.toUpper :: r := by
  have hascii : c.toNat < 0x80 :=
    Text.toNat_lt_of_isAlpha (isAlpha_of_isLower (isLower_of_isPlainWord h))
  rw [capitalize, Text.uppercase_of_ascii hascii, List.singleton_append]

/-! ## back to snake case -/

theorem snakeCase_append (s t : List Char) : snakeCase (s ++ t) = snakeCase s ++ snakeCase t :=
  List.flatMap_append

/-- A text without capitals is kept. -/
theorem snakeCase_of_no_upper {s : List Char} (h : ∀ c ∈ s, c.isUpper = false) :
    snakeCase s = s := by
  induction s with
  | nil => rfl
  | cons c r ih =>
      obtain ⟨hc, hr⟩ := List.forall_mem_cons.mp h
      have hhead : snakeCase [c] = [c] := by simp [snakeCase, hc]
      rw [← List.singleton_append, snakeCase_append, hhead, ih hr]

/-- A plain word that was capitalised is got back, with an underscore in front. -/
theorem snakeCase_capitalize {word : List Char} (h : isPlainWord word = true) :
    snakeCase (capitalize word) = '_' :: word := by
  cases word with
  | nil => contradiction
  | cons c r =>
      have hlower := isLower_of_isPlainWord h
      have hupper : c.toUpper.isUpper = true := by
        rw [Char.isUpper_toUpper_eq_isAlpha, isAlpha_of_isLower hlower]
      have hback : c.toUpper.toLower = c := by
        rw [Char.toLower_toUpper_eq_toLower,
          Char.toLower_eq_of_not_isUpper (Char.not_isUpper_of_isLower hlower)]
      have hhead : snakeCase [c.toUpper] = ['_', c] := by simp [snakeCase, hupper, hback]
      have hrest : snakeCase r = r :=
        snakeCase_of_no_upper fun d hd => (mem_plainWord h (List.mem_cons_of_mem c hd)).1
      rw [capitalize_plainWord h, ← List.singleton_append, snakeCase_append, hhead, hrest]
      rfl

/-- Parts with a separator between each two are the first, and then the others
with the separator in front. -/
theorem intercalate_cons {α : Type} (sep part : List α) (parts : List (List α)) :
    sep.intercalate (part :: parts) = part ++ parts.flatMap (sep ++ ·) := by
  induction parts generalizing part with
  | nil => simp
  | cons next parts ih =>
      rw [List.intercalate_cons_cons, ih, List.flatMap_cons, List.append_assoc, List.append_assoc]

/-- Plain words that were joined are got back, with an underscore between each
two. -/
theorem snakeCase_joinWords {parts : List (List Char)}
    (h : ∀ part ∈ parts, isPlainWord part = true) :
    snakeCase (joinWords parts) = ['_'].intercalate parts := by
  cases parts with
  | nil => rfl
  | cons first later =>
      obtain ⟨hfirst, hlater⟩ := List.forall_mem_cons.mp h
      have hback : snakeCase (later.flatMap capitalize) = later.flatMap (['_'] ++ ·) := by
        rw [snakeCase, List.flatMap_assoc]
        exact List.flatMap_congr fun word hword => snakeCase_capitalize (hlater word hword)
      rw [joinWords, intercalate_cons, snakeCase_append, hback,
        snakeCase_of_no_upper fun c hc => (mem_plainWord hfirst hc).1]

/-- Plain words that are joined make a text of letters and digits. -/
theorem isAlphanum_of_mem_joinWords {parts : List (List Char)}
    (h : ∀ part ∈ parts, isPlainWord part = true) {c : Char} (hc : c ∈ joinWords parts) :
    c.isAlphanum = true := by
  cases parts with
  | nil => contradiction
  | cons first later =>
      obtain ⟨hfirst, hlater⟩ := List.forall_mem_cons.mp h
      rcases List.mem_append.mp hc with hc | hc
      · exact (mem_plainWord hfirst hc).2
      · obtain ⟨word, hword, hc⟩ := List.mem_flatMap.mp hc
        have hplain := hlater word hword
        cases word with
        | nil => contradiction
        | cons d r =>
            rw [capitalize_plainWord hplain] at hc
            rcases List.mem_cons.mp hc with rfl | hr
            · rw [Char.isAlphanum, Char.isAlpha_toUpper_eq_isAlpha,
                isAlpha_of_isLower (isLower_of_isPlainWord hplain), Bool.true_or]
            · exact (mem_plainWord hplain (List.mem_cons_of_mem d hr)).2

/-- The words of a name in regular snake case are all that stands between
underscores. -/
theorem words_of_isSnakeCase {name : List Char} (h : isSnakeCase name = true) :
    words name = name.splitOn '_' := by
  rw [words, List.filter_eq_self]
  intro part hpart
  have hplain := List.all_eq_true.mp h part hpart
  cases part <;> simp_all [isPlainWord]

/-- A name in regular snake case is got back from camel case. -/
theorem snakeCase_camelCase {name : List Char} (h : isSnakeCase name = true) :
    snakeCase (camelCase name) = name := by
  rw [camelCase_eq_joinWords, words_of_isSnakeCase h, snakeCase_joinWords (List.all_eq_true.mp h),
    List.intercalate_splitOn]

/-- **Camel case of regular snake case can be undone.**  A name is made of words
of lower-case ASCII letters and digits, each with a letter first, and of one
underscore between each two.  Then its camel case is made of ASCII letters and
digits only, and with an underscore and the lower-case form in place of each
capital letter it is the name again. -/
theorem camelCase_undone (name : List Char) (h : isSnakeCase name = true) :
    (∀ c ∈ camelCase name, c.isAlphanum = true) ∧ snakeCase (camelCase name) = name := by
  refine ⟨fun c hc => ?_, snakeCase_camelCase h⟩
  rw [camelCase_eq_joinWords, words_of_isSnakeCase h] at hc
  exact isAlphanum_of_mem_joinWords (List.all_eq_true.mp h) hc

/-- A word may be one letter, and may have digits behind its first letter. -/
theorem camelCase_undone_words :
    isSnakeCase "v2_utf8_x_size".toList = true ∧
      camelCase "v2_utf8_x_size".toList = "v2Utf8XSize".toList ∧
      (∀ c ∈ "v2Utf8XSize".toList, c.isAlphanum = true) ∧
      snakeCase "v2Utf8XSize".toList = "v2_utf8_x_size".toList := by
  have hregular : isSnakeCase "v2_utf8_x_size".toList = true := by decide
  have hcamel : camelCase "v2_utf8_x_size".toList = "v2Utf8XSize".toList := by decide
  have hundone := camelCase_undone _ hregular
  rw [hcamel] at hundone
  exact ⟨hregular, hcamel, hundone⟩

end DeclGen
