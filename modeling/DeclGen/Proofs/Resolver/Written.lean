import DeclGen.Proofs.Native.Complete
import DeclGen.Proofs.Native.Path
import DeclGen.Proofs.Native.Printed
import DeclGen.Proofs.Resolver.Configured
import DeclGen.Proofs.Settings.Valid

/-!
# DeclGen.Proofs.Resolver.Written

Substitutions for paths as they are written.

1. A text without blanks spells a path just if it is the text of the path, with
   or without a leading `::` (`spellsPath_iff`).
2. A parsed path without arguments is a scalar if its last name names one, and
   otherwise a named type that has the path without the leading `::`
   (`eq_ofName_of_parse`).
3. Both are looked up in the settings (`resolve_primitive_ofSettings`,
   `resolve_named_ofSettings`).

Hence a substitution for the path as it is written takes effect unless the path
starts with `::` or is a qualified scalar (`substituted_as_written`).
-/

namespace DeclGen

open Text

/-! ## paths without arguments -/

namespace Native

/-- A text is a path without arguments, with blanks wherever they may stand. -/
def SpellsPath (rooted : Bool) (first : Word) (more : List Word) (source : String) : Prop :=
  ∃ r, Spells (root rooted ++ nameTokens first more) source.toList r ∧ skipBlanks r = []

/-- Without blanks between them the characters of tokens are the text. -/
theorem eq_flatMap_of_spells {ts : List Token} {s r : List Char} (h : Spells ts s r)
    (hs : ∀ c ∈ s, isBlank c = false) : s = ts.flatMap Token.chars ++ r := by
  induction ts generalizing s with
  | nil => exact h
  | cons t ts ih =>
      obtain ⟨m, hread, hts⟩ := h
      have hskip : skipBlanks s = s := skipBlanks_of_head fun c hc => hs c (List.mem_of_head? hc)
      have hfront : s = t.chars ++ m := hskip.symm.trans hread.1
      have hm : ∀ c ∈ m, isBlank c = false :=
        fun c hc => hs c (hfront ▸ List.mem_append_right t.chars hc)
      rw [List.flatMap_cons, List.append_assoc, ← ih hts hm]
      exact hfront

/-- The characters of the names of a path. -/
theorem flatMap_nameTokens (first : Word) (more : List Word) :
    (nameTokens first more).flatMap Token.chars = (pathText first more).toList := by
  rw [pathText, String.toList_ofList]
  induction more generalizing first with
  | nil => simp [nameTokens, Token.chars]
  | cons w more ih =>
      have hsplit : nameTokens first (w :: more) =
          .word first :: .mark .scope :: nameTokens w more := rfl
      rw [hsplit, List.flatMap_cons, List.flatMap_cons, ih, List.map_cons,
        List.intercalate_cons_cons, List.append_assoc]
      rfl

/-- The text of a path with or without a leading `::`. -/
def sourceText (rooted : Bool) (first : Word) (more : List Word) : String :=
  (if rooted then "::" else "") ++ pathText first more

/-- **A text without blanks spells a path just if it is the path's text.** -/
theorem spellsPath_iff {rooted : Bool} {first : Word} {more : List Word} {source : String}
    (hsource : ∀ c ∈ source.toList, isBlank c = false) :
    SpellsPath rooted first more source ↔ source = sourceText rooted first more := by
  constructor
  · rintro ⟨r, hspells, hr⟩
    have htext := eq_flatMap_of_spells hspells hsource
    have hnil : r = [] := by
      refine List.eq_nil_iff_forall_not_mem.mpr fun c hc => ?_
      have hblank : isBlank c = true := skipBlanks_eq_nil.mp hr c hc
      rw [hsource c (htext ▸ List.mem_append_right _ hc)] at hblank
      contradiction
    rw [hnil, List.append_nil, List.flatMap_append, flatMap_nameTokens] at htext
    rw [← String.toList_inj, htext, sourceText, String.toList_append]
    cases rooted <;> rfl
  · rintro rfl
    have hnames : Spells (nameTokens first more) ((pathText first more).toList ++ []) [] :=
      spells_nameTokens first more (by simp [Ends])
    rw [List.append_nil] at hnames
    refine ⟨[], ?_, rfl⟩
    rw [sourceText, String.toList_append]
    cases rooted with
    | false => exact hnames
    | true => exact ⟨_, reads_mark_append .scope _, hnames⟩

/-- **What a path without arguments means**; a leading `::` does not matter. -/
theorem eq_ofName_of_parse {rooted : Bool} {first : Word} {more : List Word} {source : String}
    {t : Native} (h : SpellsPath rooted first more source) (hparse : parse source = .ok t) :
    t = ofName (lastName first more) (pathText first more) [] := by
  obtain ⟨r, hspells, hr⟩ := h
  let tree : Tree := .path rooted first more .nil false
  have htokens : tree.tokens = root rooted ++ nameTokens first more := by
    show root rooted ++ (nameTokens first more ++ []) = _
    rw [List.append_nil]
  have hgreedy : tree.Greedy :=
    Tree.forall_nodes.mpr ⟨trivial, by simp [tree, Tree.children, Arguments.types]⟩
  exact ((parseChars_eq_ok (htokens ▸ hspells) hgreedy hr).mp (parse_eq_ok.mp hparse)).1

/-- A name of a scalar is its spelling, or `str` for a text. -/
theorem spelling_of_ofIdentifier? {name : String} {kind : Primitive}
    (h : Primitive.ofIdentifier? name = some kind) :
    name = kind.spelling ∨ name = "str" ∧ kind = .string := by
  have hall : ∀ p ∈ Primitive.identifiers,
      p.1 = p.2.spelling ∨ p.1 = "str" ∧ p.2 = .string := by decide
  exact hall _ (Resolver.mem_of_lookup h)

end Native

/-! ## lookup in the settings -/

/-- The text for a scalar: that of its spelling; `str` stands for a text too. -/
def ResolverSettings.scalarText? (s : ResolverSettings) (kind : Primitive) : Option String :=
  (s.substitutions.get? kind.spelling).or
    (if kind = .string then s.substitutions.get? "str" else none)

/-- The text for a path: that of the whole path, or else of its last segment. -/
def ResolverSettings.pathText? (s : ResolverSettings) (path : String) : Option String :=
  (s.substitutions.get? path).or (s.substitutions.get? (Native.lastSegment path))

namespace Resolver

open Native (SpellsPath Word lastName ofName pathText)

/-- A scalar is the target of its text, or else has a name of its own. -/
theorem resolve_primitive_ofSettings (s : ResolverSettings) (kind : Primitive) :
    (ofSettings s).resolve (.primitive kind) =
      ((s.scalarText? kind).map configuredTarget).getD (.simple kind.typeScriptName) := by
  rw [resolve, primitiveSubstitution, ResolverSettings.scalarText?, Option.map_or]
  simp only [lookup_ofSettings]
  split <;> rfl

/-- A path without arguments is the target of its text, or else has its own name. -/
theorem resolve_named_ofSettings (s : ResolverSettings) (path : String) :
    (ofSettings s).resolve (.named path []) =
      ((s.pathText? path).map configuredTarget).getD (.simple ((ofSettings s).pathName path)) := by
  rw [resolve, substitution, ResolverSettings.pathText?, Option.map_or, lookup_ofSettings,
    lookup_ofSettings]
  rfl

/-- A path whose last name names a scalar is that scalar. -/
theorem resolve_scalar_path (s : ResolverSettings) {first : Word} {more : List Word}
    {kind : Primitive} (h : Primitive.ofIdentifier? (lastName first more) = some kind) :
    (ofSettings s).resolve (ofName (lastName first more) (pathText first more) []) =
      ((s.scalarText? kind).map configuredTarget).getD (.simple kind.typeScriptName) := by
  rw [ofName, h]
  exact resolve_primitive_ofSettings s kind

/-- A path whose last name names no scalar is looked up itself. -/
theorem resolve_other_path (s : ResolverSettings) {first : Word} {more : List Word}
    (h : Primitive.ofIdentifier? (lastName first more) = none) :
    (ofSettings s).resolve (ofName (lastName first more) (pathText first more) []) =
      ((s.pathText? (pathText first more)).map configuredTarget).getD
        (.simple ((ofSettings s).pathName (pathText first more))) := by
  rw [ofName, h]
  exact resolve_named_ofSettings s (pathText first more)

/-- The text for a scalar whose name is a key is that of the key, unless it is
`str` beside `String`. -/
theorem scalarText?_of_key {s : ResolverSettings} {name target : String} {kind : Primitive}
    (hname : Primitive.ofIdentifier? name = some kind)
    (hkey : s.substitutions.get? name = some target)
    (hstr : name = "str" → s.substitutions.get? "String" = none) :
    s.scalarText? kind = some target := by
  unfold ResolverSettings.scalarText?
  rcases Native.spelling_of_ofIdentifier? hname with rfl | ⟨rfl, rfl⟩
  · rw [hkey]
    rfl
  · have hspelling : Primitive.string.spelling = "String" := rfl
    rw [hspelling, hstr rfl]
    exact hkey

/-- **Substitutions for paths as they are written.**  Under valid settings, a
path without arguments that is a key is mapped to the trimmed text of that key,
if it does not start with `::` and if its last name names no scalar or is the
whole path; `str` beside `String` is excepted.

A path whose last name names a scalar is that scalar: it is mapped as the keys
of the scalar say.  Any other path is mapped as the keys of the path without the
leading `::` say. -/
theorem substituted_as_written {s : ResolverSettings} (hvalid : s.validate = .ok ())
    {source target : String} (hkey : s.substitutions.get? source = some target)
    {rooted : Bool} {first : Word} {more : List Word}
    (hsource : SpellsPath rooted first more source)
    {t : Native} (hparse : Native.parse source = .ok t) :
    (rooted = false →
        Primitive.ofIdentifier? (lastName first more) = none ∨
          (more = [] ∧ (source = "str" → s.substitutions.get? "String" = none)) →
        (ofSettings s).resolve t = configuredTarget target) ∧
      (∀ kind, Primitive.ofIdentifier? (lastName first more) = some kind →
        (ofSettings s).resolve t =
          ((s.scalarText? kind).map configuredTarget).getD (.simple kind.typeScriptName)) ∧
      (Primitive.ofIdentifier? (lastName first more) = none →
        (ofSettings s).resolve t =
          ((s.pathText? (pathText first more)).map configuredTarget).getD
            (.simple ((ofSettings s).pathName (pathText first more)))) := by
  obtain rfl := Native.eq_ofName_of_parse hsource hparse
  refine ⟨fun hrooted hcase => ?_, fun _ => resolve_scalar_path s, resolve_other_path s⟩
  -- a key has no blanks, so the source is the text of the path
  have hblanks := (ResolverSettings.validSubstitution hvalid hkey).source_without_blanks
  have htext : source = pathText first more := by
    rw [(Native.spellsPath_iff hblanks).mp hsource, hrooted, Native.sourceText]
    exact String.empty_append
  cases hname : Primitive.ofIdentifier? (lastName first more) with
  | none =>
      rw [resolve_other_path s hname, ResolverSettings.pathText?, ← htext, hkey]
      rfl
  | some kind =>
      obtain ⟨rfl, hstr⟩ := hcase.resolve_left (by simp [hname])
      have hlast : source = lastName first [] := htext.trans (Native.pathText_nil first)
      rw [resolve_scalar_path s hname, scalarText?_of_key (hlast ▸ hname) hkey hstr]
      rfl

/-- Settings with a qualified scalar and a leading `::` among the keys. -/
def writtenPaths : ResolverSettings :=
  ⟨true, .union, Substitutions.ofList
    [("geo::Point", " Position "), ("Point", "Dot"), ("str", "Text"),
      ("std::str", "Lost"), ("::geo::Point", "Lost")]⟩

/-- A qualified path and a bare scalar are mapped as written, a qualified scalar
as the scalar, and a path with a leading `::` as the one without it. -/
theorem substituted_as_written_paths :
    writtenPaths.validate = .ok () ∧
      (∃ t, Native.parse "geo::Point" = .ok t ∧
        (ofSettings writtenPaths).resolve t = .simple "Position") ∧
      (∃ t, Native.parse "str" = .ok t ∧ (ofSettings writtenPaths).resolve t = .simple "Text") ∧
      (∃ t, Native.parse "std::str" = .ok t ∧
        (ofSettings writtenPaths).resolve t = .simple "Text") ∧
      ∃ t, Native.parse "::geo::Point" = .ok t ∧
        (ofSettings writtenPaths).resolve t = .simple "Position" := by
  let geo : Word := ⟨'g', ['e', 'o'], by decide, List.all_eq_true.mp (by decide)⟩
  let point : Word := ⟨'P', ['o', 'i', 'n', 't'], by decide, List.all_eq_true.mp (by decide)⟩
  let std : Word := ⟨'s', ['t', 'd'], by decide, List.all_eq_true.mp (by decide)⟩
  let str : Word := ⟨'s', ['t', 'r'], by decide, List.all_eq_true.mp (by decide)⟩
  have hvalid : writtenPaths.validate = .ok () := rfl
  have hqualified : SpellsPath false geo [point] "geo::Point" :=
    (Native.spellsPath_iff (by simp [isBlank])).mpr (by decide)
  have hbare : SpellsPath false str [] "str" :=
    (Native.spellsPath_iff (by simp [isBlank])).mpr (by decide)
  have hscalar : SpellsPath false std [str] "std::str" :=
    (Native.spellsPath_iff (by simp [isBlank])).mpr (by decide)
  have hrooted : SpellsPath true geo [point] "::geo::Point" :=
    (Native.spellsPath_iff (by simp [isBlank])).mpr (by decide)
  have hpoint : Native.parse "geo::Point" = .ok (.named "geo::Point" []) := by rfl
  have htext : Native.parse "str" = .ok (.primitive .string) := by rfl
  have htext' : Native.parse "std::str" = .ok (.primitive .string) := by rfl
  have hpoint' : Native.parse "::geo::Point" = .ok (.named "geo::Point" []) := by rfl
  have hposition : writtenPaths.substitutions.get? "geo::Point" = some " Position " := rfl
  have hgiven : writtenPaths.substitutions.get? "str" = some "Text" := rfl
  refine ⟨hvalid, ⟨_, hpoint, ?_⟩, ⟨_, htext, ?_⟩, ⟨_, htext', ?_⟩, ⟨_, hpoint', ?_⟩⟩
  · exact (substituted_as_written hvalid hposition hqualified hpoint).1 rfl (.inl rfl)
  · exact (substituted_as_written hvalid hgiven hbare htext).1 rfl (.inr ⟨rfl, fun _ => rfl⟩)
  · exact (substituted_as_written hvalid rfl hscalar htext').2.1 .string rfl
  · exact (substituted_as_written hvalid rfl hrooted hpoint').2.2 rfl

/-- A qualified scalar and a path with a leading `::` are not mapped as written. -/
theorem not_substituted_as_written :
    let s : ResolverSettings := ⟨true, .union, Substitutions.ofList
      [("std::string::String", "Text"), ("::geo::Point", "Position")]⟩
    s.validate = .ok () ∧
      ((∃ first more, SpellsPath false first more "std::string::String") ∧
        s.substitutions.get? "std::string::String" = some "Text" ∧
        Native.parse "std::string::String" = .ok (.primitive .string) ∧
        (ofSettings s).resolve (.primitive .string) = .simple "string" ∧
        (ofSettings s).resolve (.primitive .string) ≠ configuredTarget "Text") ∧
      (∃ first more, SpellsPath true first more "::geo::Point") ∧
        s.substitutions.get? "::geo::Point" = some "Position" ∧
        Native.parse "::geo::Point" = .ok (.named "geo::Point" []) ∧
        (ofSettings s).resolve (.named "geo::Point" []) = .simple "Point" ∧
        (ofSettings s).resolve (.named "geo::Point" []) ≠ configuredTarget "Position" := by
  let std : Word := ⟨'s', ['t', 'd'], by decide, List.all_eq_true.mp (by decide)⟩
  let middle : Word := ⟨'s', ['t', 'r', 'i', 'n', 'g'], by decide, List.all_eq_true.mp (by decide)⟩
  let last : Word := ⟨'S', ['t', 'r', 'i', 'n', 'g'], by decide, List.all_eq_true.mp (by decide)⟩
  let geo : Word := ⟨'g', ['e', 'o'], by decide, List.all_eq_true.mp (by decide)⟩
  let point : Word := ⟨'P', ['o', 'i', 'n', 't'], by decide, List.all_eq_true.mp (by decide)⟩
  have hscalar : SpellsPath false std [middle, last] "std::string::String" :=
    (Native.spellsPath_iff (by simp [isBlank])).mpr (by decide)
  have hrooted : SpellsPath true geo [point] "::geo::Point" :=
    (Native.spellsPath_iff (by simp [isBlank])).mpr (by decide)
  have htext : Native.parse "std::string::String" = .ok (.primitive .string) := by rfl
  have hpoint : Native.parse "::geo::Point" = .ok (.named "geo::Point" []) := by rfl
  exact ⟨rfl, ⟨⟨_, _, hscalar⟩, rfl, htext, rfl, by decide⟩, ⟨_, _, hrooted⟩, rfl, hpoint, rfl,
    by decide⟩

end Resolver

end DeclGen
