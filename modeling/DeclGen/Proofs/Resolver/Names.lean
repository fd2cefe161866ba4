import DeclGen.Proofs.Resolver.Configured
import DeclGen.Proofs.Resolver.Plain
import DeclGen.Proofs.Settings.Valid

/-!
# DeclGen.Proofs.Resolver.Names

The names in a mapping under valid settings.

1. A target of valid settings is trimmed and not empty.
2. The names of scalars and of parsed paths have no blanks at all, whether
   namespaces are stripped or not (`isRun_pathName`).

So every name in the mapping of a parsed type is trimmed (`Occurs.trimmed`), and
every such type has a text that can be seen (`Occurs.exists_visible`).
-/

namespace DeclGen

open Text

/-! ## trimmed texts -/

/-- A text has characters, and neither the first nor the last is a blank. -/
structure Trimmed (s : String) : Prop where
  ne_empty : s ≠ ""
  head : ∀ c ∈ s.toList.head?, isBlank c = false
  last : ∀ c ∈ s.toList.getLast?, isBlank c = false

/-- A text that is not blank is trimmed when its outer blanks are taken away. -/
theorem trimmed_trim {s : String} (h : isBlankText s = false) :
    Trimmed (String.ofList (trim s.toList)) where
  ne_empty := by
    rw [Ne, String.ofList_eq_empty_iff]
    exact isBlankText_eq_false.mp h
  head c hc := isBlank_of_head_trim (String.toList_ofList ▸ hc)
  last c hc := isBlank_of_getLast_trim (String.toList_ofList ▸ hc)

/-- The characters of plain names are not blank. -/
theorem isBlank_of_isNameChar {c : Char} (h : TypeName.isNameChar c = true) :
    isBlank c = false := by
  by_contra hblank
  have hword : Native.isIdentifierChar c = false :=
    Native.isIdentifierChar_of_isBlank (by simpa using hblank)
  have hdot : c = '.' := by
    rw [TypeName.isNameChar, ← Native.isIdentifierChar, hword] at h
    simpa using h
  exact hblank (hdot ▸ by decide)

/-- A plain name is trimmed. -/
theorem trimmed_of_isRun {name : String} (h : IsRun TypeName.isNameChar name.toList) :
    Trimmed name where
  ne_empty heq := h.1 (heq ▸ rfl)
  head c hc := isBlank_of_isNameChar (h.2 c (List.mem_of_head? hc))
  last c hc := isBlank_of_isNameChar (h.2 c (List.mem_of_getLast? hc))

/-! ## names -/

namespace Resolver

variable {r : Resolver}

/-- All targets are trimmed names. -/
def TargetsTrimmed (r : Resolver) : Prop :=
  ∀ target, r.IsTarget target → ∃ name, target = .simple name ∧ Trimmed name

/-- Valid settings put trimmed names. -/
theorem targetsTrimmed_ofSettings {s : ResolverSettings} (h : s.validate = .ok ()) :
    (ofSettings s).TargetsTrimmed := by
  intro target htarget
  obtain ⟨given, hgiven, rfl⟩ := isTarget_ofSettings.mp htarget
  have hvalid := ResolverSettings.validate_eq_ok.mp h given hgiven
  exact ⟨_, rfl, trimmed_trim hvalid.target_ne_blank⟩

/-- The name of whatever occurs in a mapping is trimmed if the targets are. -/
theorem Occurs.trimmed (hr : r.TargetsTrimmed) {t : TypeName} (h : r.Occurs t) :
    ∀ name ∈ t.simpleName?, Trimmed name := by
  cases h with
  | target htarget hmem =>
      obtain ⟨name, rfl, hname⟩ := hr _ htarget
      obtain rfl : t = .simple name := by
        simpa [TypeName.simple, TypeName.nodes, TypeName.nodesAll] using hmem
      rintro _ ⟨⟩
      exact hname
  | scalar kind =>
      rintro _ ⟨⟩
      exact trimmed_of_isRun (isRun_typeScriptName kind)
  | path _ hpath =>
      rintro _ ⟨⟩
      exact trimmed_of_isRun (isRun_pathName r hpath)
  | null =>
      rintro _ ⟨⟩
      exact trimmed_of_isRun (by decide)
  | _ =>
      intro _ hname
      contradiction

/-- A union occurs only as an optional type, if the targets are names. -/
theorem Occurs.eq_nullable (hr : r.TargetsTrimmed) {variants : List TypeName}
    (h : r.Occurs (.union variants)) : ∃ inner, variants = [inner, .simple "null"] := by
  cases h with
  | target htarget hmem =>
      obtain ⟨name, rfl, -⟩ := hr _ htarget
      simp [TypeName.simple, TypeName.nodes, TypeName.nodesAll] at hmem
  | nullable inner => exact ⟨inner, rfl⟩

/-- The text of whatever occurs in a mapping has a character that is not blank. -/
theorem Occurs.exists_visible (hr : r.TargetsTrimmed) {t : TypeName} (h : r.Occurs t) :
    ∃ c ∈ t.text, isBlank c = false := by
  cases t with
  | named name arguments =>
      have hname : Trimmed name := h.trimmed hr name rfl
      obtain ⟨c, rest, hc⟩ := List.exists_cons_of_ne_nil
        (mt String.toList_eq_nil_iff.mp hname.ne_empty)
      refine ⟨c, ?_, hname.head c (by simp [hc])⟩
      rw [TypeName.text_named, hc]
      exact List.mem_cons_self
  | array element => exact ⟨']', by simp [TypeName.text_array], by decide⟩
  | tuple items => exact ⟨']', by simp [TypeName.text_tuple], by decide⟩
  | dictionary key value => exact ⟨':', by simp [TypeName.text_dictionary], by decide⟩
  | union variants =>
      obtain ⟨inner, rfl⟩ := h.eq_nullable hr
      refine ⟨'|', ?_, by decide⟩
      rw [TypeName.text_union, List.map_cons, List.map_singleton, List.intercalate_cons_cons]
      exact List.mem_append_left _ (List.mem_append_right _ (by decide))

/-- **No name is blank under valid settings.**  In the mapping of a parsed type
every name is trimmed and not empty, so the text of the type is not blank.
Settings read from a document are valid. -/
theorem names_trimmed :
    (∀ s : ResolverSettings, s.validate = .ok () → ∀ (source : String) (t : Native),
        Native.parse source = .ok t →
          (∀ u ∈ ((ofSettings s).resolve t).nodes, ∀ name ∈ u.simpleName?, Trimmed name) ∧
            isBlankText (toString ((ofSettings s).resolve t)) = false) ∧
      ∀ (document : String) (settings : Settings), Settings.parse document = .ok settings →
        settings.resolver.validate = .ok () := by
  constructor
  · intro s hvalid source t hparse
    have hr : (ofSettings s).TargetsTrimmed := targetsTrimmed_ofSettings hvalid
    have hoccurs : ∀ u ∈ ((ofSettings s).resolve t).nodes, (ofSettings s).Occurs u :=
      occurs_of_mem_nodes (Native.regularWithin_of_parse hparse).1
    refine ⟨fun u hu => (hoccurs u hu).trimmed hr, ?_⟩
    have hself : (ofSettings s).resolve t ∈ ((ofSettings s).resolve t).nodes := by
      cases (ofSettings s).resolve t <;> exact List.mem_cons_self
    obtain ⟨c, hc, hvisible⟩ := (hoccurs _ hself).exists_visible hr
    rw [isBlankText_eq_false]
    show trim (String.ofList _).toList ≠ []
    rw [String.toList_ofList]
    exact trim_ne_nil hc hvisible
  · intro document settings h
    exact Settings.validate_resolver (Settings.validate_of_parse h)

/-- Settings with blanks around the targets. -/
def spacedTargets : ResolverSettings :=
  ⟨false, .union, Substitutions.ofList [("Uuid", " string | number "), ("str", "\tText\n")]⟩

/-- Paths, scalars and targets together, and settings read from a document. -/
theorem names_trimmed_spaced :
    let t : Native := .optional
      (.map (.named "uuid::Uuid" []) (.named "geo::Page" [.primitive .string]))
    let target := (ofSettings spacedTargets).resolve t
    spacedTargets.validate = .ok () ∧
      Native.parse "Option<HashMap<uuid::Uuid, geo::Page<&str>>>" = .ok t ∧
      toString target = "\x7b [key: string | number]: geo.Page<Text> \x7d | null" ∧
      (∀ u ∈ target.nodes, ∀ name ∈ u.simpleName?, Trimmed name) ∧
      isBlankText (toString target) = false ∧
      ∃ settings, Settings.parse "[resolver.substitutions]\nUuid = ' string '" = .ok settings ∧
        settings.resolver.validate = .ok () := by
  intro t target
  have hvalid : spacedTargets.validate = .ok () := rfl
  have hparse : Native.parse "Option<HashMap<uuid::Uuid, geo::Page<&str>>>" = .ok t := by rfl
  obtain ⟨htrimmed, hvisible⟩ := names_trimmed.1 spacedTargets hvalid _ t hparse
  obtain ⟨settings, hsettings⟩ : ∃ settings,
      Settings.parse "[resolver.substitutions]\nUuid = ' string '" = .ok settings := ⟨_, rfl⟩
  exact ⟨hvalid, hparse, rfl, htrimmed, hvisible, settings, hsettings,
    names_trimmed.2 _ settings hsettings⟩

end Resolver

end DeclGen
