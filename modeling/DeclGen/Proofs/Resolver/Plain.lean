import DeclGen.Proofs.Resolver.Nodes
import DeclGen.Proofs.TypeName.Unambiguous

/-!
# DeclGen.Proofs.Resolver.Plain

The default mapping of parsed types gives plain types, and with what is known of
those their text says which types they are.

* `isRun_pathName`: the name of a path is plain, whether namespaces are stripped
  from it or kept;
* `plain_resolve`: the mapping of a regular type is plain, node by node.
-/

namespace DeclGen

open Text

namespace Resolver

/-! ## names -/

/-- The characters of a word may stand in a name. -/
theorem isRun_chars (w : Native.Word) : IsRun TypeName.isNameChar w.chars := by
  have hfirst : Native.isIdentifierChar w.first = true := (Bool.and_eq_true_iff.mp w.starts).1
  have hchars : ∀ c ∈ w.chars, Native.isIdentifierChar c = true :=
    List.forall_mem_cons.mpr ⟨hfirst, w.continues⟩
  refine ⟨List.cons_ne_nil _ _, fun c hc => ?_⟩
  have hc : (isAlphanumeric c || c == '_') = true := hchars c hc
  rw [TypeName.isNameChar, hc, Bool.true_or]

/-- The dots that stand for `::` are all that changes in a path. -/
theorem replaceAll_pathText (first : Native.Word) (more : List Native.Word) :
    replaceAll [':', ':'] ['.'] (Native.pathText first more).toList =
      List.intercalate ['.'] ((first :: more).map Native.Word.chars) := by
  rw [Native.pathText, String.toList_ofList, List.map_cons]
  refine replaceAll_intercalate (by simp) fun part hpart => ?_
  obtain ⟨w, -, rfl⟩ := List.mem_map.mp (List.map_cons ▸ hpart)
  exact apart_of_not_mem (Native.colon_not_mem_chars w)

/-- The name of a path is plain. -/
theorem isRun_pathName (r : Resolver) {path : String} (h : Native.IsPath path) :
    IsRun TypeName.isNameChar (r.pathName path).toList := by
  obtain ⟨first, more, rfl⟩ := h
  unfold pathName
  split
  · rw [Native.lastSegment_pathText, Native.lastName, String.toList_ofList]
    exact isRun_chars _
  · rw [String.toList_ofList, replaceAll_pathText]
    have hdot : ∀ c ∈ ['.'], TypeName.isNameChar c = true :=
      List.forall_mem_singleton.mpr (by decide)
    refine isRun_intercalate (by simp) hdot fun part hpart => ?_
    obtain ⟨w, -, rfl⟩ := List.mem_map.mp hpart
    exact isRun_chars w

/-- The names of scalars are plain. -/
theorem isRun_typeScriptName (kind : Primitive) :
    IsRun TypeName.isNameChar kind.typeScriptName.toList := by
  cases kind <;> decide

/-! ## types -/

variable {r : Resolver}

/-- Whatever occurs in a mapping without substitutions is plain at its node. -/
theorem Occurs.plainNode (hr : r.substitutions = []) {t : TypeName} (h : r.Occurs t) :
    t.PlainNode := by
  cases h with
  | target htarget _ =>
      obtain ⟨key, hmem⟩ := htarget
      rw [hr] at hmem
      contradiction
  | scalar kind => exact isRun_typeScriptName kind
  | path _ hpath => exact isRun_pathName r hpath
  | null => exact (by decide : (TypeName.simple "null").PlainNode)
  | nullable inner => exact Nat.le_refl 2
  | _ => trivial

/-- The mapping of a regular type is plain, if nothing is substituted. -/
theorem plain_resolve (hr : r.substitutions = []) {n : Nat} {t : Native}
    (h : t.RegularWithin n) : (r.resolve t).Plain :=
  fun u hu => (occurs_of_mem_nodes h.1 u hu).plainNode hr

end Resolver

/-- **The text of a type is unambiguous.**  Two plain types have the same text
if and only if they are the same up to unions that stand directly inside unions;
and every type to which a parsed native type is mapped is plain, whatever the
settings, unless there are substitutions. -/
theorem TypeName.text_unambiguous :
    (∀ a b : TypeName, a.Plain → b.Plain → (toString a = toString b ↔ a.flat = b.flat)) ∧
      ∀ (source : String) (t : Native), Native.parse source = .ok t →
        ∀ r : Resolver, r.substitutions = [] → (r.resolve t).Plain := by
  constructor
  · intro a b ha hb
    have htext : toString a = toString b ↔ a.text = b.text := String.ofList_inj
    exact htext.trans (text_eq_iff ha hb)
  · intro source t hparse r hr
    exact Resolver.plain_resolve hr (Native.regularWithin_of_parse hparse)

/-- A union inside a union has the text of the union with all variants in one. -/
theorem TypeName.text_unambiguous_nested :
    let nested := union [union [simple "A", tuple []], array (union [simple "B", simple "C"])]
    let spliced := union [simple "A", tuple [], array (union [simple "B", simple "C"])]
    nested.Plain ∧ spliced.Plain ∧ toString nested = toString spliced := by
  have hplain : (union [union [simple "A", tuple []],
      array (union [simple "B", simple "C"])]).Plain := by decide
  have hplain' : (union [simple "A", tuple [],
      array (union [simple "B", simple "C"])]).Plain := by decide
  exact ⟨hplain, hplain', (text_unambiguous.1 _ _ hplain hplain').mpr rfl⟩

end DeclGen
