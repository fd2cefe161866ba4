import DeclGen.Proofs.Resolver.Configured
import DeclGen.Proofs.Resolver.Plain
import DeclGen.Proofs.TypeName.Elements

/-!
# DeclGen.Proofs.Resolver.Elements

When a type keeps its meaning as the element of a sequence.

A configured target is a name as it stands, whatever its text is, so it is never
parenthesised.  What decides on a type is found below its sequences, its arrays
and, in the bare style, its optional types.

* `isLoose_resolve`: maps and, in the union style, optional types are
  parenthesised (`parenthesises`).
* `showsBar_resolve`: all others show a bar if and only if the name with which
  their text begins does (`bareName?`).
* `balanced_resolve`: the mapping of a regular type is balanced if the targets
  are.
-/

namespace DeclGen

open Text

namespace Resolver

variable {r : Resolver}

/-! ## what decides -/

/-- Whether a type is parenthesised as an element: a map, or an optional type in
the union style. -/
def parenthesises (r : Resolver) : Native → Bool
  | .map _ _ => true
  | .optional inner => match r.optionalStyle with
    | .union => true
    | .bare => parenthesises r inner
  | _ => false

/-- The name with which the text of a type begins, if nothing but arguments and
the brackets of arrays stands behind it. -/
def bareName? (r : Resolver) : Native → Option String
  | .primitive kind => (r.resolve (.primitive kind)).simpleName?
  | .named path arguments => (r.resolve (.named path arguments)).simpleName?
  | .sequence element => bareName? r element
  | .array element _ => bareName? r element
  | .optional inner => match r.optionalStyle with
    | .union => none
    | .bare => bareName? r inner
  | .map _ _ => none
  | .tuple _ => none

/-- All targets are names. -/
def TargetsNamed (r : Resolver) : Prop :=
  ∀ target, r.IsTarget target → ∃ name arguments, target = .named name arguments

theorem targetsNamed_ofSettings (s : ResolverSettings) : (ofSettings s).TargetsNamed := by
  intro target h
  obtain ⟨given, -, rfl⟩ := isTarget_ofSettings.mp h
  exact ⟨_, [], rfl⟩

section Named

variable (hr : r.TargetsNamed)
include hr

theorem exists_resolve_primitive (kind : Primitive) :
    ∃ name arguments, r.resolve (.primitive kind) = .named name arguments := by
  rcases r.resolve_primitive_cases kind with h | h
  · exact ⟨_, _, h⟩
  · exact hr _ h

theorem exists_resolve_named (path : String) (arguments : List Native) :
    ∃ name targets, r.resolve (.named path arguments) = .named name targets := by
  rcases r.resolve_named_cases path arguments with h | h
  · exact ⟨_, _, h⟩
  · exact hr _ h

/-- A type is loose if and only if it is said to be parenthesised. -/
theorem isLoose_resolve (t : Native) : (r.resolve t).isLoose = r.parenthesises t := by
  fun_induction parenthesises r t with
  | case1 key value => rfl
  | case2 inner hstyle => simp [resolve, ofOptional, hstyle, TypeName.nullable, TypeName.isLoose]
  | case3 inner hstyle ih => simpa [resolve, ofOptional, hstyle] using ih
  | case4 t hmap hoptional =>
      cases t with
      | primitive kind =>
          obtain ⟨name, arguments, h⟩ := exists_resolve_primitive hr kind
          rw [h]
          rfl
      | named path arguments =>
          obtain ⟨name, targets, h⟩ := exists_resolve_named hr path arguments
          rw [h]
          rfl
      | map key value => exact absurd rfl (hmap key value)
      | optional inner => exact absurd rfl (hoptional inner)
      | _ => rfl

theorem showsBar_array_resolve {element : Native} (h : (r.resolve element).Balanced) :
    (TypeName.array (r.resolve element)).showsBar =
      (!r.parenthesises element && (r.resolve element).showsBar) := by
  rw [TypeName.showsBar_array h, isLoose_resolve hr]

/-- What is not parenthesised shows a bar if and only if its name does. -/
theorem showsBar_resolve {t : Native} (h : (r.resolve t).Balanced) :
    (!r.parenthesises t && (r.resolve t).showsBar) =
      (r.bareName? t).any fun name => hasOutsideBar name.toList := by
  fun_induction bareName? r t with
  | case1 kind =>
      obtain ⟨name, arguments, heq⟩ := exists_resolve_primitive hr kind
      rw [heq] at h ⊢
      rw [TypeName.showsBar_named h]
      rfl
  | case2 path arguments =>
      obtain ⟨name, targets, heq⟩ := exists_resolve_named hr path arguments
      rw [heq] at h ⊢
      rw [TypeName.showsBar_named h]
      rfl
  | case3 element ih =>
      have helement : (r.resolve element).Balanced := h.child List.mem_cons_self
      exact (showsBar_array_resolve hr helement).trans (ih helement)
  | case4 element length ih =>
      have helement : (r.resolve element).Balanced := h.child List.mem_cons_self
      exact (showsBar_array_resolve hr helement).trans (ih helement)
  | case5 inner hstyle => simp [parenthesises, hstyle]
  | case6 inner hstyle ih =>
      have hinner : r.resolve (.optional inner) = r.resolve inner := by
        rw [resolve, ofOptional, hstyle]
      have hsame : r.parenthesises (.optional inner) = r.parenthesises inner := by
        rw [parenthesises, hstyle]
      rw [hinner] at h ⊢
      rw [hsame]
      exact ih h
  | case7 key value => rfl
  | case8 items =>
      have hitems : ∀ t ∈ resolveAll r items, t.Balanced := fun _ ht => h.child ht
      exact TypeName.showsBar_tuple hitems

end Named

/-! ## parsed types -/

/-- A named type is balanced if its name and all arguments are. -/
theorem balanced_named {name : String} {arguments : List TypeName}
    (h : Text.Balanced name.toList) (harguments : ∀ t ∈ arguments, t.Balanced) :
    (TypeName.named name arguments).Balanced := by
  refine TypeName.balanced_iff.mpr ⟨fun n hn => ?_, harguments⟩
  obtain rfl : name = n := Option.some.inj hn
  exact h

/-- Whatever occurs in a mapping has a balanced name if all targets do. -/
theorem Occurs.balanced (hr : ∀ target, r.IsTarget target → target.Balanced) {t : TypeName}
    (h : r.Occurs t) : ∀ name ∈ t.simpleName?, Text.Balanced name.toList := by
  cases h with
  | target htarget hmem => exact hr _ htarget _ hmem
  | scalar kind =>
      rintro _ ⟨⟩
      exact (TypeName.balanced_of_isRun (isRun_typeScriptName kind)).1
  | path _ hpath =>
      rintro _ ⟨⟩
      exact (TypeName.balanced_of_isRun (isRun_pathName r hpath)).1
  | null =>
      rintro _ ⟨⟩
      decide
  | _ => exact nofun

/-- The mapping of a regular type is balanced if all targets are. -/
theorem balanced_resolve (hr : ∀ target, r.IsTarget target → target.Balanced) {n : Nat}
    {t : Native} (h : t.RegularWithin n) : (r.resolve t).Balanced :=
  fun u hu => (occurs_of_mem_nodes h.1 u hu).balanced hr

/-! ## sequences -/

/-- **When a type keeps its meaning as the element of a sequence.**  For all
settings, validated or not, and all native types:

* the text of the sequence is that of the element in parentheses with brackets
  behind it just for maps and optional types (`parenthesises`);
* so an element with a bar outside all brackets and quotes is not parenthesised
  just if its text begins with a name that has such a bar, with nothing but
  arguments and brackets behind it; brackets and quotes have to match for that;
* and they match in the mapping of a parsed type if they do in all targets. -/
theorem sequence_parenthesised_iff (s : ResolverSettings) (t : Native) :
    let r := ofSettings s
    let whole := "(" ++ toString (r.resolve t) ++ ")[]"
    (toString (r.resolve (.sequence t)) = whole ↔ r.parenthesises t = true) ∧
      ((r.resolve t).Balanced →
        ((hasOutsideBar (toString (r.resolve t)).toList = true →
            toString (r.resolve (.sequence t)) = whole) ↔
          ∀ name ∈ r.bareName? t, hasOutsideBar name.toList = false)) ∧
      ((∀ given ∈ s.substitutions.entries, Text.Balanced (trim given.2.toList)) →
        ∀ source, Native.parse source = .ok t → (r.resolve t).Balanced) := by
  intro r whole
  have hr : r.TargetsNamed := targetsNamed_ofSettings s
  have hwhole : toString (r.resolve (.sequence t)) = whole ↔ r.parenthesises t = true := by
    rw [← isLoose_resolve hr]
    exact TypeName.toString_array_eq_iff
  refine ⟨hwhole, fun hbalanced => ?_, fun htargets source hparse => ?_⟩
  · rw [hwhole, TypeName.hasOutsideBar_toString]
    calc ((r.resolve t).showsBar = true → r.parenthesises t = true)
        ↔ (!r.parenthesises t && (r.resolve t).showsBar) = false := by
          cases r.parenthesises t <;> simp
      _ ↔ ((r.bareName? t).any fun name => hasOutsideBar name.toList) = false := by
          rw [showsBar_resolve hr hbalanced]
      _ ↔ ∀ name ∈ r.bareName? t, hasOutsideBar name.toList = false := by
          cases r.bareName? t <;> simp
  · refine balanced_resolve (fun target htarget => ?_) (Native.regularWithin_of_parse hparse)
    obtain ⟨given, hgiven, rfl⟩ := isTarget_ofSettings.mp htarget
    have htext : Text.Balanced (String.ofList (trim given.2.toList)).toList := by
      rw [String.toList_ofList]
      exact htargets given hgiven
    exact balanced_named htext (List.forall_mem_nil _)

/-- A union for identifiers. -/
def unionTarget : ResolverSettings :=
  ⟨true, .union, Substitutions.ofList [("Uuid", "string | number ")]⟩

/-- In an optional type the target keeps its meaning. -/
theorem sequence_parenthesised_optional :
    let r := ofSettings unionTarget
    Native.parse "Option<uuid::Uuid>" = .ok (.optional (.named "uuid::Uuid" [])) ∧
      toString (r.resolve (.sequence (.optional (.named "uuid::Uuid" [])))) =
        "(string | number | null)[]" := by
  have hparse : Native.parse "Option<uuid::Uuid>" = .ok (.optional (.named "uuid::Uuid" [])) := by
    rfl
  have htargets : ∀ given ∈ unionTarget.substitutions.entries,
      Text.Balanced (trim given.2.toList) := by decide
  obtain ⟨-, hiff, hbalanced⟩ :=
    sequence_parenthesised_iff unionTarget (.optional (.named "uuid::Uuid" []))
  refine ⟨hparse, ?_⟩
  exact (hiff (hbalanced htargets _ hparse)).mpr (by decide) (by decide)

/-- By itself it does not: only its last alternative becomes an array. -/
theorem sequence_not_parenthesised :
    let r := ofSettings unionTarget
    unionTarget.validate = .ok () ∧
      toString (r.resolve (.named "Uuid" [])) = "string | number" ∧
      hasOutsideBar (toString (r.resolve (.named "Uuid" []))).toList = true ∧
      toString (r.resolve (.sequence (.named "Uuid" []))) = "string | number[]" ∧
      toString (r.resolve (.sequence (.named "Uuid" []))) ≠
        "(" ++ toString (r.resolve (.named "Uuid" [])) ++ ")[]" := by
  exact ⟨rfl, rfl, by decide, rfl, by decide⟩

end Resolver

end DeclGen
