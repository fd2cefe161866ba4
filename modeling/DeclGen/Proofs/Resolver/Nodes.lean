import DeclGen.Proofs.Native.Regular
import DeclGen.Proofs.TypeName.Flat
import DeclGen.Resolver

/-!
# DeclGen.Proofs.Resolver.Nodes

The types that occur in the mapping of a native type.

* A type is mapped by its structure unless a target is put for it
  (`resolve_primitive_cases`, `resolve_named_cases`).
* `Occurs` lists what the mapping is made of, so that whatever holds of all that
  holds of every node of the mapping of a regular type (`occurs_of_mem_nodes`).
-/

namespace DeclGen.Resolver

variable {r : Resolver}

/-! ## targets -/

/-- A type that is put for some key. -/
def IsTarget (r : Resolver) (target : TypeName) : Prop :=
  ∃ key, (key, target) ∈ r.substitutions

theorem isTarget_of_lookup {key : String} {target : TypeName} (h : r.lookup key = some target) :
    r.IsTarget target := ⟨key, mem_of_lookup h⟩

/-- What is put for a scalar is put for some key. -/
theorem lookup_of_primitiveSubstitution {kind : Primitive} {target : TypeName}
    (h : r.primitiveSubstitution kind = some target) : ∃ key, r.lookup key = some target := by
  rw [primitiveSubstitution, Option.or_eq_some_iff] at h
  rcases h with h | ⟨-, h⟩
  · exact ⟨_, h⟩
  · split at h
    · exact ⟨_, h⟩
    · contradiction

/-- What is put for a path is put for some key. -/
theorem lookup_of_substitution {path : String} {target : TypeName}
    (h : r.substitution path = some target) : ∃ key, r.lookup key = some target := by
  rw [substitution, Option.or_eq_some_iff] at h
  rcases h with h | ⟨-, h⟩ <;> exact ⟨_, h⟩

/-- A scalar has its own name unless a target is put for it. -/
theorem resolve_primitive_cases (r : Resolver) (kind : Primitive) :
    r.resolve (.primitive kind) = .simple kind.typeScriptName ∨
      r.IsTarget (r.resolve (.primitive kind)) := by
  rw [resolve]
  cases h : r.primitiveSubstitution kind with
  | none => exact .inl rfl
  | some target =>
      obtain ⟨key, hkey⟩ := lookup_of_primitiveSubstitution h
      exact .inr (isTarget_of_lookup hkey)

/-- A named type has the name of its path unless a target is put for it. -/
theorem resolve_named_cases (r : Resolver) (path : String) (arguments : List Native) :
    r.resolve (.named path arguments) = .named (r.pathName path) (arguments.map r.resolve) ∨
      r.IsTarget (r.resolve (.named path arguments)) := by
  rw [resolve, resolveAll_eq_map]
  cases h : r.substitution path with
  | none => exact .inl rfl
  | some target =>
      obtain ⟨key, hkey⟩ := lookup_of_substitution h
      exact .inr (isTarget_of_lookup hkey)

/-! ## nodes -/

/-- What can occur in the mapping of a native type. -/
inductive Occurs (r : Resolver) : TypeName → Prop
  /-- A target, or a part of it. -/
  | target {target t : TypeName} : r.IsTarget target → t ∈ target.nodes → Occurs r t
  | scalar (kind : Primitive) : Occurs r (.simple kind.typeScriptName)
  | path {path : String} (arguments : List TypeName) :
    Native.IsPath path → Occurs r (.named (r.pathName path) arguments)
  | array (element : TypeName) : Occurs r (.array element)
  | tuple (items : List TypeName) : Occurs r (.tuple items)
  | dictionary (key value : TypeName) : Occurs r (.dictionary key value)
  | nullable (inner : TypeName) : Occurs r (.nullable inner)
  /-- The other variant of an optional type. -/
  | null : Occurs r (.simple "null")

/-- A node of a type, or of one right below it, can occur if all below can. -/
theorem occurs_of_children {t : TypeName} (h : r.Occurs t)
    (hbelow : ∀ c ∈ t.children, ∀ u ∈ c.nodes, r.Occurs u) : ∀ u ∈ t.nodes, r.Occurs u :=
  TypeName.forall_nodes.mpr ⟨h, hbelow⟩

theorem occurs_of_target {target : TypeName} (h : r.IsTarget target) :
    ∀ u ∈ target.nodes, r.Occurs u := fun _ hu => .target h hu

theorem occurs_simple {name : String} (h : r.Occurs (.simple name)) :
    ∀ u ∈ (TypeName.simple name).nodes, r.Occurs u :=
  occurs_of_children h (by simp [TypeName.simple, TypeName.children])

theorem occurs_ofOptional {inner : TypeName} (h : ∀ u ∈ inner.nodes, r.Occurs u) :
    ∀ u ∈ (r.ofOptional inner).nodes, r.Occurs u := by
  unfold ofOptional
  split
  · refine occurs_of_children (.nullable inner) ?_
    simpa [TypeName.nullable, TypeName.children] using ⟨h, occurs_simple .null⟩
  · exact h

/-- **What occurs in the mapping of a type** whose nodes are regular. -/
theorem occurs_of_mem_nodes {t : Native} (h : ∀ u ∈ t.nodes, u.Regular) :
    ∀ u ∈ (r.resolve t).nodes, r.Occurs u := by
  induction t using Native.induction_children with
  | step t ih =>
    obtain ⟨hregular, hbelow⟩ := Native.forall_nodes.mp h
    have hoccurs : ∀ c ∈ t.children, ∀ u ∈ (r.resolve c).nodes, r.Occurs u :=
      fun c hc => ih c hc (hbelow c hc)
    cases t with
    | primitive kind =>
        rcases r.resolve_primitive_cases kind with heq | htarget
        · rw [heq]
          exact occurs_simple (.scalar kind)
        · exact occurs_of_target htarget
    | named path arguments =>
        rcases r.resolve_named_cases path arguments with heq | htarget
        · rw [heq]
          exact occurs_of_children (.path _ hregular.1) (List.forall_mem_map.mpr hoccurs)
        · exact occurs_of_target htarget
    | sequence element =>
        rw [resolve]
        refine occurs_of_children (.array _) ?_
        simpa [Native.children, TypeName.children] using hoccurs
    | array element length =>
        rw [resolve]
        refine occurs_of_children (.array _) ?_
        simpa [Native.children, TypeName.children] using hoccurs
    | map key value =>
        rw [resolve]
        refine occurs_of_children (.dictionary _ _) ?_
        simpa [Native.children, TypeName.children] using hoccurs
    | optional inner => exact occurs_ofOptional (hoccurs inner List.mem_cons_self)
    | tuple items =>
        rw [resolve, resolveAll_eq_map]
        exact occurs_of_children (.tuple _) (List.forall_mem_map.mpr hoccurs)

end DeclGen.Resolver
