import DeclGen.Proofs.Resolver.Keys

/-!
# DeclGen.Proofs.Resolver.Optionals

The bare style of optional types.

1. To the bare style it is all the same whether the optional types in a type are
   replaced by their inner types (`resolve_eraseOptionals`).  What is looked up
   stays the same, since the path of a named type is its key, whatever its
   arguments are.
2. No optional type is left then (`optional_not_mem_eraseOptionals`), and the
   style matters to optional types only (`resolve_congr`).

So the bare style maps a type to what the union style maps the replaced type to.
-/

namespace DeclGen

namespace Native

/-! ## types without optional types -/

mutual

/-- The type with the inner type in the place of every optional type in it. -/
def eraseOptionals : Native → Native
  | primitive kind => primitive kind
  | named path arguments => named path (eraseOptionalsAll arguments)
  | sequence element => sequence element.eraseOptionals
  | array element length => array element.eraseOptionals length
  | map key value => map key.eraseOptionals value.eraseOptionals
  | optional inner => inner.eraseOptionals
  | tuple items => tuple (eraseOptionalsAll items)

/-- Several types, each without the optional types in it. -/
def eraseOptionalsAll : List Native → List Native
  | [] => []
  | t :: ts => t.eraseOptionals :: eraseOptionalsAll ts

end

theorem eraseOptionalsAll_eq_map (ts : List Native) :
    eraseOptionalsAll ts = ts.map eraseOptionals := by
  induction ts with
  | nil => rfl
  | cons t ts ih => rw [eraseOptionalsAll, ih, List.map_cons]

/-- A type that is not optional itself keeps what is below it, erased. -/
theorem eraseOptionals_cases (t : Native) : (∃ inner, t = optional inner) ∨
    (∀ inner, t.eraseOptionals ≠ optional inner) ∧
      t.eraseOptionals.children = t.children.map eraseOptionals := by
  cases t with
  | optional inner => exact .inl ⟨inner, rfl⟩
  | named path arguments => exact .inr ⟨nofun, eraseOptionalsAll_eq_map arguments⟩
  | tuple items => exact .inr ⟨nofun, eraseOptionalsAll_eq_map items⟩
  | _ => exact .inr ⟨nofun, rfl⟩

/-- No optional type is left. -/
theorem optional_not_mem_eraseOptionals (t inner : Native) :
    optional inner ∉ t.eraseOptionals.nodes := by
  induction t using induction_children with
  | step t ih =>
    rcases t.eraseOptionals_cases with ⟨inner', rfl⟩ | ⟨hself, hchildren⟩
    · exact ih inner' List.mem_cons_self
    · rw [mem_nodes, hchildren]
      rintro (h | ⟨c, hc, hmem⟩)
      · exact hself inner h.symm
      · obtain ⟨d, hd, rfl⟩ := List.mem_map.mp hc
        exact ih d hd hmem

end Native

namespace Resolver

/-! ## the bare style -/

/-- In the bare style an optional type does not show. -/
theorem resolve_eraseOptionals {r : Resolver} (hbare : r.optionalStyle = .bare) (t : Native) :
    r.resolve t.eraseOptionals = r.resolve t := by
  induction t using Native.induction_children with
  | step t ih =>
    have hall : (t.children.map Native.eraseOptionals).map r.resolve =
        t.children.map r.resolve := by
      rw [List.map_map]
      exact List.map_congr_left ih
    cases t with
    | primitive kind => rfl
    | named path arguments =>
        rw [Native.children] at hall
        rw [Native.eraseOptionals, Native.eraseOptionalsAll_eq_map, resolve, resolve,
          resolveAll_eq_map, resolveAll_eq_map, hall]
    | sequence element =>
        rw [Native.eraseOptionals, resolve, resolve, ih element List.mem_cons_self]
    | array element length =>
        rw [Native.eraseOptionals, resolve, resolve, ih element List.mem_cons_self]
    | map key value =>
        rw [Native.eraseOptionals, resolve, resolve, ih key (by simp [Native.children]),
          ih value (by simp [Native.children])]
    | optional inner =>
        rw [Native.eraseOptionals, resolve, ofOptional, hbare, ih inner List.mem_cons_self]
    | tuple items =>
        rw [Native.children] at hall
        rw [Native.eraseOptionals, Native.eraseOptionalsAll_eq_map, resolve, resolve,
          resolveAll_eq_map, resolveAll_eq_map, hall]

/-- **Bare optional types are erased ones.**  The bare style maps a type to what
the union style maps it to with the inner type in the place of every optional
type, whatever is substituted and whether namespaces are stripped or not. -/
theorem resolve_bare (r : Resolver) (t : Native) :
    (r.withOptionalStyle .bare).resolve t =
      (r.withOptionalStyle .union).resolve t.eraseOptionals :=
  calc (r.withOptionalStyle .bare).resolve t
      = (r.withOptionalStyle .bare).resolve t.eraseOptionals :=
        (resolve_eraseOptionals rfl t).symm
    _ = (r.withOptionalStyle .union).resolve t.eraseOptionals :=
        resolve_congr rfl (fun inner h => absurd h (t.optional_not_mem_eraseOptionals inner))
          fun _ _ => rfl

/-- Optional types inside one another and in arguments leave nothing behind. -/
example : (default.withOptionalStyle .bare).resolve
    (.named "Page" [.optional (.optional (.map (.primitive .string) (.optional (.primitive .u8))))])
      = .named "Page" [.dictionary (.simple "string") (.simple "number")] := by decide

end Resolver

end DeclGen
