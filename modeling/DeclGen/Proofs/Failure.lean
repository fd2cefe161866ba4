import Mathlib.Data.List.Forall2
import DeclGen.Proofs.Native.Token

/-!
# DeclGen.Proofs.Failure

Actions that give a value or fail, taken one after the other.

* `mapM_eq_ok`: a list of actions succeeds if and only if all of them do, with
  their values in order.
* `failure?_mapM`: it fails with the first fault of all that the actions go
  through, action by action.
-/

namespace DeclGen

variable {ε α β γ : Type}

/-- What an action fails with, if it fails. -/
def failure? : Except ε α → Option ε
  | .ok _ => none
  | .error fault => some fault

/-- An action that does not fail has a value. -/
theorem failure?_eq_none {x : Except ε α} : failure? x = none ↔ ∃ a, x = .ok a := by
  cases x <;> simp [failure?]

/-- An action that fails is its failure. -/
theorem failure?_eq_some {x : Except ε α} {fault : ε} :
    failure? x = some fault ↔ x = .error fault := by
  cases x <;> simp [failure?]

/-- A failure ends what follows it. -/
theorem failure?_bind {x : Except ε α} {f : α → Except ε β} {fault? : Option ε}
    (h : ∀ a, failure? (f a) = fault?) : failure? (x >>= f) = (failure? x).or fault? := by
  cases x with
  | ok a => exact h a
  | error fault => rfl

/-- What is made of a value does not fail. -/
theorem failure?_map (x : Except ε α) (f : α → β) :
    failure? (x >>= fun a => pure (f a)) = failure? x := by
  cases x <;> rfl

/-- If each action fails with the first fault of what it goes through, a list of
actions fails with the first one of all. -/
theorem failure?_mapM {f : γ → Except ε α} {parts : γ → List β} {fault? : β → Option ε}
    (h : ∀ c, failure? (f c) = (parts c).findSome? fault?) (cs : List γ) :
    failure? (cs.mapM f) = (cs.flatMap parts).findSome? fault? := by
  induction cs with
  | nil => rfl
  | cons c cs ih =>
      have hrest : ∀ a, failure? (cs.mapM f >>= fun as => pure (a :: as)) =
          (cs.flatMap parts).findSome? fault? := fun a => (failure?_map _ _).trans ih
      rw [List.mapM_cons, failure?_bind hrest, h, List.flatMap_cons, List.findSome?_append]

/-- A list of actions succeeds if and only if all do. -/
theorem mapM_eq_ok {f : γ → Except ε α} {cs : List γ} {as : List α} :
    cs.mapM f = .ok as ↔ List.Forall₂ (fun c a => f c = .ok a) cs as := by
  induction cs generalizing as with
  | nil => cases as <;> simp [pure, Except.pure]
  | cons c cs ih =>
      rw [List.mapM_cons, Native.bind_eq_ok]
      constructor
      · rintro ⟨a, ha, hrest⟩
        obtain ⟨rest, hcs, hpure⟩ := Native.bind_eq_ok.mp hrest
        obtain rfl := Except.ok.inj hpure
        exact .cons ha (ih.mp hcs)
      · intro h
        cases h with
        | cons ha hcs => exact ⟨_, ha, Native.bind_eq_ok.mpr ⟨_, ih.mpr hcs, rfl⟩⟩

/-- What is so of all that stands on the right of a relation. -/
theorem forall_mem_right {R : α → β → Prop} {p : β → Prop} (hR : ∀ a b, R a b → p b)
    {as : List α} {bs : List β} (h : List.Forall₂ R as bs) : ∀ b ∈ bs, p b := by
  induction h with
  | nil => simp
  | cons head _ ih => exact List.forall_mem_cons.mpr ⟨hR _ _ head, ih⟩

end DeclGen
