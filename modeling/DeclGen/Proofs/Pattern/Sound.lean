import DeclGen.Pattern.Meaning
import DeclGen.Proofs.Pattern.Parts

/-!
# DeclGen.Proofs.Pattern.Sound

A pattern is sound if it is not nested too deeply and means something.  A round of
reading only adds to what is read: what stands there before it is sound if it is
afterwards (`sound_of_edit`).  So whatever is read on the way to a sound pattern is
sound (`sound_of_readParts`).
-/

namespace DeclGen.Pattern

variable {s : List Char}

/-! ## depths and meanings of what is put together -/

/-- A pattern that is not nested too deeply and means something. -/
def Syntax.Sound (pattern : Syntax) : Prop :=
  pattern.depth ≤ maxDepth ∧ (pattern.expr? .default).isSome

theorem depthAll_append (xs ys : List Syntax) :
    Syntax.depthAll (xs ++ ys) = max (Syntax.depthAll xs) (Syntax.depthAll ys) := by
  induction xs with
  | nil => simp [Syntax.depthAll]
  | cons x xs ih => simp only [List.cons_append, Syntax.depthAll, ih, Nat.max_assoc]

theorem depth_ofSequence (xs : List Syntax) : (Syntax.ofSequence xs).depth =
    Syntax.depthAll xs + if xs.length ≤ 1 then 0 else 1 := by
  match xs with
  | [] => simp [Syntax.ofSequence, Syntax.depth, Syntax.depthAll]
  | [x] => simp [Syntax.ofSequence, Syntax.depthAll]
  | x :: y :: xs => simp [Syntax.ofSequence, Syntax.depth]

theorem depth_ofBranches (xs : List Syntax) : (Syntax.ofBranches xs).depth =
    Syntax.depthAll xs + if xs.length = 1 then 0 else 1 := by
  match xs with
  | [] => simp [Syntax.ofBranches, Syntax.depth]
  | [x] => simp [Syntax.ofBranches, Syntax.depthAll]
  | x :: y :: xs => simp [Syntax.ofBranches, Syntax.depth]

theorem exprs?_append (flags : Flags) (xs ys : List Syntax) :
    Syntax.exprs? flags (xs ++ ys) = (Syntax.exprs? flags xs).bind fun p =>
      (Syntax.exprs? p.2 ys).map fun q => (p.1 ++ q.1, q.2) := by
  induction xs generalizing flags with
  | nil => simp [Syntax.exprs?]
  | cons x xs ih =>
      simp only [List.cons_append, Syntax.exprs?, ih]
      cases x.expr? flags with
      | none => rfl
      | some p =>
          cases hxs : Syntax.exprs? p.2 xs with
          | none => simp [hxs]
          | some q => cases hys : Syntax.exprs? q.2 ys <;> simp [hxs, hys]

/-- Patterns one behind the other mean something if the first ones do, and the others
behind them. -/
theorem isSome_exprs?_append {flags : Flags} {xs ys : List Syntax} :
    (Syntax.exprs? flags (xs ++ ys)).isSome = true ↔
      ∃ p, Syntax.exprs? flags xs = some p ∧ (Syntax.exprs? p.2 ys).isSome = true := by
  rw [exprs?_append]
  cases Syntax.exprs? flags xs <;> simp

theorem isSome_exprs?_singleton (flags : Flags) (x : Syntax) :
    (Syntax.exprs? flags [x]).isSome = (x.expr? flags).isSome := by
  simp only [Syntax.exprs?]
  cases x.expr? flags <;> rfl

theorem isSome_expr?_ofSequence (flags : Flags) (xs : List Syntax) :
    ((Syntax.ofSequence xs).expr? flags).isSome = (Syntax.exprs? flags xs).isSome := by
  match xs with
  | [] => simp [Syntax.ofSequence, Syntax.expr?, Syntax.exprs?]
  | [x] => exact (isSome_exprs?_singleton flags x).symm
  | x :: y :: xs =>
      simp only [Syntax.ofSequence, Syntax.expr?]
      cases Syntax.exprs? flags (x :: y :: xs) <;> rfl

theorem isSome_expr?_ofBranches (flags : Flags) (xs : List Syntax) :
    ((Syntax.ofBranches xs).expr? flags).isSome = (Syntax.exprs? flags xs).isSome := by
  match xs with
  | [] => simp [Syntax.ofBranches, Syntax.expr?, Syntax.exprs?]
  | [x] => exact (isSome_exprs?_singleton flags x).symm
  | x :: y :: xs =>
      simp only [Syntax.ofBranches, Syntax.expr?]
      cases Syntax.exprs? flags (x :: y :: xs) <;> rfl

/-- What is read so far means something if its branches do, one behind the other, and
its parts behind them. -/
theorem isSome_expr?_closeGroup {flags : Flags} {branches parts : List Syntax} :
    ((closeGroup branches parts).expr? flags).isSome = true ↔
      ∃ p, Syntax.exprs? flags branches = some p ∧ (Syntax.exprs? p.2 parts).isSome = true := by
  rw [closeGroup, isSome_expr?_ofBranches, isSome_exprs?_append]
  simp only [isSome_exprs?_singleton, isSome_expr?_ofSequence]

theorem depth_closeGroup (branches parts : List Syntax) : (closeGroup branches parts).depth =
    max (Syntax.depthAll branches) (Syntax.ofSequence parts).depth +
      if branches.length = 0 then 0 else 1 := by
  rw [closeGroup, depth_ofBranches, depthAll_append]
  simp [Syntax.depthAll]

/-! ## rounds -/

/-- Bounds are put around the last part. -/
theorem perform?_bound_eq_some {branches parts branches' parts' : List Syntax} {least : Nat}
    {most : Option Nat} (h : (Edit.bound least most).perform? branches parts =
      some (branches', parts')) :
    ∃ front body, parts = front ++ [body] ∧ branches' = branches ∧
      parts' = front ++ [.repetition least most body] := by
  obtain ⟨body, hlast, h⟩ := Option.bind_eq_some_iff.mp h
  obtain ⟨front, rfl⟩ := List.getLast?_eq_some_iff.mp hlast
  split at h
  · obtain ⟨rfl, rfl⟩ := Prod.mk.inj (Option.some.inj h)
    exact ⟨front, body, rfl, rfl, by rw [List.dropLast_concat]⟩
  · simp at h

/-- An edit does not make a pattern less deep. -/
theorem depth_le_of_edit {branches parts branches' parts' : List Syntax} {edit : Edit}
    (h : edit.perform? branches parts = some (branches', parts')) :
    (closeGroup branches parts).depth ≤ (closeGroup branches' parts').depth := by
  cases edit with
  | branch =>
      obtain ⟨rfl, rfl⟩ := Prod.mk.inj (Option.some.inj h)
      simp only [depth_closeGroup, depthAll_append, Syntax.depthAll, List.length_append,
        List.length_cons]
      split <;> split <;> omega
  | add part =>
      obtain ⟨rfl, rfl⟩ := Prod.mk.inj (Option.some.inj h)
      simp only [depth_closeGroup, depth_ofSequence, depthAll_append, List.length_append]
      split <;> split <;> split <;> omega
  | bound least most =>
      obtain ⟨front, body, rfl, rfl, rfl⟩ := perform?_bound_eq_some h
      simp only [depth_closeGroup, depth_ofSequence, depthAll_append, Syntax.depthAll,
        Syntax.depth, List.length_append, List.length_cons]
      split <;> split <;> omega

/-- What is read means something before an edit if it does behind the edit. -/
theorem isSome_expr?_of_edit {branches parts branches' parts' : List Syntax} {edit : Edit}
    {flags : Flags} (h : edit.perform? branches parts = some (branches', parts'))
    (hmeans : ((closeGroup branches' parts').expr? flags).isSome = true) :
    ((closeGroup branches parts).expr? flags).isSome = true := by
  obtain ⟨p, hp, hparts⟩ := isSome_expr?_closeGroup.mp hmeans
  cases edit with
  | branch =>
      obtain ⟨rfl, rfl⟩ := Prod.mk.inj (Option.some.inj h)
      rw [closeGroup, isSome_expr?_ofBranches, hp]
      rfl
  | add part =>
      obtain ⟨rfl, rfl⟩ := Prod.mk.inj (Option.some.inj h)
      obtain ⟨q, hq, -⟩ := isSome_exprs?_append.mp hparts
      exact isSome_expr?_closeGroup.mpr ⟨p, hp, by rw [hq]; rfl⟩
  | bound least most =>
      obtain ⟨front, body, rfl, rfl, rfl⟩ := perform?_bound_eq_some h
      obtain ⟨q, hq, hbody⟩ := isSome_exprs?_append.mp hparts
      refine isSome_expr?_closeGroup.mpr ⟨p, hp, isSome_exprs?_append.mpr ⟨q, hq, ?_⟩⟩
      rw [isSome_exprs?_singleton] at hbody ⊢
      rw [Syntax.expr?] at hbody
      cases hmeans : body.expr? q.2 with
      | none => simp [hmeans] at hbody
      | some e => rfl

/-- What is read before an edit is sound if it is behind the edit. -/
theorem sound_of_edit {branches parts branches' parts' : List Syntax} {edit : Edit}
    (h : edit.perform? branches parts = some (branches', parts'))
    (hsound : (closeGroup branches' parts').Sound) : (closeGroup branches parts).Sound :=
  ⟨Nat.le_trans (depth_le_of_edit h) hsound.1, isSome_expr?_of_edit h hsound.2⟩

/-- What is read so far is sound if the whole pattern is. -/
theorem sound_of_readParts {skip : Bool} {names names' : List (List Char)}
    {branches parts : List Syntax} {fuel : Nat} {pattern : Syntax} {r : List Char}
    (h : readParts skip names branches parts fuel s = some ((pattern, names'), r))
    (hsound : pattern.Sound) : (closeGroup branches parts).Sound := by
  induction fuel generalizing skip names branches parts s with
  | zero => simp [readParts] at h
  | succ fuel ih =>
      rw [readParts_succ] at h
      split at h
      · obtain ⟨rfl, -⟩ := Prod.mk.inj (Prod.mk.inj (Option.some.inj h)).1
        exact hsound
      · obtain ⟨⟨round, m⟩, -, hrest⟩ := Option.bind_eq_some_iff.mp h
        obtain ⟨q, hedit, hq⟩ := Option.bind_eq_some_iff.mp hrest
        exact sound_of_edit hedit (ih hq)

end DeclGen.Pattern
