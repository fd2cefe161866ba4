/-!
# DeclGen.Proofs.Emission.InTurn

Steps that are taken one after the other.

A step sees a world, answers or fails, and leaves a world behind.  `InTurn`
says what comes of steps that all answer, `FailsInTurn` what comes of steps of
which one fails: those behind it are not taken.  From a given world on, only
one of the two can happen, and only in one way.

`runIn` runs an action in a world, so that an action can be compared with the
steps that it is to take.
-/

namespace DeclGen

variable {σ ε α β γ : Type}

/-! ## steps -/

/-- Steps are taken one after the other from a world on, and all answer: the
answers and the world in the end. -/
inductive InTurn (step : α → σ → Except ε β × σ) : List α → σ → List β → σ → Prop
  | nil {w : σ} : InTurn step [] w [] w
  | cons {a : α} {as : List α} {w w₁ w₂ : σ} {b : β} {bs : List β}
      (head : step a w = (.ok b, w₁)) (tail : InTurn step as w₁ bs w₂) :
      InTurn step (a :: as) w (b :: bs) w₂

/-- Steps are taken one after the other from a world on until one fails; `taken`
are the steps up to this one, which is the last of them. -/
inductive FailsInTurn (step : α → σ → Except ε β × σ) : List α → List α → σ → ε → σ → Prop
  | here {a : α} {as : List α} {w w₁ : σ} {error : ε} (head : step a w = (.error error, w₁)) :
      FailsInTurn step (a :: as) [a] w error w₁
  | later {a : α} {as taken : List α} {w w₁ w₂ : σ} {b : β} {error : ε}
      (head : step a w = (.ok b, w₁)) (tail : FailsInTurn step as taken w₁ error w₂) :
      FailsInTurn step (a :: as) (a :: taken) w error w₂

variable {step : α → σ → Except ε β × σ}

/-- The steps of two lists are those of the first and then those of the second. -/
theorem InTurn.append {as as' : List α} {w w₁ w₂ : σ} {bs bs' : List β}
    (h : InTurn step as w bs w₁) (h' : InTurn step as' w₁ bs' w₂) :
    InTurn step (as ++ as') w (bs ++ bs') w₂ := by
  induction h with
  | nil => exact h'
  | cons head _ ih => exact .cons head (ih h')

/-- Steps that answer are taken before those of which one fails. -/
theorem InTurn.append_fails {as as' taken : List α} {w w₁ w' : σ} {bs : List β} {error : ε}
    (h : InTurn step as w bs w₁) (h' : FailsInTurn step as' taken w₁ error w') :
    FailsInTurn step (as ++ as') (as ++ taken) w error w' := by
  induction h with
  | nil => exact h'
  | cons head _ ih => exact .later head (ih h')

/-- Steps behind one that fails are not taken. -/
theorem FailsInTurn.append {as taken : List α} {w w' : σ} {error : ε}
    (h : FailsInTurn step as taken w error w') (as' : List α) :
    FailsInTurn step (as ++ as') taken w error w' := by
  induction h with
  | here head => exact .here head
  | later head _ ih => exact .later head ih

/-! ## only one outcome -/

/-- Steps that all answer do so in one way. -/
theorem InTurn.unique {as : List α} {w w₁ w₂ : σ} {bs cs : List β} (h : InTurn step as w bs w₁)
    (h' : InTurn step as w cs w₂) : bs = cs ∧ w₁ = w₂ := by
  induction h generalizing cs with
  | nil => cases h'; exact ⟨rfl, rfl⟩
  | cons head _ ih =>
      cases h' with
      | cons head' tail' =>
          obtain ⟨hb, rfl⟩ := Prod.mk.inj (head.symm.trans head')
          obtain ⟨rfl, rfl⟩ := ih tail'
          exact ⟨by rw [Except.ok.inj hb], rfl⟩

/-- Steps that all answer do not fail. -/
theorem InTurn.not_fails {as taken : List α} {w w₁ w' : σ} {bs : List β} {error : ε}
    (h : InTurn step as w bs w₁) : ¬ FailsInTurn step as taken w error w' := by
  intro hfails
  induction hfails generalizing bs with
  | here head =>
      cases h with
      | cons head' _ => exact absurd (head.symm.trans head') (by simp)
  | later head _ ih =>
      cases h with
      | cons head' tail' =>
          obtain ⟨-, rfl⟩ := Prod.mk.inj (head.symm.trans head')
          exact ih tail'

/-- Steps of which one fails do so in one way. -/
theorem FailsInTurn.unique {as taken taken' : List α} {w w₁ w₂ : σ} {error error' : ε}
    (h : FailsInTurn step as taken w error w₁) (h' : FailsInTurn step as taken' w error' w₂) :
    taken = taken' ∧ error = error' ∧ w₁ = w₂ := by
  induction h generalizing taken' with
  | here head =>
      cases h' with
      | here head' =>
          obtain ⟨he, rfl⟩ := Prod.mk.inj (head.symm.trans head')
          exact ⟨rfl, Except.error.inj he, rfl⟩
      | later head' _ => exact absurd (head.symm.trans head') (by simp)
  | later head _ ih =>
      cases h' with
      | here head' => exact absurd (head.symm.trans head') (by simp)
      | later head' tail' =>
          obtain ⟨-, rfl⟩ := Prod.mk.inj (head.symm.trans head')
          obtain ⟨rfl, rfl, rfl⟩ := ih tail'
          exact ⟨rfl, rfl, rfl⟩

/-! ## actions -/

/-- What an action answers in a world, and the world that it leaves. -/
def runIn (x : ExceptT ε (StateM σ) α) (w : σ) : Except ε α × σ := x.run.run w

@[simp] theorem runIn_pure (a : α) (w : σ) :
    runIn (pure a : ExceptT ε (StateM σ) α) w = (.ok a, w) := rfl

/-- An action runs before what follows it. -/
theorem runIn_bind_of_ok {x : ExceptT ε (StateM σ) α} {f : α → ExceptT ε (StateM σ) β} {w w₁ : σ}
    {a : α} (h : runIn x w = (.ok a, w₁)) : runIn (x >>= f) w = runIn (f a) w₁ := by
  have hx : x.run.run w = (.ok a, w₁) := h
  simp only [runIn, ExceptT.run_bind, StateT.run_bind]
  rw [hx]
  rfl

/-- An action that fails ends the run. -/
theorem runIn_bind_of_error {x : ExceptT ε (StateM σ) α} {f : α → ExceptT ε (StateM σ) β}
    {w w₁ : σ} {error : ε} (h : runIn x w = (.error error, w₁)) :
    runIn (x >>= f) w = (.error error, w₁) := by
  have hx : x.run.run w = (.error error, w₁) := h
  simp only [runIn, ExceptT.run_bind, StateT.run_bind]
  rw [hx]
  rfl

/-- An answer that is mapped leaves the same world. -/
theorem runIn_map (f : α → β) (x : ExceptT ε (StateM σ) α) (w : σ) :
    runIn (f <$> x) w = Prod.map (Except.map f) id (runIn x w) := by
  rw [map_eq_pure_bind]
  rcases hrun : runIn x w with ⟨error | a, w₁⟩
  · rw [runIn_bind_of_error hrun]
    rfl
  · rw [runIn_bind_of_ok hrun]
    rfl

/-- An action followed by another succeeds if both do, one in the world that the
other leaves. -/
theorem runIn_bind_eq_ok {x : ExceptT ε (StateM σ) α} {f : α → ExceptT ε (StateM σ) β}
    {w w' : σ} {b : β} : runIn (x >>= f) w = (.ok b, w') ↔
      ∃ a w₁, runIn x w = (.ok a, w₁) ∧ runIn (f a) w₁ = (.ok b, w') := by
  rcases hrun : runIn x w with ⟨error | a, w₁⟩
  · simp [runIn_bind_of_error hrun]
  · simp [runIn_bind_of_ok hrun, and_assoc]

/-- An action followed by another fails if one of them does. -/
theorem runIn_bind_eq_error {x : ExceptT ε (StateM σ) α} {f : α → ExceptT ε (StateM σ) β}
    {w w' : σ} {error : ε} : runIn (x >>= f) w = (.error error, w') ↔
      runIn x w = (.error error, w') ∨
        ∃ a w₁, runIn x w = (.ok a, w₁) ∧ runIn (f a) w₁ = (.error error, w') := by
  rcases hrun : runIn x w with ⟨error' | a, w₁⟩
  · simp [runIn_bind_of_error hrun]
  · simp [runIn_bind_of_ok hrun, and_assoc]

/-- An error that is told otherwise leaves the same world. -/
theorem runIn_adapt {ε' : Type} (f : ε → ε') (x : ExceptT ε (StateM σ) α) (w : σ) :
    runIn (x.adapt f) w = Prod.map (Except.mapError f) id (runIn x w) := rfl

theorem runIn_adapt_eq_ok {ε' : Type} {f : ε → ε'} {x : ExceptT ε (StateM σ) α} {w w' : σ}
    {a : α} : runIn (x.adapt f) w = (.ok a, w') ↔ runIn x w = (.ok a, w') := by
  rw [runIn_adapt]
  rcases runIn x w with ⟨error | b, w₁⟩
  · constructor <;> rintro ⟨⟩
  · constructor <;> (rintro ⟨⟩; rfl)

theorem runIn_adapt_eq_error {ε' : Type} {f : ε → ε'} {x : ExceptT ε (StateM σ) α} {w w' : σ}
    {error' : ε'} : runIn (x.adapt f) w = (.error error', w') ↔
      ∃ error, runIn x w = (.error error, w') ∧ f error = error' := by
  rw [runIn_adapt]
  rcases runIn x w with ⟨error | b, w₁⟩
  · constructor
    · rintro ⟨⟩
      exact ⟨error, rfl, rfl⟩
    · rintro ⟨_, ⟨⟩, rfl⟩
      rfl
  · constructor
    · rintro ⟨⟩
    · rintro ⟨_, ⟨⟩, -⟩

/-- A list of actions succeeds if and only if they all answer in turn. -/
theorem runIn_mapM_eq_ok {f : α → ExceptT ε (StateM σ) β} {as : List α} {w w' : σ}
    {bs : List β} : runIn (as.mapM f) w = (.ok bs, w') ↔
      InTurn (fun a => runIn (f a)) as w bs w' := by
  induction as generalizing w bs with
  | nil =>
      rw [List.mapM_nil, runIn_pure]
      constructor
      · rintro ⟨⟩
        exact .nil
      · rintro ⟨⟩
        rfl
  | cons a as ih =>
      rw [List.mapM_cons]
      constructor
      · intro h
        obtain ⟨b, w₁, hhead, h⟩ := runIn_bind_eq_ok.mp h
        obtain ⟨cs, w₂, htail, h⟩ := runIn_bind_eq_ok.mp h
        obtain ⟨⟨⟩, ⟨⟩⟩ := Prod.mk.inj h
        exact .cons hhead (ih.mp htail)
      · rintro (_ | ⟨hhead, htail⟩)
        rw [runIn_bind_of_ok hhead, runIn_bind_of_ok (ih.mpr htail), runIn_pure]

end DeclGen
