import DeclGen.Proofs.Emission.Written

/-!
# DeclGen.Proofs.Emission.Calls

Which inferers an emission runs, how often and in which order.

`Interface.noting` is an interface whose inferers do what they did and note
each of their runs: the world has a list more, and the inferer of the element
with number `k`, counted in the order of the elements, adds `k` to it when it
is run.  An emission of it comes to the same as one of the interface itself,
and leaves in the list which inferers ran.
-/

namespace DeclGen

variable {σ : Type}

/-! ## noting -/

/-- An action that notes a number whenever it is run. -/
def note {ε α : Type} (k : Nat) (x : ExceptT ε (StateM σ) α) :
    ExceptT ε (StateM (σ × List Nat)) α :=
  ExceptT.mk fun (w, log) =>
    let (result, w') := runIn x w
    (result, (w', log ++ [k]))

/-- An inferer that notes its runs. -/
def Inferer.noting {E : Type} (k : Nat) :
    Inferer (StateM σ) E → Inferer (StateM (σ × List Nat)) E
  | nameWithResolver run => nameWithResolver fun e r => note k (run e r)
  | typeWithResolver run => typeWithResolver fun e r => note k (run e r)
  | name run => name fun e => note k (run e)
  | type run => type fun e => note k (run e)

/-- An element whose inferer notes its runs. -/
def Element.noting (k : Nat) (e : Element (StateM σ)) : Element (StateM (σ × List Nat)) :=
  ⟨e.field, ⟨e.slot.active.map (Inferer.noting k)⟩⟩

/-- Elements with numbers from `k` on. -/
def Element.notingAll (k : Nat) :
    List (Element (StateM σ)) → List (Element (StateM (σ × List Nat)))
  | [] => []
  | e :: es => e.noting k :: notingAll (k + 1) es

/-- Methods with numbers from `k` on: the parameters come before the method. -/
def Method.notingAll (k : Nat) :
    List (Method (StateM σ)) → List (Method (StateM (σ × List Nat)))
  | [] => []
  | method :: methods =>
    ⟨method.element.noting (k + method.parameters.length),
      Element.notingAll k method.parameters⟩ ::
      notingAll (k + method.parameters.length + 1) methods

/-- An interface whose inferers note their runs. -/
def Interface.noting (i : Interface (StateM σ)) : Interface (StateM (σ × List Nat)) :=
  ⟨i.scope, i.name, Element.notingAll 0 i.members, Method.notingAll i.members.length i.methods⟩

/-- The numbers, from `k` on, of the elements whose slots are not empty. -/
def calls (k : Nat) : List (Element (StateM σ)) → List Nat
  | [] => []
  | e :: es => (if e.slot.isEmpty then [] else [k]) ++ calls (k + 1) es

/-- The elements of two lists are numbered one list after the other. -/
theorem Element.notingAll_append (k : Nat) (es es' : List (Element (StateM σ))) :
    notingAll k (es ++ es') = notingAll k es ++ notingAll (k + es.length) es' := by
  induction es generalizing k with
  | nil => rfl
  | cons e es ih =>
      rw [List.cons_append, notingAll, notingAll, ih, List.cons_append, List.length_cons,
        Nat.add_right_comm, Nat.add_assoc k]

/-- The numbers are those of the order in which elements are resolved. -/
theorem Interface.elements_noting (i : Interface (StateM σ)) :
    i.noting.elements = Element.notingAll 0 i.elements := by
  have hmethods : ∀ (k : Nat) (methods : List (Method (StateM σ))),
      ((Method.notingAll k methods).flatMap fun method => method.parameters ++ [method.element]) =
        Element.notingAll k
          (methods.flatMap fun method => method.parameters ++ [method.element]) := by
    intro k methods
    induction methods generalizing k with
    | nil => rfl
    | cons method methods ih =>
        simp only [Method.notingAll, List.flatMap_cons, Element.notingAll_append, ih,
          List.length_append, List.length_singleton, Element.notingAll, Nat.add_assoc]
  rw [Interface.elements, Interface.elements, Element.notingAll_append, Nat.zero_add, ← hmethods]
  rfl

/-! ## the list -/

/-- An inferer that notes its runs answers the same, and adds its number once. -/
theorem Inferer.answer_noting {E : Type} (inferer : Inferer (StateM σ) E) (k : Nat) (element : E)
    (r : Resolver) (w : σ) (log : List Nat) :
    (inferer.noting k).answer element r (w, log) =
      ((inferer.answer element r w).1, ((inferer.answer element r w).2, log ++ [k])) := by
  cases inferer <;> rfl

/-- An element answers the same, and adds its number if it has an inferer. -/
theorem Element.answer_noting (r : Resolver) (e : Element (StateM σ)) (k : Nat) (w : σ)
    (log : List Nat) : (e.noting k).answer r (w, log) =
      ((e.answer r w).1, ((e.answer r w).2, log ++ if e.slot.isEmpty then [] else [k])) := by
  unfold Element.answer Element.noting Slot.isEmpty
  cases e.slot.active with
  | none => simp
  | some inferer => exact inferer.answer_noting k e.field r w log

/-- Elements that all answer add the numbers of those that have inferers. -/
theorem InTurn.noting {r : Resolver} {es : List (Element (StateM σ))} {w w' : σ}
    {texts : List (List Char)} (h : InTurn (Element.answer r) es w texts w') (k : Nat)
    (log : List Nat) : InTurn (Element.answer r) (Element.notingAll k es) (w, log) texts
      (w', log ++ calls k es) := by
  induction h generalizing k log with
  | nil => rw [calls, List.append_nil]; exact .nil
  | @cons e es w w₁ w₂ text texts head _ ih =>
      have hstep : (e.noting k).answer r (w, log) =
          (.ok text, (w₁, log ++ if e.slot.isEmpty then [] else [k])) := by
        rw [Element.answer_noting, head]
      rw [calls, ← List.append_assoc]
      exact .cons hstep (ih (k + 1) _)

/-- Elements of which one fails add the numbers of those up to this one. -/
theorem FailsInTurn.noting {r : Resolver} {es taken : List (Element (StateM σ))} {w w' : σ}
    {error : InferError} (h : FailsInTurn (Element.answer r) es taken w error w') (k : Nat)
    (log : List Nat) : FailsInTurn (Element.answer r) (Element.notingAll k es)
      (Element.notingAll k taken) (w, log) error (w', log ++ calls k taken) := by
  induction h generalizing k log with
  | here head =>
      refine .here ?_
      rw [Element.answer_noting, head, calls, calls, List.append_nil]
  | @later e es taken w w₁ w₂ text error head _ ih =>
      have hstep : (e.noting k).answer r (w, log) =
          (.ok text, (w₁, log ++ if e.slot.isEmpty then [] else [k])) := by
        rw [Element.answer_noting, head]
      rw [calls, ← List.append_assoc]
      exact .later hstep (ih (k + 1) _)

/-! ## declarations -/

/-- Elements keep their names. -/
theorem Element.declares_notingAll {es : List (Element (StateM σ))} {typed : List TypedName}
    (h : List.Forall₂ Element.Declares es typed) (k : Nat) :
    List.Forall₂ Element.Declares (Element.notingAll k es) typed := by
  induction h generalizing k with
  | nil => exact .nil
  | cons hname _ ih => exact .cons hname (ih (k + 1))

/-- Methods keep their names. -/
theorem Method.declares_notingAll {methods : List (Method (StateM σ))} {typed : List TypedMethod}
    (h : List.Forall₂ Method.Declares methods typed) (k : Nat) :
    List.Forall₂ Method.Declares (Method.notingAll k methods) typed := by
  induction h generalizing k with
  | nil => exact .nil
  | cons hmethod _ ih =>
      exact .cons ⟨hmethod.name, Element.declares_notingAll hmethod.parameters k⟩ (ih _)

/-- What declares an interface declares it when its runs are noted. -/
theorem Interface.Declares.noting {i : Interface (StateM σ)} {d : Declaration}
    (h : i.Declares d) : i.noting.Declares d where
  scope := h.scope
  name := h.name
  members := Element.declares_notingAll h.members 0
  methods := Method.declares_notingAll h.methods i.members.length

/-! ## the emission -/

variable {r : Resolver} {settings : EmitSettings}

/-- Where an emission succeeds, it does so with its runs noted. -/
theorem Interface.runIn_emit_noting_of_ok {i : Interface (StateM σ)} {w w' : σ} {text : String}
    (h : runIn (i.emit r settings) w = (.ok text, w')) (log : List Nat) :
    runIn (i.noting.emit r settings) (w, log) = (.ok text, (w', log ++ calls 0 i.elements)) := by
  obtain ⟨_, ⟨d, hd, rfl, rfl⟩, hturn⟩ := (resolves_emit r settings i).ok h
  refine (i.noting.emit_eq_ok_iff r settings _ _ _).mpr ⟨d.typeTexts, ?_, ?_⟩
  · rw [i.elements_noting]
    exact hturn.noting 0 log
  · rw [hd.noting.text_eq_written]

/-- Where an element fails, it does so with the runs noted. -/
theorem Interface.runIn_emit_noting_of_fails {i : Interface (StateM σ)}
    {taken : List (Element (StateM σ))} {w w' : σ} {error : InferError}
    (h : FailsInTurn (Element.answer r) i.elements taken w error w') (log : List Nat) :
    runIn (i.noting.emit r settings) (w, log) = (.error error, (w', log ++ calls 0 taken)) := by
  refine (i.noting.emit_eq_error_iff r settings _ _ _).mpr ⟨Element.notingAll 0 taken, ?_⟩
  rw [i.elements_noting]
  exact h.noting 0 log

/-- **An emission resolves the elements in their order, and ends at the first
error.**  Members come first, then for each method its parameters and the
method itself; an element with an empty slot has the default mapping of its
native type.

1. The emission succeeds if and only if all elements answer in turn, with the
   text in which each name has its answer behind it.
2. It fails if and only if an element fails in turn, with the error of this one.
3. Where it succeeds, every inferer has run exactly once.
4. Where it fails, those up to the failing one have, and no others. -/
theorem Interface.emit_in_turn (r : Resolver) (settings : EmitSettings)
    (i : Interface (StateM σ)) (w : σ) :
    (∀ text w', runIn (i.emit r settings) w = (.ok text, w') ↔
      ∃ answers, InTurn (Element.answer r) i.elements w answers w' ∧
        text = String.ofList (i.written settings answers)) ∧
    (∀ error w', runIn (i.emit r settings) w = (.error error, w') ↔
      ∃ taken, FailsInTurn (Element.answer r) i.elements taken w error w') ∧
    (∀ text w' log, runIn (i.emit r settings) w = (.ok text, w') →
      runIn (i.noting.emit r settings) (w, log) =
        (.ok text, (w', log ++ calls 0 i.elements))) ∧
    (∀ taken error w' log, FailsInTurn (Element.answer r) i.elements taken w error w' →
      runIn (i.noting.emit r settings) (w, log) =
        (.error error, (w', log ++ calls 0 taken))) := by
  refine ⟨i.emit_eq_ok_iff r settings w, i.emit_eq_error_iff r settings w, ?_, ?_⟩
  · exact fun text w' log h => runIn_emit_noting_of_ok h log
  · exact fun taken error w' log h => runIn_emit_noting_of_fails h log

/-- A parameter is refused: the inferer of its method does not run. -/
example :
    let member : Element (StateM Unit) := .new "size" (.primitive .u32)
    let parameter := (Element.new "key" (.primitive .char)).inferName fun _ => throw (.other "no")
    let method := (Element.new "get" (.primitive .unit)).inferName fun _ => pure "Value"
    let i : Interface (StateM Unit) := ⟨[], "Store", [member], [⟨method, [parameter]⟩]⟩
    runIn (i.noting.emit .default .default) ((), []) = (.error (.other "no"), ((), [1])) := by rfl

end DeclGen
