import DeclGen.Proofs.Emission.Calls

/-!
# DeclGen.Proofs.Emission.ContextFree

Emissions of one interface under two resolvers.

The resolver is seen in two places only: by inferers of the kinds that use it,
and by the default mapping of elements with empty slots.  Where no inferer uses
it and the default mappings come to the same texts, the elements answer the same
(`Element.answer_congr`), and an emission is made of nothing but the answers
(`Interface.runIn_emit_congr`).
-/

namespace DeclGen

variable {σ ε α β : Type} {m : Type → Type}

/-! ## steps that do the same -/

section Steps

variable {step step' : α → σ → Except ε β × σ}

theorem InTurn.congr {as : List α} (hsteps : ∀ a ∈ as, step a = step' a) {w w' : σ}
    {bs : List β} (h : InTurn step as w bs w') : InTurn step' as w bs w' := by
  induction h with
  | nil => exact .nil
  | cons head _ ih =>
      obtain ⟨hstep, hrest⟩ := List.forall_mem_cons.mp hsteps
      exact .cons (hstep ▸ head) (ih hrest)

theorem FailsInTurn.congr {as taken : List α} (hsteps : ∀ a ∈ as, step a = step' a) {w w' : σ}
    {error : ε} (h : FailsInTurn step as taken w error w') :
    FailsInTurn step' as taken w error w' := by
  induction h with
  | here head =>
      obtain ⟨hstep, -⟩ := List.forall_mem_cons.mp hsteps
      exact .here (hstep ▸ head)
  | later head _ ih =>
      obtain ⟨hstep, hrest⟩ := List.forall_mem_cons.mp hsteps
      exact .later (hstep ▸ head) (ih hrest)

end Steps

/-! ## elements -/

/-- No inferer of the element sees the resolver: its slot is empty, or holds one
of a kind that does not use it. -/
def Element.ContextFree (e : Element m) : Prop :=
  ∀ kind ∈ e.slot.activeKind?, kind.usesResolver = false

/-- The element has an inferer, of a kind that does not use the resolver. -/
def Element.Settled (e : Element m) : Prop :=
  ∃ kind, e.slot.activeKind? = some kind ∧ kind.usesResolver = false

/-- Two resolvers agree on an element: if its slot is empty, they map its native
type to types with the same text. -/
def Element.Agrees (r r' : Resolver) (e : Element m) : Prop :=
  e.slot.isEmpty = true → (r.resolve e.field.type).text = (r'.resolve e.field.type).text

theorem Element.Settled.contextFree {e : Element m} (h : e.Settled) : e.ContextFree := by
  obtain ⟨kind, hkind, hfree⟩ := h
  intro other hother
  obtain rfl : kind = other := Option.some.inj (hkind.symm.trans hother)
  exact hfree

/-- Resolvers agree on an element whose slot is not empty. -/
theorem Element.Settled.agrees {e : Element m} (h : e.Settled) (r r' : Resolver) :
    e.Agrees r r' := by
  obtain ⟨kind, hkind, -⟩ := h
  intro hempty
  obtain ⟨inferer, hactive, -⟩ := Option.map_eq_some_iff.mp hkind
  rw [Slot.isEmpty, hactive] at hempty
  contradiction

/-- An inferer that does not use the resolver answers the same under any. -/
theorem Inferer.answer_congr {E : Type} {inferer : Inferer (StateM σ) E}
    (h : inferer.kind.usesResolver = false) (element : E) (r r' : Resolver) :
    inferer.answer element r = inferer.answer element r' := by
  cases inferer with
  | nameWithResolver run => contradiction
  | typeWithResolver run => contradiction
  | name run => rfl
  | type run => rfl

/-- An element answers the same under resolvers that agree on it, if its inferer
does not see them. -/
theorem Element.answer_congr {e : Element (StateM σ)} {r r' : Resolver} (hfree : e.ContextFree)
    (hagree : e.Agrees r r') : e.answer r = e.answer r' := by
  funext w
  unfold Element.answer
  cases hactive : e.slot.active with
  | none =>
      have hempty : e.slot.isEmpty = true := by rw [Slot.isEmpty, hactive]; rfl
      simp only [hagree hempty]
  | some inferer =>
      have hkind : e.slot.activeKind? = some inferer.kind := by rw [Slot.activeKind?, hactive]; rfl
      exact congrFun (Inferer.answer_congr (hfree _ hkind) e.field r r') w

/-- What answers the same does so if its runs are noted. -/
theorem Element.answer_notingAll_congr {r r' : Resolver} {es : List (Element (StateM σ))}
    (h : ∀ e ∈ es, e.answer r = e.answer r') (k : Nat) :
    ∀ e ∈ notingAll k es, e.answer r = e.answer r' := by
  induction es generalizing k with
  | nil => exact List.forall_mem_nil _
  | cons e es ih =>
      obtain ⟨he, hes⟩ := List.forall_mem_cons.mp h
      refine List.forall_mem_cons.mpr ⟨?_, ih hes (k + 1)⟩
      funext ⟨w, log⟩
      rw [answer_noting, answer_noting, he]

/-! ## emissions -/

/-- An emission comes to the same under two resolvers if all elements answer the
same. -/
theorem Interface.runIn_emit_congr {i : Interface (StateM σ)} {r r' : Resolver}
    (h : ∀ e ∈ i.elements, e.answer r = e.answer r') (settings : EmitSettings) (w : σ) :
    runIn (i.emit r settings) w = runIn (i.emit r' settings) w := by
  rcases hrun : runIn (i.emit r settings) w with ⟨error | text, w'⟩
  · obtain ⟨taken, htaken⟩ := (i.emit_eq_error_iff r settings w error w').mp hrun
    exact ((i.emit_eq_error_iff r' settings w error w').mpr ⟨taken, htaken.congr h⟩).symm
  · obtain ⟨answers, hturn, htext⟩ := (i.emit_eq_ok_iff r settings w text w').mp hrun
    exact ((i.emit_eq_ok_iff r' settings w text w').mpr ⟨answers, hturn.congr h, htext⟩).symm

/-- Inferers run the same under two resolvers if all elements answer the same. -/
theorem Interface.runIn_emit_noting_congr {i : Interface (StateM σ)} {r r' : Resolver}
    (h : ∀ e ∈ i.elements, e.answer r = e.answer r') (settings : EmitSettings) (w : σ)
    (log : List Nat) :
    runIn (i.noting.emit r settings) (w, log) = runIn (i.noting.emit r' settings) (w, log) := by
  refine runIn_emit_congr ?_ settings (w, log)
  rw [i.elements_noting]
  exact Element.answer_notingAll_congr h 0

/-- **An emission depends on the resolver only where it may.**  No inferer of the
interface sees the resolver.

1. Resolvers that agree on all elements with empty slots give the same text or
   the same error, and the same inferers run in the same order.
2. If every element has an inferer, then all resolvers do. -/
theorem Interface.emit_independent (i : Interface (StateM σ)) (settings : EmitSettings) (w : σ)
    (log : List Nat) (r r' : Resolver) :
    ((∀ e ∈ i.elements, e.ContextFree) → (∀ e ∈ i.elements, e.Agrees r r') →
      runIn (i.emit r settings) w = runIn (i.emit r' settings) w ∧
        runIn (i.noting.emit r settings) (w, log) = runIn (i.noting.emit r' settings) (w, log)) ∧
    ((∀ e ∈ i.elements, e.Settled) →
      runIn (i.emit r settings) w = runIn (i.emit r' settings) w ∧
        runIn (i.noting.emit r settings) (w, log) =
          runIn (i.noting.emit r' settings) (w, log)) := by
  have hindependent : (∀ e ∈ i.elements, e.ContextFree) → (∀ e ∈ i.elements, e.Agrees r r') →
      runIn (i.emit r settings) w = runIn (i.emit r' settings) w ∧
        runIn (i.noting.emit r settings) (w, log) =
          runIn (i.noting.emit r' settings) (w, log) := by
    intro hfree hagree
    have hanswer : ∀ e ∈ i.elements, e.answer r = e.answer r' := fun e he =>
      Element.answer_congr (hfree e he) (hagree e he)
    exact ⟨runIn_emit_congr hanswer settings w, runIn_emit_noting_congr hanswer settings w log⟩
  refine ⟨hindependent, fun hsettled => hindependent ?_ ?_⟩
  · exact fun e he => (hsettled e he).contextFree
  · exact fun e he => (hsettled e he).agrees r r'

/-- An order with a note: the inferer of its number counts its runs in the world,
and the inferer of its total refuses. -/
def orderWith (note : Element (StateM Nat)) : Interface (StateM Nat) where
  scope := ["shop"]
  name := "Order"
  members := [(Element.new "id" (.primitive .u64)).inferName fun field => do
      modify (· + 1)
      pure (field.name ++ "Key"), note]
  methods := [⟨(Element.new "total" (.primitive .f64)).inferType fun field =>
      throw (.rejected field.name "unsupported"), []⟩]

/-- Resolvers that differ in the type of the number give the same error, whether
or not the note has an inferer. -/
theorem Interface.emit_independent_orderWith :
    let r : Resolver := .default
    let r' : Resolver := (r.withStripNamespaces false).substitute "u64" (.simple "bigint")
    let plain := Element.new "note" (.primitive .string)
    let settled := plain.inferName fun _ => pure "Note"
    ((∀ e ∈ (orderWith plain).elements, e.ContextFree) ∧
      (∀ e ∈ (orderWith plain).elements, e.Agrees r r') ∧
      runIn ((orderWith plain).emit r .default) 0 =
        runIn ((orderWith plain).emit r' .default) 0 ∧
      runIn ((orderWith plain).noting.emit r' .default) (0, []) =
        (.error (.rejected "total" "unsupported"), (1, [0, 2]))) ∧
    (∀ e ∈ (orderWith settled).elements, e.Settled) ∧
      runIn ((orderWith settled).emit r .default) 0 =
        runIn ((orderWith settled).emit r' .default) 0 ∧
      runIn ((orderWith settled).noting.emit r' .default) (0, []) =
        (.error (.rejected "total" "unsupported"), (1, [0, 1, 2])) := by
  intro r r' plain settled
  have hfree : ∀ e ∈ (orderWith plain).elements, e.ContextFree := by
    simp [orderWith, Interface.elements, Element.ContextFree, plain, Element.new,
      Element.inferName, Element.inferType, Element.withInferer, Slot.activeKind?, Slot.set,
      Slot.empty, Inferer.kind, InfererKind.usesResolver]
  have hagree : ∀ e ∈ (orderWith plain).elements, e.Agrees r r' := by
    simp only [orderWith, Interface.elements, List.forall_mem_append, List.forall_mem_cons]
    refine ⟨⟨by rintro ⟨⟩, fun _ => by decide, List.forall_mem_nil _⟩, ?_⟩
    exact List.forall_mem_singleton.mpr (by rintro ⟨⟩)
  have hsettled : ∀ e ∈ (orderWith settled).elements, e.Settled := by
    simp only [orderWith, Interface.elements, List.forall_mem_append, List.forall_mem_cons]
    refine ⟨⟨⟨.name, rfl, rfl⟩, ⟨.name, rfl, rfl⟩, List.forall_mem_nil _⟩, ?_⟩
    exact List.forall_mem_singleton.mpr ⟨.type, rfl, rfl⟩
  obtain ⟨hplain, hplainRuns⟩ :=
    ((orderWith plain).emit_independent .default 0 [] r r').1 hfree hagree
  obtain ⟨hsame, hsameRuns⟩ := ((orderWith settled).emit_independent .default 0 [] r r').2 hsettled
  exact ⟨⟨hfree, hagree, hplain, hplainRuns.symm.trans rfl⟩, hsettled, hsame,
    hsameRuns.symm.trans rfl⟩

end DeclGen
