import Mathlib.Data.List.Forall2
import DeclGen.Emission
import DeclGen.Proofs.Emission.InTurn

/-!
# DeclGen.Proofs.Emission.Order

The order in which the elements of an interface are resolved, and where this
ends.

* The world of an emission is whatever the inferers can read and change; in it
  an element has an answer, which is the text of its type (`Element.answer`).
* Each stage of the emission takes the answers of its elements in turn
  (`Resolves`): an element, a list of elements, a method, the interface.
* What comes out declares the interface: the names are the same, all in the same
  places (`Interface.Declares`).
-/

namespace DeclGen

variable {σ : Type}

/-! ## answers -/

/-- The text of the type that an inferer computes in a world: a name as it
stands, a structured type as it is printed. -/
def Inferer.answer {E : Type} (inferer : Inferer (StateM σ) E) (element : E) (r : Resolver)
    (w : σ) : Except InferError (List Char) × σ :=
  match inferer with
  | nameWithResolver run => Prod.map (Except.map String.toList) id (runIn (run element r) w)
  | typeWithResolver run => Prod.map (Except.map TypeName.text) id (runIn (run element r) w)
  | name run => Prod.map (Except.map String.toList) id (runIn (run element) w)
  | type run => Prod.map (Except.map TypeName.text) id (runIn (run element) w)

/-- The text of an element's type: the answer of its inferer, or the default
mapping of its native type if its slot is empty. -/
def Element.answer (r : Resolver) (e : Element (StateM σ)) (w : σ) :
    Except InferError (List Char) × σ :=
  match e.slot.active with
  | none => (.ok (r.resolve e.field.type).text, w)
  | some inferer => inferer.answer e.field r w

/-- The types of a method in a declaration, those of the parameters first. -/
def TypedMethod.typeTexts (method : TypedMethod) : List (List Char) :=
  method.parameters.map (fun parameter => parameter.type.text) ++ [method.returns.text]

/-- The texts of the types in a declaration, in the order of the elements. -/
def Declaration.typeTexts (d : Declaration) : List (List Char) :=
  d.members.map (fun member => member.type.text) ++ d.methods.flatMap TypedMethod.typeTexts

/-! ## declarations of an interface -/

/-- A typed name declares an element of this name. -/
def Element.Declares (e : Element (StateM σ)) (typed : TypedName) : Prop :=
  typed.name = e.field.name

/-- A typed method declares a method if the names are the same. -/
structure Method.Declares (method : Method (StateM σ)) (typed : TypedMethod) : Prop where
  name : typed.name = method.element.field.name
  parameters : List.Forall₂ Element.Declares method.parameters typed.parameters

/-- A declaration declares an interface if the names are the same, all in the
same places. -/
structure Interface.Declares (i : Interface (StateM σ)) (d : Declaration) : Prop where
  scope : d.scope = i.scope
  name : d.name = i.name
  members : List.Forall₂ Element.Declares i.members d.members
  methods : List.Forall₂ Method.Declares i.methods d.methods

/-- What an inferer answers is what running it gives. -/
theorem Inferer.answer_eq {E : Type} (inferer : Inferer (StateM σ) E) (element : E) (r : Resolver)
    (w : σ) : inferer.answer element r w =
      Prod.map (Except.map TypeName.text) id (runIn (inferer.invoke element r) w) := by
  cases inferer with
  | nameWithResolver run =>
      rw [Inferer.answer, Inferer.invoke, runIn_map]
      rcases runIn (run element r) w with ⟨error | name, w₁⟩ <;> rfl
  | typeWithResolver run => rfl
  | name run =>
      rw [Inferer.answer, Inferer.invoke, runIn_map]
      rcases runIn (run element) w with ⟨error | name, w₁⟩ <;> rfl
  | type run => rfl

/-- What an element answers is what resolving it gives. -/
theorem Element.answer_eq (r : Resolver) (e : Element (StateM σ)) (w : σ) :
    e.answer r w = Prod.map (Except.map TypeName.text) id (runIn (e.resolve r) w) := by
  unfold Element.answer Element.resolve Slot.resolve Slot.infer
  cases e.slot.active with
  | none => rfl
  | some inferer =>
      simp only [inferer.answer_eq]
      rcases hrun : runIn (inferer.invoke e.field r) w with ⟨error | type, w₁⟩
      · have hmap : runIn (some <$> inferer.invoke e.field r) w = (.error error, w₁) := by
          rw [runIn_map, hrun]; rfl
        rw [runIn_bind_of_error hmap]
      · have hmap : runIn (some <$> inferer.invoke e.field r) w = (.ok (some type), w₁) := by
          rw [runIn_map, hrun]; rfl
        rw [runIn_bind_of_ok hmap]
        rfl

/-! ## resolving in turn -/

/-- An action resolves elements if it takes their answers in turn: a result
fits the answers, and an error is that of the first element that fails. -/
structure Resolves {α : Type} (r : Resolver) (x : ExceptT InferError (StateM σ) α)
    (es : List (Element (StateM σ))) (fits : α → List (List Char) → Prop) : Prop where
  ok : ∀ {w : σ} {a : α} {w' : σ}, runIn x w = (.ok a, w') →
    ∃ texts, fits a texts ∧ InTurn (Element.answer r) es w texts w'
  error : ∀ {w : σ} {error : InferError} {w' : σ}, runIn x w = (.error error, w') →
    ∃ taken, FailsInTurn (Element.answer r) es taken w error w'

variable {α β : Type} {r : Resolver}

/-- An action without elements. -/
theorem resolves_pure (a : α) :
    Resolves r (pure a : ExceptT InferError (StateM σ) α) [] fun b texts => b = a ∧ texts = [] where
  ok := by
    intro w b w' h
    simp only [runIn_pure, Prod.mk.injEq, Except.ok.injEq] at h
    obtain ⟨rfl, rfl⟩ := h
    exact ⟨[], ⟨rfl, rfl⟩, .nil⟩
  error := by
    intro w error w' h
    simp at h

/-- Two actions resolve the elements of the first and then those of the second. -/
theorem Resolves.bind {x : ExceptT InferError (StateM σ) α}
    {f : α → ExceptT InferError (StateM σ) β} {es es' : List (Element (StateM σ))}
    {fits : α → List (List Char) → Prop} {fits' : α → β → List (List Char) → Prop}
    (hx : Resolves r x es fits) (hf : ∀ a, Resolves r (f a) es' (fits' a)) :
    Resolves r (x >>= f) (es ++ es') fun b texts =>
      ∃ a texts₁ texts₂, texts = texts₁ ++ texts₂ ∧ fits a texts₁ ∧ fits' a b texts₂ where
  ok := by
    intro w b w' h
    rcases hrun : runIn x w with ⟨error | a, w₁⟩
    · rw [runIn_bind_of_error hrun] at h
      simp at h
    · rw [runIn_bind_of_ok hrun] at h
      obtain ⟨texts₁, hfits₁, hturn₁⟩ := hx.ok hrun
      obtain ⟨texts₂, hfits₂, hturn₂⟩ := (hf a).ok h
      exact ⟨texts₁ ++ texts₂, ⟨a, texts₁, texts₂, rfl, hfits₁, hfits₂⟩, hturn₁.append hturn₂⟩
  error := by
    intro w error w' h
    rcases hrun : runIn x w with ⟨error₁ | a, w₁⟩
    · rw [runIn_bind_of_error hrun] at h
      obtain ⟨he, rfl⟩ := Prod.mk.inj h
      obtain rfl := Except.error.inj he
      obtain ⟨taken, htaken⟩ := hx.error hrun
      exact ⟨taken, htaken.append es'⟩
    · rw [runIn_bind_of_ok hrun] at h
      obtain ⟨texts₁, -, hturn₁⟩ := hx.ok hrun
      obtain ⟨taken, htaken⟩ := (hf a).error h
      exact ⟨es ++ taken, hturn₁.append_fails htaken⟩

/-- A result may be described in other words. -/
theorem Resolves.imp {x : ExceptT InferError (StateM σ) α} {es : List (Element (StateM σ))}
    {fits fits' : α → List (List Char) → Prop} (h : Resolves r x es fits)
    (himp : ∀ a texts, fits a texts → fits' a texts) : Resolves r x es fits' where
  ok := by
    intro w a w' hrun
    obtain ⟨texts, hfits, hturn⟩ := h.ok hrun
    exact ⟨texts, himp a texts hfits, hturn⟩
  error := h.error

/-- What is made of a result takes no further answers. -/
theorem Resolves.map {x : ExceptT InferError (StateM σ) α} {es : List (Element (StateM σ))}
    {fits : α → List (List Char) → Prop} (hx : Resolves r x es fits) (f : α → β) :
    Resolves r (x >>= fun a => pure (f a)) es fun b texts => ∃ a, b = f a ∧ fits a texts := by
  have h := hx.bind fun a => resolves_pure (r := r) (σ := σ) (f a)
  rw [List.append_nil] at h
  refine h.imp ?_
  rintro b _ ⟨a, texts, _, rfl, hfits, rfl, rfl⟩
  exact ⟨a, rfl, by rwa [List.append_nil]⟩

/-- A list of actions resolves the elements of each, one action after the other. -/
theorem Resolves.mapM {γ : Type} {f : γ → ExceptT InferError (StateM σ) α}
    {es : γ → List (Element (StateM σ))} {good : γ → α → Prop} {texts : α → List (List Char)}
    (h : ∀ c, Resolves r (f c) (es c) fun a ts => good c a ∧ ts = texts a) (cs : List γ) :
    Resolves r (cs.mapM f) (cs.flatMap es) fun as ts =>
      List.Forall₂ good cs as ∧ ts = as.flatMap texts := by
  induction cs with
  | nil =>
      refine (resolves_pure (r := r) (σ := σ) ([] : List α)).imp ?_
      rintro _ _ ⟨rfl, rfl⟩
      exact ⟨.nil, rfl⟩
  | cons c cs ih =>
      rw [List.mapM_cons, List.flatMap_cons]
      refine ((h c).bind fun a => ih.map (a :: ·)).imp ?_
      rintro _ _ ⟨a, _, _, rfl, ⟨hgood, rfl⟩, as, rfl, hall, rfl⟩
      exact ⟨.cons hgood hall, by rw [List.flatMap_cons]⟩

/-! ## the stages of an emission -/

/-- An element resolves itself. -/
theorem resolves_element (r : Resolver) (e : Element (StateM σ)) :
    Resolves r (e.resolve r) [e] fun type texts => texts = [type.text] where
  ok := by
    intro w type w' h
    refine ⟨[type.text], rfl, .cons ?_ .nil⟩
    rw [e.answer_eq, h]
    rfl
  error := by
    intro w error w' h
    refine ⟨[e], .here ?_⟩
    rw [e.answer_eq, h]
    rfl

/-- Elements resolve themselves from left to right. -/
theorem resolves_elements (r : Resolver) (es : List (Element (StateM σ))) :
    Resolves r (es.mapM (Element.typed r)) es fun typed texts =>
      List.Forall₂ Element.Declares es typed ∧ texts = typed.map fun t => t.type.text := by
  have helement : ∀ e : Element (StateM σ), Resolves r (e.typed r) [e] fun typed texts =>
      e.Declares typed ∧ texts = [typed.type.text] := by
    intro e
    refine ((resolves_element r e).map fun type =>
      (⟨e.field.name, type⟩ : TypedName)).imp ?_
    rintro _ _ ⟨type, rfl, rfl⟩
    exact ⟨rfl, rfl⟩
  have h := Resolves.mapM helement es
  rw [List.flatMap_singleton'] at h
  refine h.imp ?_
  rintro typed _ ⟨hall, rfl⟩
  exact ⟨hall, List.map_eq_flatMap.symm⟩

/-- A method resolves its parameters and then itself. -/
theorem resolves_method (r : Resolver) (method : Method (StateM σ)) :
    Resolves r (method.typed r) (method.parameters ++ [method.element]) fun typed texts =>
      method.Declares typed ∧ texts = typed.typeTexts := by
  have h := (resolves_elements r method.parameters).bind fun parameters =>
    (resolves_element r method.element).map fun returns =>
      (⟨method.element.field.name, parameters, returns⟩ : TypedMethod)
  refine h.imp ?_
  rintro _ _ ⟨parameters, _, _, rfl, ⟨hall, rfl⟩, returns, rfl, rfl⟩
  exact ⟨⟨rfl, hall⟩, rfl⟩

/-- An interface resolves its elements in their order. -/
theorem resolves_interface (r : Resolver) (i : Interface (StateM σ)) :
    Resolves r (i.typed r) i.elements fun d texts => i.Declares d ∧ texts = d.typeTexts := by
  have h := (resolves_elements r i.members).bind fun members =>
    (Resolves.mapM (resolves_method r) i.methods).map fun methods =>
      (⟨i.scope, i.name, members, methods⟩ : Declaration)
  refine h.imp ?_
  rintro _ _ ⟨members, _, _, rfl, ⟨hmembers, rfl⟩, methods, rfl, hmethods, rfl⟩
  exact ⟨⟨rfl, rfl, hmembers, hmethods⟩, rfl⟩

/-- An emission resolves the elements of its interface in their order. -/
theorem resolves_emit (r : Resolver) (settings : EmitSettings) (i : Interface (StateM σ)) :
    Resolves r (i.emit r settings) i.elements fun text texts =>
      ∃ d, i.Declares d ∧ texts = d.typeTexts ∧ text = String.ofList (d.text settings) := by
  refine ((resolves_interface r i).map fun d => String.ofList (d.text settings)).imp ?_
  rintro _ _ ⟨d, rfl, hd, rfl⟩
  exact ⟨d, hd, rfl, rfl⟩

/-- A method has as many types as elements. -/
theorem Method.Declares.length_typeTexts {method : Method (StateM σ)} {m : TypedMethod}
    (h : method.Declares m) : m.typeTexts.length = method.parameters.length + 1 := by
  simp [TypedMethod.typeTexts, h.parameters.length_eq]

end DeclGen
