import DeclGen.Generation
import DeclGen.Proofs.Emission.InTurn
import DeclGen.Proofs.Model.Overrides

/-!
# DeclGen.Proofs.Generation.Append

What becomes of two models with the same namespace and the same overrides when
one is put behind the other.

1. The elements of a model's interfaces only answer: a slot is empty or holds an
   override, which never fails (`Model.decided_elements`).
2. Hence an emission of such an interface gives a text and does nothing else
   (`Interface.answers_emit`), and a generation can only fail before it emits
   anything.
3. Hence the interfaces of both models are declared one after the other as each
   of them is alone, and the first failure is that of the first model that has
   one.
-/

namespace DeclGen

variable {σ : Type} {m : Type → Type} [Monad m]

/-! ## actions that only answer -/

/-- An action gives an answer and does nothing else. -/
def Answers {n : Type → Type} [Monad n] {α : Type} (x : n α) : Prop := ∃ a, x = pure a

section Answers

variable {n : Type → Type} [Monad n] {α β : Type}

theorem Answers.bind [LawfulMonad n] {x : n α} {f : α → n β} (hx : Answers x)
    (hf : ∀ a, Answers (f a)) : Answers (x >>= f) := by
  obtain ⟨a, rfl⟩ := hx
  rw [pure_bind]
  exact hf a

/-- Actions that answer give their answers in order. -/
theorem mapM_eq_pure [LawfulMonad n] {f : α → n β} {as : List α} {bs : List β}
    (h : List.Forall₂ (fun a b => f a = pure b) as bs) : as.mapM f = pure bs := by
  induction h with
  | nil => rfl
  | cons head _ ih => rw [List.mapM_cons, head, ih, pure_bind, pure_bind]

theorem exists_forall₂ {f : α → n β} {as : List α} (h : ∀ a ∈ as, Answers (f a)) :
    ∃ bs, List.Forall₂ (fun a b => f a = pure b) as bs := by
  induction as with
  | nil => exact ⟨[], .nil⟩
  | cons a as ih =>
      obtain ⟨ha, has⟩ := List.forall_mem_cons.mp h
      obtain ⟨b, hb⟩ := ha
      obtain ⟨bs, hbs⟩ := ih has
      exact ⟨b :: bs, .cons hb hbs⟩

theorem Answers.mapM [LawfulMonad n] {f : α → n β} {as : List α} (h : ∀ a ∈ as, Answers (f a)) :
    Answers (as.mapM f) := by
  obtain ⟨bs, hbs⟩ := exists_forall₂ h
  exact ⟨bs, mapM_eq_pure hbs⟩

/-- An answer is no error that could be told otherwise. -/
theorem adapt_pure [LawfulMonad n] {ε ε' : Type} (f : ε → ε') (a : α) :
    ExceptT.adapt f (pure a : ExceptT ε n α) = pure a := map_pure _ _

end Answers

/-! ## emission -/

theorem Element.answers_typed [LawfulMonad m] {r : Resolver} {e : Element m}
    (h : Answers (e.resolve r)) : Answers (e.typed r) :=
  h.bind fun _ => ⟨_, rfl⟩

theorem Method.answers_typed [LawfulMonad m] {r : Resolver} {method : Method m}
    (h : ∀ e ∈ method.parameters ++ [method.element], Answers (e.resolve r)) :
    Answers (method.typed r) := by
  have hparameters : Answers (method.parameters.mapM (Element.typed r)) :=
    .mapM fun e he => Element.answers_typed (h e (List.mem_append_left _ he))
  have helement : Answers (method.element.resolve r) :=
    h _ (List.mem_append_right _ (List.mem_singleton_self _))
  exact hparameters.bind fun _ => helement.bind fun _ => ⟨_, rfl⟩

/-- An interface whose elements only answer is emitted without fail. -/
theorem Interface.answers_emit [LawfulMonad m] {r : Resolver} (settings : EmitSettings)
    {i : Interface m} (h : ∀ e ∈ i.elements, Answers (e.resolve r)) :
    Answers (i.emit r settings) := by
  have hmembers : Answers (i.members.mapM (Element.typed r)) :=
    .mapM fun e he => Element.answers_typed (h e (List.mem_append_left _ he))
  have hmethods : Answers (i.methods.mapM (Method.typed r)) :=
    .mapM fun method hmethod => Method.answers_typed fun e he =>
      h e (List.mem_append_right _ (List.mem_flatMap.mpr ⟨method, hmethod, he⟩))
  have htyped : Answers (i.typed r) :=
    hmembers.bind fun _ => hmethods.bind fun _ => ⟨_, rfl⟩
  exact htyped.bind fun _ => ⟨_, rfl⟩

/-! ## interfaces of a model -/

/-- The elements of a model's interfaces are those that it declares, each decided
by the overrides of the model. -/
theorem Model.decided_elements [LawfulMonad m] {model : Model} {is : List (Interface m)}
    (h : model.toInterfaces = .ok is) :
    List.Forall₂ (fun (d : ElementDecl) e => Element.Decided model.overrides d.path e)
      model.elementDecls (is.flatMap Interface.elements) := by
  obtain ⟨rules, hrules, hinterfaces⟩ := toInterfaces_eq_ok.mp h
  have helements : List.Forall₂ (fun d e => typedElement rules d.name d.type d.path = .ok e)
      model.elementDecls (is.flatMap Interface.elements) :=
    List.rel_flatMap hinterfaces fun _ _ => elements_of_interface
  exact helements.imp fun _ _ => decided_of_typedElement hrules

theorem Element.Decided.answers {overrides : List Override} {path : String} {e : Element m}
    (h : e.Decided overrides path) (r : Resolver) : Answers (e.resolve r) := by
  cases h with
  | none _ _ resolve => exact ⟨_, resolve r⟩
  | last _ _ _ _ _ resolve => exact ⟨_, resolve r⟩

/-- An interface of a model is emitted without fail. -/
theorem Model.answers_emit [LawfulMonad m] {model : Model} {is : List (Interface m)}
    (h : model.toInterfaces = .ok is) (r : Resolver) (settings : EmitSettings) :
    ∀ i ∈ is, Answers (i.emit r settings) := by
  have hanswers : ∀ e ∈ is.flatMap Interface.elements, Answers (e.resolve r) :=
    forall_mem_right (fun _ _ he => he.answers r) (Model.decided_elements h)
  intro i hi
  exact Interface.answers_emit settings fun e he =>
    hanswers e (List.mem_flatMap.mpr ⟨i, hi, he⟩)

/-- The interfaces of the first model come before those of the second, and a fault
of the first comes before one of the second. -/
theorem toInterfaces_append (scope : Option String) (overrides : List Override)
    (ds₁ ds₂ : List InterfaceDecl) :
    (Model.toInterfaces ⟨scope, ds₁ ++ ds₂, overrides⟩ : Except ModelError (List (Interface m))) =
      (do
        let is₁ ← Model.toInterfaces ⟨scope, ds₁, overrides⟩
        let is₂ ← Model.toInterfaces ⟨scope, ds₂, overrides⟩
        pure (is₁ ++ is₂)) := by
  unfold Model.toInterfaces
  cases overrides.mapM OverrideRule.ofOverride with
  | error cause => rfl
  | ok rules =>
      rw [Native.ok_bind, List.mapM_append]
      rfl

/-! ## generation -/

namespace Generator

/-- The generation of a model without interfaces fails with the model's fault. -/
theorem generate_of_error (g : Generator) {model : Model} {cause : ModelError}
    (h : (model.toInterfaces : Except ModelError (List (Interface m))) = .error cause)
    (source time : String) :
    (g.generate model source time : ExceptT GenerationError m Generated) =
      throw (.model cause) := by
  rw [generate, h]

/-- The interfaces of a model are declared by their emissions, in their order. -/
theorem generate_of_ok [LawfulMonad m] (g : Generator) {model : Model} {is : List (Interface m)}
    (h : model.toInterfaces = .ok is) (source time : String) {texts : List String}
    (htexts : List.Forall₂ (fun i text => i.emit g.resolver g.layout = pure text) is texts) :
    (g.generate model source time : ExceptT GenerationError m Generated) =
      pure ⟨header source time ++ body texts, .ofInterfaces is⟩ := by
  have hdeclare : List.Forall₂ (fun (i : Interface m) text => g.declare i = pure text) is texts :=
    htexts.imp fun _ _ hi => by rw [declare, hi, adapt_pure]
  simp only [generate, h, declareAll]
  rw [mapM_eq_pure hdeclare, pure_bind]

/-! ## two models -/

/-- A generation gives a result in a world and leaves the world alone. -/
def Gives (g : Generator) (w : σ) (model : Model) (source time : String)
    (result : Except GenerationError Generated) : Prop :=
  runIn (g.generate model source time) w = (result, w)

/-- A text is that of a model's declarations: for each of its interfaces in order
an empty line and what the interface's emission gives. -/
def Declares (g : Generator) (w : σ) (model : Model) (text : String) : Prop :=
  ∃ is texts, model.toInterfaces = .ok is ∧
    List.Forall₂ (fun i text => runIn (i.emit g.resolver g.layout) w = (.ok text, w)) is texts ∧
    text = String.join (texts.map fun text => "\n" ++ text)

variable (g : Generator) (w : σ) {model : Model}

/-- A model without interfaces gives its fault. -/
theorem gives_of_error {cause : ModelError}
    (h : (model.toInterfaces : Except ModelError (List (Interface (StateM σ)))) = .error cause)
    (source time : String) (result : Except GenerationError Generated) :
    g.Gives w model source time result ↔ result = .error (.model cause) := by
  rw [Gives, generate_of_error g h]
  exact ⟨fun hrun => (Prod.mk.inj hrun).1.symm, fun hresult => hresult ▸ rfl⟩

/-- A model that has interfaces gives their declarations. -/
theorem gives_of_ok {is : List (Interface (StateM σ))} (h : model.toInterfaces = .ok is)
    {texts : List String}
    (htexts : List.Forall₂ (fun i text => i.emit g.resolver g.layout = pure text) is texts)
    (source time : String) (result : Except GenerationError Generated) :
    g.Gives w model source time result ↔
      result = .ok ⟨header source time ++ body texts, .ofInterfaces is⟩ := by
  rw [Gives, generate_of_ok g h source time htexts, runIn_pure]
  exact ⟨fun hrun => (Prod.mk.inj hrun).1.symm, fun hresult => hresult ▸ rfl⟩

theorem declares_of_ok {is : List (Interface (StateM σ))} (h : model.toInterfaces = .ok is)
    {texts : List String}
    (htexts : List.Forall₂ (fun i text => i.emit g.resolver g.layout = pure text) is texts) :
    g.Declares w model (body texts) :=
  ⟨is, texts, h, htexts.imp fun _ _ hi => by rw [hi, runIn_pure], rfl⟩

/-- A generation gives a result, whatever the model is. -/
theorem exists_gives (model : Model) (source time : String) :
    ∃ result, g.Gives w model source time result := by
  cases h : (model.toInterfaces : Except ModelError (List (Interface (StateM σ)))) with
  | error cause => exact ⟨_, (gives_of_error g w h source time _).mpr rfl⟩
  | ok is =>
      obtain ⟨texts, htexts⟩ := exists_forall₂ (Model.answers_emit h g.resolver g.layout)
      exact ⟨_, (gives_of_ok g w h htexts source time _).mpr rfl⟩

end Generator

theorem body_append (texts₁ texts₂ : List String) :
    body (texts₁ ++ texts₂) = body texts₁ ++ body texts₂ := by
  rw [body, List.map_append, String.join_append]
  rfl

/-- The account of interfaces behind others. -/
theorem Report.ofInterfaces_append {n : Type → Type} (is₁ is₂ : List (Interface n)) :
    Report.ofInterfaces (is₁ ++ is₂) =
      ⟨(ofInterfaces is₁).interfaces ++ (ofInterfaces is₂).interfaces,
        (ofInterfaces is₁).members + (ofInterfaces is₂).members,
        (ofInterfaces is₁).methods + (ofInterfaces is₂).methods,
        (ofInterfaces is₁).overridden + (ofInterfaces is₂).overridden⟩ := by
  simp [ofInterfaces]

/-- **A model of two parts is generated part by part.**  The parts have the same
namespace and the same overrides.

1. A generation gives a result; the whole succeeds if and only if both parts do.
2. Then the declarations of the parts stand one after the other behind the
   header, each as its emission gives it and with an empty line before it, and
   the accounts are put together.
3. The error of the whole is that of the first part, or else of the second.
4. The emission of an interface that a model has never fails. -/
theorem Generator.generate_append (g : Generator) (w : σ) (scope : Option String)
    (overrides : List Override) (ds₁ ds₂ : List InterfaceDecl) (source t t₁ t₂ : String) :
    let first : Model := ⟨scope, ds₁, overrides⟩
    let second : Model := ⟨scope, ds₂, overrides⟩
    let whole : Model := ⟨scope, ds₁ ++ ds₂, overrides⟩
    (∃ result, g.Gives w whole source t result) ∧
    ((∃ generated, g.Gives w whole source t (.ok generated)) ↔
      (∃ generated, g.Gives w first source t₁ (.ok generated)) ∧
        ∃ generated, g.Gives w second source t₂ (.ok generated)) ∧
    (∀ generated generated₁ generated₂, g.Gives w whole source t (.ok generated) →
      g.Gives w first source t₁ (.ok generated₁) → g.Gives w second source t₂ (.ok generated₂) →
      (∃ body₁ body₂, g.Declares w first body₁ ∧ g.Declares w second body₂ ∧
        generated₁.content = header source t₁ ++ body₁ ∧
        generated₂.content = header source t₂ ++ body₂ ∧
        generated.content = header source t ++ body₁ ++ body₂) ∧
      generated.report =
        ⟨generated₁.report.interfaces ++ generated₂.report.interfaces,
          generated₁.report.members + generated₂.report.members,
          generated₁.report.methods + generated₂.report.methods,
          generated₁.report.overridden + generated₂.report.overridden⟩) ∧
    (∀ error, g.Gives w whole source t (.error error) ↔
      g.Gives w first source t₁ (.error error) ∨
        (∃ generated, g.Gives w first source t₁ (.ok generated)) ∧
          g.Gives w second source t₂ (.error error)) ∧
    (∀ (model : Model) (is : List (Interface (StateM σ))), model.toInterfaces = .ok is →
      ∀ r settings, ∀ i ∈ is, ∃ text, runIn (i.emit r settings) w = (.ok text, w)) := by
  intro first second whole
  have happend : (whole.toInterfaces : Except ModelError (List (Interface (StateM σ)))) =
      (do
        let is₁ ← first.toInterfaces
        let is₂ ← second.toInterfaces
        pure (is₁ ++ is₂)) := toInterfaces_append scope overrides ds₁ ds₂
  refine ⟨g.exists_gives w whole source t, ?_⟩
  rw [← and_assoc, ← and_assoc]
  refine ⟨?_, fun model is h r settings i hi => ?_⟩
  · cases h₁ : (first.toInterfaces : Except ModelError (List (Interface (StateM σ)))) with
    | error cause =>
        rw [h₁] at happend
        simp [gives_of_error g w happend, gives_of_error g w h₁]
    | ok is₁ =>
        obtain ⟨texts₁, htexts₁⟩ := exists_forall₂ (Model.answers_emit h₁ g.resolver g.layout)
        cases h₂ : (second.toInterfaces : Except ModelError (List (Interface (StateM σ)))) with
        | error cause =>
            rw [h₁, h₂] at happend
            simp [gives_of_error g w happend, gives_of_ok g w h₁ htexts₁, gives_of_error g w h₂]
        | ok is₂ =>
            obtain ⟨texts₂, htexts₂⟩ := exists_forall₂ (Model.answers_emit h₂ g.resolver g.layout)
            rw [h₁, h₂] at happend
            have htexts := List.rel_append htexts₁ htexts₂
            simp only [gives_of_ok g w happend htexts, gives_of_ok g w h₁ htexts₁,
              gives_of_ok g w h₂ htexts₂]
            refine ⟨⟨?_, ?_⟩, ?_⟩
            · exact ⟨fun _ => ⟨⟨_, rfl⟩, _, rfl⟩, fun _ => ⟨_, rfl⟩⟩
            · rintro _ _ _ ⟨rfl⟩ ⟨rfl⟩ ⟨rfl⟩
              refine ⟨⟨body texts₁, body texts₂, declares_of_ok g w h₁ htexts₁,
                declares_of_ok g w h₂ htexts₂, rfl, rfl, ?_⟩, Report.ofInterfaces_append _ _⟩
              rw [body_append, String.append_assoc]
            · simp
  · obtain ⟨text, htext⟩ := Model.answers_emit h r settings i hi
    exact ⟨text, by rw [htext, runIn_pure]⟩

end DeclGen
