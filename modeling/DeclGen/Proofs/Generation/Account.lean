import DeclGen.Proofs.Emission.Calls
import DeclGen.Proofs.Generation.Append
import DeclGen.Proofs.Model.Namespaces

/-!
# DeclGen.Proofs.Generation.Account

What the account of a generation counts.

1. Names and numbers are those of the model: its interfaces correspond to the
   interfaces that are emitted one by one, and so do their elements
   (`Report.ofInterfaces_eq`).
2. An element has an inferer if and only if an override matches its path,
   however many of them do (`Element.Decided.isEmpty_eq`).
3. An emission runs every inferer once.  Hence the inferers that run while
   interfaces are declared are as many as the elements that have one
   (`Generator.declareAll_noting`).
-/

namespace DeclGen

variable {σ : Type} {m : Type → Type}

/-! ## the account of a model -/

instance (o : Override) (path : String) : Decidable (o.Matches path) :=
  decidable_of_iff
    ((Pattern.compile? ("^(?:" ++ o.target ++ ")$")).any (·.isMatch path) = true)
    (by rw [Option.any_eq_true]; rfl)

/-- The segments of an interface's own namespace, if it gives one, or else of the
model's, and then its name, with dots between them. -/
def InterfaceDecl.fullName (default : Option String) (d : InterfaceDecl) : String :=
  ".".intercalate (((d.scope.or default).map splitScope).getD [] ++ [d.name])

/-- The account of a model: its interfaces, its members, its methods, and the
elements with paths that overrides match. -/
def Model.account (model : Model) : Report where
  interfaces := model.interfaces.map (InterfaceDecl.fullName model.scope)
  members := (model.interfaces.flatMap InterfaceDecl.members).length
  methods := (model.interfaces.flatMap InterfaceDecl.methods).length
  overridden := model.elementDecls.countP fun d => ∃ o ∈ model.overrides, o.Matches d.path

/-! ## lists of the same shape -/

section Shape

variable {α β γ : Type} {R : α → β → Prop}

/-- What related values have in common is the same list on both sides. -/
theorem map_eq_map_of_forall₂ {f : α → γ} {g : β → γ} (hR : ∀ a b, R a b → f a = g b)
    {as : List α} {bs : List β} (h : List.Forall₂ R as bs) : as.map f = bs.map g := by
  induction h with
  | nil => rfl
  | cons head _ ih => rw [List.map_cons, List.map_cons, hR _ _ head, ih]

/-- What is counted on both sides is the same number. -/
theorem countP_eq_countP_of_forall₂ {p : α → Bool} {q : β → Bool}
    (hR : ∀ a b, R a b → p a = q b) {as : List α} {bs : List β} (h : List.Forall₂ R as bs) :
    as.countP p = bs.countP q := by
  induction h with
  | nil => rfl
  | cons head _ ih => rw [List.countP_cons, List.countP_cons, hR _ _ head, ih]

end Shape

/-! ## interfaces of a model -/

theorem InterfaceDecl.Describes.qualifiedName_eq {scope : Option String} {d : InterfaceDecl}
    {i : Interface m} (h : d.Describes scope i) : i.qualifiedName = d.fullName scope := by
  rw [i.qualifiedName_eq, h.scope, h.name, fullName]
  cases d.scope <;> cases scope <;> rfl

variable [Monad m]

/-- The slot of an element is empty unless an override matches its path. -/
theorem Element.Decided.isEmpty_eq {overrides : List Override} {path : String} {e : Element m}
    (h : e.Decided overrides path) :
    (!e.slot.isEmpty) = decide (∃ o ∈ overrides, o.Matches path) := by
  cases h with
  | none unmatched empty =>
      have hnone : ¬ ∃ o ∈ overrides, o.Matches path := fun ⟨o, ho, hmatch⟩ =>
        unmatched o ho hmatch
      rw [empty, decide_eq_false hnone]
      rfl
  | @last before after o _ split matched _ _ kind =>
      have hsome : ∃ o ∈ overrides, o.Matches path :=
        ⟨o, split ▸ List.mem_append_right _ (List.mem_cons_self ..), matched⟩
      have hslot : e.slot.isEmpty = false := by
        unfold Slot.activeKind? at kind
        unfold Slot.isEmpty
        cases hactive : e.slot.active with
        | none => rw [hactive] at kind; contradiction
        | some inferer => rfl
      rw [hslot, decide_eq_true hsome]
      rfl

/-- The account of a model's interfaces is that of the model. -/
theorem Report.ofInterfaces_eq [LawfulMonad m] {model : Model} {is : List (Interface m)}
    (h : model.toInterfaces = .ok is) : ofInterfaces is = model.account := by
  obtain ⟨rules, -, hinterfaces⟩ := toInterfaces_eq_ok.mp h
  have hdescribes : List.Forall₂ (InterfaceDecl.Describes model.scope) model.interfaces is :=
    hinterfaces.imp fun _ _ => describes_of_interface
  have hnames : model.interfaces.map (InterfaceDecl.fullName model.scope) =
      is.map Interface.qualifiedName :=
    map_eq_map_of_forall₂ (fun _ _ hi => hi.qualifiedName_eq.symm) hdescribes
  have hmembers : (model.interfaces.flatMap InterfaceDecl.members).length =
      (is.flatMap Interface.members).length := by
    rw [List.length_flatMap, List.length_flatMap,
      map_eq_map_of_forall₂ (fun _ _ hi => hi.members.length_eq) hdescribes]
  have hmethods : (model.interfaces.flatMap InterfaceDecl.methods).length =
      (is.flatMap Interface.methods).length := by
    rw [List.length_flatMap, List.length_flatMap,
      map_eq_map_of_forall₂ (fun _ _ hi => hi.methods.length_eq) hdescribes]
  have helements : (model.elementDecls.countP fun d => ∃ o ∈ model.overrides, o.Matches d.path) =
      (is.flatMap Interface.elements).countP fun e => !e.slot.isEmpty :=
    countP_eq_countP_of_forall₂ (fun _ _ he => he.isEmpty_eq.symm) (Model.decided_elements h)
  rw [ofInterfaces, Model.account, hnames, hmembers, hmethods, helements]

/-! ## runs -/

theorem Element.length_notingAll (k : Nat) (es : List (Element (StateM σ))) :
    (notingAll k es).length = es.length := by
  induction es generalizing k with
  | nil => rfl
  | cons e es ih => rw [notingAll, List.length_cons, List.length_cons, ih]

theorem Method.length_notingAll (k : Nat) (methods : List (Method (StateM σ))) :
    (notingAll k methods).length = methods.length := by
  induction methods generalizing k with
  | nil => rfl
  | cons method methods ih => rw [notingAll, List.length_cons, List.length_cons, ih]

theorem Element.countP_notingAll (k : Nat) (es : List (Element (StateM σ))) :
    ((notingAll k es).countP fun e => !e.slot.isEmpty) = es.countP fun e => !e.slot.isEmpty := by
  induction es generalizing k with
  | nil => rfl
  | cons e es ih =>
      have hslot : (e.noting k).slot.isEmpty = e.slot.isEmpty := by
        simp [noting, Slot.isEmpty]
      rw [notingAll, List.countP_cons, List.countP_cons, ih, hslot]

/-- The account does not depend on whether the runs of inferers are noted. -/
theorem Report.ofInterfaces_noting (is : List (Interface (StateM σ))) :
    ofInterfaces (is.map Interface.noting) = ofInterfaces is := by
  have helements : ∀ i : Interface (StateM σ),
      (i.noting.elements.countP fun e => !e.slot.isEmpty) =
        i.elements.countP fun e => !e.slot.isEmpty := fun i => by
    rw [i.elements_noting, Element.countP_notingAll]
  have hmembers : ∀ i : Interface (StateM σ), i.noting.members.length = i.members.length :=
    fun i => Element.length_notingAll 0 i.members
  have hmethods : ∀ i : Interface (StateM σ), i.noting.methods.length = i.methods.length :=
    fun i => Method.length_notingAll i.members.length i.methods
  simp only [ofInterfaces, List.map_map, List.flatMap_map, List.length_flatMap,
    List.countP_flatMap, Function.comp_def, helements, hmembers, hmethods]
  rfl

/-- The elements that run inferers are those with inferers. -/
theorem length_calls (k : Nat) (es : List (Element (StateM σ))) :
    (calls k es).length = es.countP fun e => !e.slot.isEmpty := by
  induction es generalizing k with
  | nil => rfl
  | cons e es ih =>
      rw [calls, List.length_append, ih, List.countP_cons, Nat.add_comm]
      cases e.slot.isEmpty <;> rfl

/-- The runs of the inferers while interfaces are emitted one after the other. -/
def Interface.runs (is : List (Interface (StateM σ))) : List Nat :=
  is.flatMap fun i => calls 0 i.elements

theorem Interface.length_runs (is : List (Interface (StateM σ))) :
    (runs is).length = (is.flatMap Interface.elements).countP fun e => !e.slot.isEmpty := by
  rw [runs, List.length_flatMap, List.countP_flatMap]
  exact congrArg List.sum (List.map_congr_left fun i _ => length_calls 0 i.elements)

namespace Generator

/-- An interface that notes its runs has the same declaration. -/
theorem declare_noting (g : Generator) {i : Interface (StateM σ)} {w w' : σ} {text : String}
    (h : runIn (g.declare i) w = (.ok text, w')) (log : List Nat) :
    runIn (g.declare i.noting) (w, log) = (.ok text, (w', log ++ calls 0 i.elements)) :=
  runIn_adapt_eq_ok.mpr (Interface.runIn_emit_noting_of_ok (runIn_adapt_eq_ok.mp h) log)

/-- Interfaces that note their runs have the same declarations, one after the
other. -/
theorem inTurn_declare_noting (g : Generator) {is : List (Interface (StateM σ))} {w w' : σ}
    {texts : List String} (h : InTurn (fun i => runIn (g.declare i)) is w texts w')
    (log : List Nat) :
    InTurn (fun i => runIn (g.declare i)) (is.map Interface.noting) (w, log) texts
      (w', log ++ Interface.runs is) := by
  induction h generalizing log with
  | nil => rw [Interface.runs, List.flatMap_nil, List.append_nil]; exact .nil
  | cons head _ ih =>
      rw [Interface.runs, List.flatMap_cons, ← List.append_assoc]
      exact .cons (g.declare_noting head log) (ih _)

/-- Interfaces that note their runs are declared as they are, with the same
account, and leave the list of all runs. -/
theorem declareAll_noting (g : Generator) {is : List (Interface (StateM σ))} {source time : String}
    {w w' : σ} {generated : Generated}
    (h : runIn (g.declareAll is source time) w = (.ok generated, w')) (log : List Nat) :
    runIn (g.declareAll (is.map Interface.noting) source time) (w, log) =
      (.ok generated, (w', log ++ Interface.runs is)) := by
  obtain ⟨texts, w₁, htexts, hpure⟩ := runIn_bind_eq_ok.mp h
  obtain ⟨⟨⟩, ⟨⟩⟩ := Prod.mk.inj hpure
  have hnoting := runIn_mapM_eq_ok.mpr
    (g.inTurn_declare_noting (runIn_mapM_eq_ok.mp htexts) log)
  rw [declareAll, runIn_bind_of_ok hnoting, Report.ofInterfaces_noting]
  rfl

end Generator

/-! ## the account of a generation -/

/-- **The account of a generation is exact.**

1. It is that of the model: the full names of its interfaces in their order, the
   numbers of its members and of its methods, and the number of the elements with
   paths that at least one override matches, each of them counted once.
2. The latter is also the number of inferers that run while the declarations are
   made: an emission of the model's interfaces that notes every run gives the same
   declarations and notes as many runs. -/
theorem Generator.generate_account (g : Generator) (model : Model) (source time : String)
    {w w' : σ} {generated : Generated}
    (h : runIn (g.generate model source time) w = (.ok generated, w')) :
    generated.report = model.account ∧
    ∃ is runs, model.toInterfaces = .ok is ∧
      (∀ log, runIn (g.declareAll (is.map Interface.noting) source time) (w, log) =
        (.ok generated, (w', log ++ runs))) ∧
      runs.length = generated.report.overridden := by
  cases his : (model.toInterfaces : Except ModelError (List (Interface (StateM σ)))) with
  | error cause =>
      rw [generate_of_error g his] at h
      exact absurd (Prod.mk.inj h).1 (by simp)
  | ok is =>
      have hdeclare : runIn (g.declareAll is source time) w = (.ok generated, w') := by
        rwa [generate, his] at h
      have hreport : generated.report = .ofInterfaces is := by
        obtain ⟨texts, w₁, -, hpure⟩ := runIn_bind_eq_ok.mp hdeclare
        obtain ⟨⟨⟩, -⟩ := Prod.mk.inj hpure
        rfl
      refine ⟨hreport.trans (Report.ofInterfaces_eq his), is, Interface.runs is, rfl,
        g.declareAll_noting hdeclare, ?_⟩
      rw [Interface.length_runs, hreport, Report.ofInterfaces]

/-- The member is counted once, although two overrides match it. -/
theorem Generator.generate_account_orders :
    ∃ generated, runIn (generate ⟨.default, .default⟩ Model.orders "orders.yaml" "today") () =
        (.ok generated, ()) ∧
      generated.report = Model.orders.account ∧ Model.orders.account = ⟨["Order"], 1, 1, 3⟩ ∧
      ∃ is runs, Model.orders.toInterfaces = .ok is ∧
        (∀ log, runIn (declareAll ⟨.default, .default⟩ (is.map Interface.noting) "orders.yaml"
          "today") ((), log) = (.ok generated, ((), log ++ runs))) ∧
        runs.length = 3 := by
  have hsome : (runIn (generate (m := StateM Unit) ⟨.default, .default⟩ Model.orders
      "orders.yaml" "today") ()).1.toOption.map Generated.report =
        some ⟨["Order"], 1, 1, 3⟩ := by decide +kernel
  rcases hrun : runIn (generate (m := StateM Unit) ⟨.default, .default⟩ Model.orders
    "orders.yaml" "today") () with ⟨error | generated, ⟨⟩⟩
  · rw [hrun] at hsome
    contradiction
  · rw [hrun] at hsome
    have hreport : generated.report = ⟨["Order"], 1, 1, 3⟩ := Option.some.inj hsome
    obtain ⟨haccount, is, runs, his, hruns, hlength⟩ := generate_account _ _ _ _ hrun
    rw [hreport] at hlength
    exact ⟨generated, rfl, haccount, haccount.symm.trans hreport, is, runs, his, hruns, hlength⟩

end DeclGen
