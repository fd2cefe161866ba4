import Mathlib.Data.List.Forall2
import DeclGen.Model.Interfaces
import DeclGen.Proofs.Failure
import DeclGen.Proofs.Text.Parts

/-!
# DeclGen.Proofs.Model.Translation

What becomes of a model.

* `InterfaceDecl.Describes`: an interface is the one that a declaration
  describes, element by element; nothing is said of what is in the slots.
* `Model.elementDecls` lists the elements of a model with their paths, in the
  order in which their types are read.
* `Model.FirstFault`: the first of all faults of a model, override by override
  and then element by element.  A model without a fault has interfaces, and
  every other one ends with its first fault.
-/

namespace DeclGen

variable {m : Type → Type}

/-! ## what is described -/

/-- A typed name describes an element that has the name and the parsed type. -/
structure MemberDecl.Describes (d : MemberDecl) (e : Element m) : Prop where
  name : e.field.name = d.name
  type : Native.parse d.type = .ok e.field.type

/-- A declaration describes a method that has its name, its parameters in their
order and the parsed type that it returns. -/
structure MethodDecl.Describes (d : MethodDecl) (method : Method m) : Prop where
  name : method.element.field.name = d.name
  parameters : List.Forall₂ MemberDecl.Describes d.params method.parameters
  returns : Native.parse d.returns = .ok method.element.field.type

/-- The segments of a namespace: what stands between dots and colons, where
there is something. -/
def splitScope (scope : String) : List String :=
  ((scope.toList.splitOnP fun c => c == '.' || c == ':').filter (· ≠ [])).map String.ofList

/-- A declaration describes an interface that has its name, its members and its
methods in their order, and its own namespace if it gives one, even an empty
one, or else that of the model. -/
structure InterfaceDecl.Describes (scope : Option String) (d : InterfaceDecl)
    (i : Interface m) : Prop where
  scope : i.scope = match d.scope, scope with
    | some own, _ => splitScope own
    | none, some default => splitScope default
    | none, none => []
  name : i.name = d.name
  members : List.Forall₂ MemberDecl.Describes d.members i.members
  methods : List.Forall₂ MethodDecl.Describes d.methods i.methods

/-! ## what can be at fault -/

/-- An element of a model: its name, its path and the text of its type. -/
structure ElementDecl where
  name : String
  path : String
  type : String

/-- A member or a parameter below a path. -/
def MemberDecl.elementDecl (path : String) (d : MemberDecl) : ElementDecl :=
  ⟨d.name, path ++ "." ++ d.name, d.type⟩

/-- The parameters of a method and then the method itself, below a path. -/
def MethodDecl.elementDecls (path : String) (d : MethodDecl) : List ElementDecl :=
  d.params.map (MemberDecl.elementDecl (path ++ "." ++ d.name)) ++
    [⟨d.name, path ++ "." ++ d.name, d.returns⟩]

/-- The members of an interface and then the elements of its methods. -/
def InterfaceDecl.elementDecls (d : InterfaceDecl) : List ElementDecl :=
  d.members.map (MemberDecl.elementDecl d.name) ++
    d.methods.flatMap (MethodDecl.elementDecls d.name)

/-- The elements of a model in the order in which their types are read. -/
def Model.elementDecls (model : Model) : List ElementDecl :=
  model.interfaces.flatMap InterfaceDecl.elementDecls

/-- The text of an element's type is a type. -/
def ElementDecl.Parses (d : ElementDecl) : Prop := ∃ type, Native.parse d.type = .ok type

/-- The target of an override, which has to match a whole path, is a pattern. -/
def Override.Compiles (o : Override) : Prop :=
  ∃ pattern, Pattern.compile? ("^(?:" ++ o.target ++ ")$") = some pattern

/-- The first fault of a model: that of the first override that is none, or, if
there is no such override, of the first element whose type is none. -/
inductive Model.FirstFault (model : Model) : ModelError → Prop
  | target {before after : List Override} {o : Override}
      (split : model.overrides = before ++ o :: after) (compile : ∀ p ∈ before, p.Compiles)
      (fault : ¬ o.Compiles) : FirstFault model (.target o.target)
  | type {before after : List ElementDecl} {d : ElementDecl} {cause : Native.ParseError}
      (compile : ∀ o ∈ model.overrides, o.Compiles)
      (split : model.elementDecls = before ++ d :: after) (parse : ∀ c ∈ before, c.Parses)
      (fault : Native.parse d.type = .error cause) : FirstFault model (.type d.type d.path cause)

/-! ## values -/

variable [Monad m]

/-- An element keeps its name and its native type under overrides. -/
@[simp] theorem Element.field_override (rules : List OverrideRule) (path : String)
    (e : Element m) : (e.override rules path).field = e.field := by
  unfold Element.override
  induction rules.filter (·.appliesTo path) generalizing e with
  | nil => rfl
  | cons rule rules ih => rw [List.foldl_cons, ih]; rfl

/-- An element is made of its parsed type. -/
theorem typedElement_eq_ok {rules : List OverrideRule} {name source path : String}
    {e : Element m} : typedElement rules name source path = .ok e ↔
      ∃ type, Native.parse source = .ok type ∧ e = (Element.new name type).override rules path := by
  unfold typedElement parseType
  cases Native.parse source with
  | ok type => simp [Except.mapError, pure, Except.pure, eq_comm]
  | error cause => simp [Except.mapError, bind, Except.bind]

/-- An element that is made has the name and the parsed type. -/
theorem describes_of_typedElement {rules : List OverrideRule} {name source path : String}
    {e : Element m} (h : typedElement rules name source path = .ok e) :
    e.field.name = name ∧ Native.parse source = .ok e.field.type := by
  obtain ⟨type, htype, rfl⟩ := typedElement_eq_ok.mp h
  rw [Element.field_override]
  exact ⟨rfl, htype⟩

/-- A method is made of its parameters and its own element. -/
theorem method_eq_ok {rules : List OverrideRule} {path : String} {d : MethodDecl}
    {method : Method m} : d.method rules path = .ok method ↔
      List.Forall₂ (fun p e => MemberDecl.element rules (path ++ "." ++ d.name) p = .ok e)
        d.params method.parameters ∧
      typedElement rules d.name d.returns (path ++ "." ++ d.name) = .ok method.element := by
  rw [MethodDecl.method, Native.bind_eq_ok, ← mapM_eq_ok]
  constructor
  · rintro ⟨parameters, hparameters, h⟩
    obtain ⟨element, helement, hpure⟩ := Native.bind_eq_ok.mp h
    obtain rfl := Except.ok.inj hpure
    exact ⟨hparameters, helement⟩
  · rintro ⟨hparameters, helement⟩
    exact ⟨_, hparameters, Native.bind_eq_ok.mpr ⟨_, helement, rfl⟩⟩

/-- An interface is made of its members and its methods. -/
theorem interface_eq_ok {rules : List OverrideRule} {scope : Option String} {d : InterfaceDecl}
    {i : Interface m} : d.interface rules scope = .ok i ↔
      (i.scope = d.segments scope ∧ i.name = d.name) ∧
      List.Forall₂ (fun p e => MemberDecl.element rules d.name p = .ok e) d.members i.members ∧
      List.Forall₂ (fun f method => MethodDecl.method rules d.name f = .ok method)
        d.methods i.methods := by
  rw [InterfaceDecl.interface, Native.bind_eq_ok, ← mapM_eq_ok, ← mapM_eq_ok]
  constructor
  · rintro ⟨members, hmembers, h⟩
    obtain ⟨methods, hmethods, hpure⟩ := Native.bind_eq_ok.mp h
    obtain rfl := Except.ok.inj hpure
    exact ⟨⟨rfl, rfl⟩, hmembers, hmethods⟩
  · obtain ⟨scope', name, members, methods⟩ := i
    rintro ⟨⟨rfl, rfl⟩, hmembers, hmethods⟩
    exact ⟨members, hmembers, Native.bind_eq_ok.mpr ⟨methods, hmethods, rfl⟩⟩

/-- The interfaces of a model are made under its compiled overrides. -/
theorem toInterfaces_eq_ok {model : Model} {is : List (Interface m)} :
    model.toInterfaces = .ok is ↔ ∃ rules,
      List.Forall₂ (fun o rule => OverrideRule.ofOverride o = .ok rule) model.overrides rules ∧
      List.Forall₂ (fun d i => InterfaceDecl.interface rules model.scope d = .ok i)
        model.interfaces is := by
  simp only [Model.toInterfaces, Native.bind_eq_ok, mapM_eq_ok]

/-! ## descriptions -/

/-- The segments of an interface are those of its own namespace, if it gives
one, or else of the model's. -/
theorem segments_eq_splitScope (scope : Option String) (d : InterfaceDecl) :
    d.segments scope = match d.scope, scope with
      | some own, _ => splitScope own
      | none, some default => splitScope default
      | none, none => [] := by
  have hsplit : scopeSegments = splitScope :=
    funext fun text => by rw [scopeSegments, Text.segments_eq_filter_splitOnP, splitScope]
  rw [InterfaceDecl.segments, hsplit]
  cases d.scope <;> cases scope <;> rfl

/-- A method that is made is described. -/
theorem describes_of_method {rules : List OverrideRule} {path : String} {d : MethodDecl}
    {method : Method m} (h : d.method rules path = .ok method) : d.Describes method := by
  obtain ⟨hparameters, helement⟩ := method_eq_ok.mp h
  obtain ⟨hname, hreturns⟩ := describes_of_typedElement helement
  refine ⟨hname, hparameters.imp fun p e hp => ?_, hreturns⟩
  exact ⟨(describes_of_typedElement hp).1, (describes_of_typedElement hp).2⟩

/-- An interface that is made is described. -/
theorem describes_of_interface {rules : List OverrideRule} {scope : Option String}
    {d : InterfaceDecl} {i : Interface m} (h : d.interface rules scope = .ok i) :
    d.Describes scope i := by
  obtain ⟨⟨hscope, hname⟩, hmembers, hmethods⟩ := interface_eq_ok.mp h
  refine ⟨hscope.trans (segments_eq_splitScope scope d), hname, hmembers.imp fun p e hp => ?_,
    hmethods.imp fun _ _ => describes_of_method⟩
  exact ⟨(describes_of_typedElement hp).1, (describes_of_typedElement hp).2⟩

/-! ## faults -/

/-- The fault of an override. -/
def Override.fault? (o : Override) : Option ModelError := failure? (OverrideRule.ofOverride o)

/-- The fault of an element. -/
def ElementDecl.fault? (d : ElementDecl) : Option ModelError := failure? (parseType d.type d.path)

theorem Override.fault?_eq_none {o : Override} : o.fault? = none ↔ o.Compiles := by
  unfold Override.fault? OverrideRule.ofOverride Override.Compiles
  split
  · next pattern h => simp [failure?, h]
  · next h => simp [failure?, h]

theorem Override.fault?_eq_some {o : Override} {error : ModelError} :
    o.fault? = some error ↔ ¬ o.Compiles ∧ error = .target o.target := by
  unfold Override.fault? OverrideRule.ofOverride Override.Compiles
  split
  · next pattern h => simp [failure?, h]
  · next h => simp [failure?, h, eq_comm]

theorem ElementDecl.fault?_eq_none {d : ElementDecl} : d.fault? = none ↔ d.Parses := by
  unfold ElementDecl.fault? parseType ElementDecl.Parses
  cases Native.parse d.type <;> simp [failure?, Except.mapError]

theorem ElementDecl.fault?_eq_some {d : ElementDecl} {error : ModelError} :
    d.fault? = some error ↔
      ∃ cause, Native.parse d.type = .error cause ∧ error = .type d.type d.path cause := by
  unfold ElementDecl.fault? parseType
  cases Native.parse d.type <;> simp [failure?, Except.mapError, eq_comm]

/-- An element fails with its own fault, whatever the overrides are. -/
theorem failure?_typedElement (rules : List OverrideRule) (d : ElementDecl) :
    failure? (typedElement (m := m) rules d.name d.type d.path) = d.fault? :=
  failure?_map _ _

/-- A method fails with the first fault of its parameters, or else with its own. -/
theorem failure?_method (rules : List OverrideRule) (path : String) (d : MethodDecl) :
    failure? (MethodDecl.method (m := m) rules path d) =
      (d.elementDecls path).findSome? ElementDecl.fault? := by
  have hparameters : failure? (d.params.mapM (MemberDecl.element (m := m) rules
      (below path d.name))) = (d.params.flatMap fun p =>
        [p.elementDecl (path ++ "." ++ d.name)]).findSome? ElementDecl.fault? :=
    failure?_mapM (fun p => by
      rw [List.findSome?_singleton]
      exact failure?_typedElement rules (p.elementDecl (path ++ "." ++ d.name))) _
  have hreturns : ∀ parameters : List (Element m),
      failure? (typedElement rules d.name d.returns (below path d.name) >>= fun element =>
        pure (⟨element, parameters⟩ : Method m)) =
        ElementDecl.fault? ⟨d.name, path ++ "." ++ d.name, d.returns⟩ := fun parameters =>
    (failure?_map _ _).trans (failure?_typedElement rules ⟨_, path ++ "." ++ d.name, _⟩)
  rw [MethodDecl.method, failure?_bind hreturns, hparameters, MethodDecl.elementDecls,
    List.findSome?_append, List.map_eq_flatMap, List.findSome?_singleton]

/-- An interface fails with the first fault of its elements. -/
theorem failure?_interface (rules : List OverrideRule) (scope : Option String)
    (d : InterfaceDecl) : failure? (InterfaceDecl.interface (m := m) rules scope d) =
      d.elementDecls.findSome? ElementDecl.fault? := by
  have hmembers : failure? (d.members.mapM (MemberDecl.element (m := m) rules d.name)) =
      (d.members.flatMap fun p => [p.elementDecl d.name]).findSome? ElementDecl.fault? :=
    failure?_mapM (fun p => by
      rw [List.findSome?_singleton]
      exact failure?_typedElement rules (p.elementDecl d.name)) _
  have hmethods : ∀ members : List (Element m),
      failure? (d.methods.mapM (MethodDecl.method rules d.name) >>= fun methods =>
        pure (⟨d.segments scope, d.name, members, methods⟩ : Interface m)) =
        (d.methods.flatMap (MethodDecl.elementDecls d.name)).findSome? ElementDecl.fault? :=
    fun members => (failure?_map _ _).trans (failure?_mapM (failure?_method rules d.name) _)
  rw [InterfaceDecl.interface, failure?_bind hmethods, hmembers, InterfaceDecl.elementDecls,
    List.findSome?_append, List.map_eq_flatMap]

/-- A model fails with the first fault of its overrides, or else with that of its
elements. -/
theorem failure?_toInterfaces (model : Model) :
    failure? (model.toInterfaces : Except ModelError (List (Interface m))) =
      (model.overrides.findSome? Override.fault?).or
        (model.elementDecls.findSome? ElementDecl.fault?) := by
  have hoverrides : failure? (model.overrides.mapM OverrideRule.ofOverride) =
      (model.overrides.flatMap fun o => [o]).findSome? Override.fault? :=
    failure?_mapM (fun o => by rw [List.findSome?_singleton, Override.fault?]) _
  have hinterfaces := fun rules =>
    failure?_mapM (failure?_interface (m := m) rules model.scope) model.interfaces
  rw [Model.toInterfaces, failure?_bind hinterfaces, hoverrides, List.flatMap_singleton']
  rfl

/-- A model without a fault. -/
theorem findSome?_fault_eq_none {model : Model} :
    (model.overrides.findSome? Override.fault?).or
        (model.elementDecls.findSome? ElementDecl.fault?) = none ↔
      (∀ o ∈ model.overrides, o.Compiles) ∧ ∀ d ∈ model.elementDecls, d.Parses := by
  simp only [Option.or_eq_none_iff, List.findSome?_eq_none_iff, Override.fault?_eq_none,
    ElementDecl.fault?_eq_none]

/-- The first fault of a model. -/
theorem findSome?_fault_eq_some {model : Model} {error : ModelError} :
    (model.overrides.findSome? Override.fault?).or
        (model.elementDecls.findSome? ElementDecl.fault?) = some error ↔
      model.FirstFault error := by
  simp only [Option.or_eq_some_iff, List.findSome?_eq_some_iff, List.findSome?_eq_none_iff,
    Override.fault?_eq_none, ElementDecl.fault?_eq_none, Override.fault?_eq_some,
    ElementDecl.fault?_eq_some]
  constructor
  · rintro (⟨before, o, after, hsplit, ⟨hfault, rfl⟩, hbefore⟩ |
      ⟨hcompile, before, d, after, hsplit, ⟨cause, hfault, rfl⟩, hbefore⟩)
    · exact .target hsplit hbefore hfault
    · exact .type hcompile hsplit hbefore hfault
  · rintro (⟨hsplit, hbefore, hfault⟩ | ⟨hcompile, hsplit, hbefore, hfault⟩)
    · exact .inl ⟨_, _, _, hsplit, ⟨hfault, rfl⟩, hbefore⟩
    · exact .inr ⟨hcompile, _, _, _, hsplit, ⟨_, hfault, rfl⟩, hbefore⟩

/-! ## the translation -/

/-- **A model is translated faithfully, or its first fault is reported.**

1. It has interfaces if and only if all its overrides compile and all its types
   parse.
2. Its interfaces are then those that it describes, in their order.
3. It fails with an error if and only if this is its first fault.
4. The error of an element says which text is no type, and where it stands. -/
theorem Model.toInterfaces_faithful (model : Model) :
    ((∃ is : List (Interface m), model.toInterfaces = .ok is) ↔
      (∀ o ∈ model.overrides, o.Compiles) ∧ ∀ d ∈ model.elementDecls, d.Parses) ∧
    (∀ is : List (Interface m), model.toInterfaces = .ok is →
      List.Forall₂ (InterfaceDecl.Describes model.scope) model.interfaces is) ∧
    (∀ error, (model.toInterfaces : Except ModelError (List (Interface m))) = .error error ↔
      model.FirstFault error) ∧
    (∀ (d : ElementDecl) (cause : Native.ParseError),
      (ModelError.type d.type d.path cause).messages =
        ["Invalid type `" ++ d.type ++ "` for " ++ d.path, cause.message]) := by
  have hfailure := failure?_toInterfaces (m := m) model
  refine ⟨?_, ?_, ?_, fun d cause => rfl⟩
  · rw [← failure?_eq_none, hfailure, findSome?_fault_eq_none]
  · intro is h
    obtain ⟨rules, -, hinterfaces⟩ := toInterfaces_eq_ok.mp h
    exact hinterfaces.imp fun _ _ => describes_of_interface
  · intro error
    rw [← failure?_eq_some, hfailure, findSome?_fault_eq_some]

end DeclGen
