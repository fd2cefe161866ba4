import DeclGen.Slot

/-!
# DeclGen.Interface

Interfaces and their typed elements: members, methods and parameters.
-/

namespace DeclGen

/-- A name with a native type. -/
structure Field where
  name : String
  type : Native
  deriving DecidableEq

/-- A typed element of an interface, whose type may be overridden: a member, a
parameter, or a method, whose type is the one it returns. -/
structure Element (m : Type → Type) where
  field : Field
  slot : Slot m Field

/-- A method: its own element and its parameters.  An inferer of the element
may depend on the parameters, since those are fixed where it is put in. -/
structure Method (m : Type → Type) where
  element : Element m
  parameters : List (Element m)

/-- An interface with the namespace it is declared in, segment by segment. -/
structure Interface (m : Type → Type) where
  scope : List String
  name : String
  members : List (Element m)
  methods : List (Method m)

namespace Element

variable {m : Type → Type}

/-- An element whose type is not overridden. -/
def new (name : String) (type : Native) : Element m := ⟨⟨name, type⟩, .empty⟩

/-! ## changes -/

/-- The element under another name. -/
def rename (e : Element m) (name : String) : Element m :=
  { e with field := { e.field with name := name } }

/-- The element with another native type. -/
def retype (e : Element m) (type : Native) : Element m :=
  { e with field := { e.field with type := type } }

/-- The element with an inferer in its slot. -/
def withInferer (e : Element m) (inferer : Inferer m Field) : Element m :=
  { e with slot := e.slot.set inferer }

/-- The element with its type's name computed from it and the resolver. -/
def inferNameWith (e : Element m) (run : Field → Resolver → ExceptT InferError m String) :
    Element m := e.withInferer (.nameWithResolver run)

/-- The element with its type computed from it and the resolver. -/
def inferTypeWith (e : Element m) (run : Field → Resolver → ExceptT InferError m TypeName) :
    Element m := e.withInferer (.typeWithResolver run)

/-- The element with its type's name computed from it. -/
def inferName (e : Element m) (run : Field → ExceptT InferError m String) : Element m :=
  e.withInferer (.name run)

/-- The element with its type computed from it. -/
def inferType (e : Element m) (run : Field → ExceptT InferError m TypeName) : Element m :=
  e.withInferer (.type run)

/-! ## types -/

/-- The type that the element's inferer computes, if it has one. -/
def infer [Monad m] (e : Element m) (r : Resolver) : ExceptT InferError m (Option TypeName) :=
  e.slot.infer e.field r

/-- The TypeScript type of the element. -/
def resolve [Monad m] (e : Element m) (r : Resolver) : ExceptT InferError m TypeName :=
  e.slot.resolve e.field e.field.type r

end Element

namespace Interface

variable {m : Type → Type}

/-- The name of an interface with its namespace. -/
def qualifiedName (i : Interface m) : String :=
  if i.scope.isEmpty then i.name else ".".intercalate i.scope ++ "." ++ i.name

/-- The typed elements in the order in which they are resolved: the members,
then for each method its parameters and the method itself. -/
def elements (i : Interface m) : List (Element m) :=
  i.members ++ i.methods.flatMap fun method => method.parameters ++ [method.element]

end Interface

end DeclGen
