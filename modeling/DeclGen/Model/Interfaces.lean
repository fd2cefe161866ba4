import DeclGen.Interface
import DeclGen.Model.Basic
import DeclGen.Native.Parser
import DeclGen.Pattern

/-!
# DeclGen.Model.Interfaces

From a model to its interfaces.

1. All overrides are compiled first; their patterns match whole paths.
2. The types are read interface by interface: of the members, then for each
   method of its parameters and of what it returns.  The first error counts.
3. Each override whose pattern matches an element's path goes into the element's
   slot, where the last one stays.
-/

namespace DeclGen

/-- Why a model has no interfaces. -/
inductive ModelError where
  /-- The target of an override is no pattern. -/
  | target (target : String)
  /-- The type of the element with a path is no type. -/
  | type (source path : String) (cause : Native.ParseError)
  deriving DecidableEq

/-- The wordings of an error, from the outermost cause to the innermost. -/
def ModelError.messages : ModelError → List String
  | .target t => ["Invalid override target `" ++ t ++ "`", "not a pattern"]
  | .type source path cause => ["Invalid type `" ++ source ++ "` for " ++ path, cause.message]

/-! ## overrides -/

/-- A compiled override. -/
structure OverrideRule where
  pattern : Pattern
  template : String

namespace OverrideRule

/-- The compiled form of an override. -/
def ofOverride (o : Override) : Except ModelError OverrideRule :=
  match Pattern.compile? ("^(?:" ++ o.target ++ ")$") with
  | some pattern => .ok ⟨pattern, o.type⟩
  | none => .error (.target o.target)

/-- What stands for the name of an element in a template. -/
def placeholder : List Char := ['\x7b', 'n', 'a', 'm', 'e', '\x7d']

/-- The type that an override gives to an element of some name. -/
def typeFor (rule : OverrideRule) (name : String) : String :=
  String.ofList (Text.replaceAll placeholder name.toList rule.template.toList)

/-- Whether an override is for the element with a path. -/
def appliesTo (rule : OverrideRule) (path : String) : Bool := rule.pattern.isMatch path

end OverrideRule

variable {m : Type → Type} [Monad m]

/-- An element under a path with the overrides that are for it. -/
def Element.override (rules : List OverrideRule) (path : String) (e : Element m) : Element m :=
  (rules.filter (·.appliesTo path)).foldl
    (fun e rule => e.inferName fun field => pure (rule.typeFor field.name)) e

/-! ## elements -/

/-- The path of an element below another path. -/
def below (path name : String) : String := path ++ "." ++ name

/-- The type of the element with a path. -/
def parseType (source path : String) : Except ModelError Native :=
  (Native.parse source).mapError (.type source path)

/-- The element with a path, with its type and the overrides that are for it. -/
def typedElement (rules : List OverrideRule) (name source path : String) :
    Except ModelError (Element m) := do
  let type ← parseType source path
  pure ((Element.new name type).override rules path)

/-- A member of an interface, or a parameter of a method, below its path. -/
def MemberDecl.element (rules : List OverrideRule) (path : String) (d : MemberDecl) :
    Except ModelError (Element m) :=
  typedElement rules d.name d.type (below path d.name)

/-- A method of an interface. -/
def MethodDecl.method (rules : List OverrideRule) (path : String) (d : MethodDecl) :
    Except ModelError (Method m) := do
  let parameters ← d.params.mapM (MemberDecl.element rules (below path d.name))
  let element ← typedElement rules d.name d.returns (below path d.name)
  pure ⟨element, parameters⟩

/-! ## interfaces -/

/-- The segments of a namespace, which dots or colons separate. -/
def scopeSegments (scope : String) : List String :=
  (Text.segments (fun c => c == '.' || c == ':') scope.toList).map String.ofList

/-- The segments of an interface's own namespace, or else of the model's. -/
def InterfaceDecl.segments (default : Option String) (d : InterfaceDecl) : List String :=
  ((d.scope.or default).map scopeSegments).getD []

/-- An interface of a model with a default namespace. -/
def InterfaceDecl.interface (rules : List OverrideRule) (default : Option String)
    (d : InterfaceDecl) : Except ModelError (Interface m) := do
  let members ← d.members.mapM (MemberDecl.element rules d.name)
  let methods ← d.methods.mapM (MethodDecl.method rules d.name)
  pure ⟨d.segments default, d.name, members, methods⟩

/-- The interfaces that a model describes. -/
def Model.toInterfaces (model : Model) : Except ModelError (List (Interface m)) := do
  let rules ← model.overrides.mapM OverrideRule.ofOverride
  model.interfaces.mapM (InterfaceDecl.interface rules model.scope)

end DeclGen
