/-!
# DeclGen.Model.Basic

Declaration models: the interfaces to declare, with native types as text, and
the overrides of single types.
-/

namespace DeclGen

/-- A member or a parameter with its type. -/
structure MemberDecl where
  name : String
  type : String
  deriving DecidableEq, Repr

/-- A method with its parameters and the type that it returns. -/
structure MethodDecl where
  name : String
  params : List MemberDecl
  returns : String
  deriving DecidableEq, Repr

/-- The type that a method returns unless it says so. -/
def MethodDecl.defaultReturns : String := "()"

/-- An interface; `scope` is its own namespace, if it has one. -/
structure InterfaceDecl where
  name : String
  scope : Option String
  members : List MemberDecl
  methods : List MethodDecl
  deriving DecidableEq, Repr

/-- The type of all elements whose paths match a pattern. -/
structure Override where
  target : String
  type : String
  deriving DecidableEq, Repr

/-- A model; `scope` is the namespace of the interfaces that have none of their
own. -/
structure Model where
  scope : Option String
  interfaces : List InterfaceDecl
  overrides : List Override
  deriving DecidableEq, Repr

end DeclGen
