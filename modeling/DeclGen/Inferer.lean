import DeclGen.Resolver

/-!
# DeclGen.Inferer

Inferers: functions that compute the TypeScript type of one element in place of
the default mapping.  An inferer gives a name or a structured type, and it sees
the resolver or not; that makes four kinds.

An inferer runs in a monad `m` of the caller's choice, so that what it does
besides answering, and how often and in which order it runs, can be observed.
-/

namespace DeclGen

/-- Why an inferer gives no type. -/
inductive InferError where
  /-- The inferer refuses the element. -/
  | rejected (element reason : String)
  /-- An error of the inferer's own. -/
  | other (text : String)
  deriving DecidableEq, Repr

/-- The wording of an error. -/
def InferError.message : InferError → String
  | rejected element reason => "cannot infer type of `" ++ element ++ "`: " ++ reason
  | other text => text

/-- The four kinds of inferers. -/
inductive InfererKind where
  | nameWithResolver
  | typeWithResolver
  | name
  | type
  deriving DecidableEq, Repr

namespace InfererKind

/-- Whether an inferer of the kind sees the resolver. -/
def usesResolver : InfererKind → Bool
  | nameWithResolver | typeWithResolver => true
  | name | type => false

/-- The label of a kind. -/
def label : InfererKind → String
  | nameWithResolver => "name-with-resolver"
  | typeWithResolver => "type-with-resolver"
  | name => "name"
  | type => "type"

/-- The kind's word in descriptions of inferers and slots. -/
def word : InfererKind → String
  | nameWithResolver => "NameWithResolver"
  | typeWithResolver => "TypeWithResolver"
  | name => "Name"
  | type => "Type"

end InfererKind

/-- A function that computes the TypeScript type of elements of type `E`. -/
inductive Inferer (m : Type → Type) (E : Type) where
  | nameWithResolver (run : E → Resolver → ExceptT InferError m String)
  | typeWithResolver (run : E → Resolver → ExceptT InferError m TypeName)
  | name (run : E → ExceptT InferError m String)
  | type (run : E → ExceptT InferError m TypeName)

namespace Inferer

variable {m : Type → Type} {E : Type}

/-- The kind of an inferer. -/
def kind : Inferer m E → InfererKind
  | nameWithResolver _ => .nameWithResolver
  | typeWithResolver _ => .typeWithResolver
  | name _ => .name
  | type _ => .type

/-- Runs an inferer once.  A name becomes a simple type; a structured type and
an error are passed on as they are. -/
def invoke [Monad m] (inferer : Inferer m E) (element : E) (r : Resolver) :
    ExceptT InferError m TypeName :=
  match inferer with
  | nameWithResolver run => TypeName.simple <$> run element r
  | typeWithResolver run => run element r
  | name run => TypeName.simple <$> run element
  | type run => run element

/-- The description of an inferer. -/
def describe (inferer : Inferer m E) : String := "Inferer(" ++ inferer.kind.word ++ ")"

end Inferer

end DeclGen
