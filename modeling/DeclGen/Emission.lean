import DeclGen.Emission.Layout
import DeclGen.Interface

/-!
# DeclGen.Emission

From an interface to the text of its declaration.  The elements are resolved
one after the other; the first inferer that fails ends the emission with its
error.
-/

namespace DeclGen

variable {m : Type → Type} [Monad m]

/-- An element with its type. -/
def Element.typed (r : Resolver) (e : Element m) : ExceptT InferError m TypedName := do
  let type ← e.resolve r
  pure ⟨e.field.name, type⟩

/-- A method with its types: those of the parameters come first. -/
def Method.typed (r : Resolver) (method : Method m) : ExceptT InferError m TypedMethod := do
  let parameters ← method.parameters.mapM (Element.typed r)
  let returns ← method.element.resolve r
  pure ⟨method.element.field.name, parameters, returns⟩

/-- An interface with its types: those of the members come first. -/
def Interface.typed (r : Resolver) (i : Interface m) : ExceptT InferError m Declaration := do
  let members ← i.members.mapM (Element.typed r)
  let methods ← i.methods.mapM (Method.typed r)
  pure ⟨i.scope, i.name, members, methods⟩

/-- The text of an interface's declaration. -/
def Interface.emit (r : Resolver) (settings : EmitSettings) (i : Interface m) :
    ExceptT InferError m String := do
  let declaration ← i.typed r
  pure (String.ofList (declaration.text settings))

end DeclGen
