import DeclGen.Inferer

/-!
# DeclGen.Slot

The slot of an element: it holds at most one inferer, and the last one written
wins.
-/

namespace DeclGen

/-- A place for one inferer. -/
structure Slot (m : Type → Type) (E : Type) where
  active : Option (Inferer m E)

namespace Slot

variable {m : Type → Type} {E : Type}

/-- The slot of an element whose type is not overridden. -/
def empty : Slot m E := ⟨none⟩

instance : Inhabited (Slot m E) := ⟨empty⟩

/-- Puts an inferer into the slot, whatever was in it. -/
def set (_ : Slot m E) (inferer : Inferer m E) : Slot m E := ⟨some inferer⟩

/-- Whether the slot holds no inferer. -/
def isEmpty (slot : Slot m E) : Bool := slot.active.isNone

/-- The kind of the inferer in the slot. -/
def activeKind? (slot : Slot m E) : Option InfererKind := slot.active.map Inferer.kind

/-- The type computed by the inferer in the slot; `none` if the slot is empty. -/
def infer [Monad m] (slot : Slot m E) (element : E) (r : Resolver) :
    ExceptT InferError m (Option TypeName) :=
  match slot.active with
  | none => pure none
  | some inferer => some <$> inferer.invoke element r

/-- The type of an element: what its inferer says, or the default mapping of
its native type if it has none. -/
def resolve [Monad m] (slot : Slot m E) (element : E) (native : Native) (r : Resolver) :
    ExceptT InferError m TypeName := do
  match ← slot.infer element r with
  | some type => pure type
  | none => pure (r.resolve native)

/-- The description of a slot. -/
def describe (slot : Slot m E) : String :=
  "TypeInferers \x7b active: " ++
    (match slot.activeKind? with
      | some kind => "Some(" ++ kind.word ++ ")"
      | none => "None") ++ " \x7d"

end Slot

end DeclGen
