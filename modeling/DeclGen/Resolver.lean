import DeclGen.Native.Basic
import DeclGen.TypeName.Basic

/-!
# DeclGen.Resolver

The default mapping from native types to TypeScript types, under a few settings
and a table of substitutions.

* A named type is substituted by its whole path first, by its last segment
  otherwise; a scalar by its native spelling, and a text also by `str`.
* What is not substituted is mapped by its structure.
-/

namespace DeclGen

/-- How an optional type is mapped. -/
inductive OptionalStyle where
  /-- As a union with `null`. -/
  | union
  /-- As the type itself. -/
  | bare
  deriving DecidableEq, Repr, Inhabited

namespace OptionalStyle

/-- The name of a style in settings. -/
def name : OptionalStyle → String
  | union => "union"
  | bare => "bare"

/-- The style with a given name. -/
def ofName? (name : String) : Option OptionalStyle :=
  if name = "union" then some union else if name = "bare" then some bare else none

end OptionalStyle

/-- A mapping of native types.  The substitutions stand in the order of their
making, the latest first, and the first one for a key counts. -/
structure Resolver where
  stripNamespaces : Bool
  optionalStyle : OptionalStyle
  substitutions : List (String × TypeName)

namespace Resolver

/-- The mapping without substitutions: namespaces are stripped and an optional
type is a union. -/
def default : Resolver := ⟨true, .union, []⟩

instance : Inhabited Resolver := ⟨default⟩

/-! ## settings and substitutions -/

/-- The mapping that puts `target` for `path` from now on. -/
def substitute (r : Resolver) (path : String) (target : TypeName) : Resolver :=
  { r with substitutions := (path, target) :: r.substitutions }

/-- The mapping with namespaces stripped or kept. -/
def withStripNamespaces (r : Resolver) (strip : Bool) : Resolver :=
  { r with stripNamespaces := strip }

/-- The mapping with a style for optional types. -/
def withOptionalStyle (r : Resolver) (style : OptionalStyle) : Resolver :=
  { r with optionalStyle := style }

/-- What is found under a key stands in the list with it. -/
theorem mem_of_lookup {α β : Type} [BEq α] [LawfulBEq α] {key : α} {value : β}
    {entries : List (α × β)} (h : entries.lookup key = some value) : (key, value) ∈ entries := by
  obtain ⟨before, behind, rfl, -⟩ := List.lookup_eq_some_iff.mp h
  exact List.mem_append_right before List.mem_cons_self

/-- The target of a key. -/
def lookup (r : Resolver) (key : String) : Option TypeName := r.substitutions.lookup key

/-- A substitution is found under its path, and changes nothing elsewhere. -/
theorem lookup_substitute (r : Resolver) (path key : String) (target : TypeName) :
    (r.substitute path target).lookup key = if path = key then some target else r.lookup key := by
  rw [lookup, substitute, List.lookup_cons]
  by_cases h : path = key
  · simp [h]
  · have hne : (key == path) = false := by simpa using Ne.symm h
    simp [h, hne, lookup]

/-- The target of a path: that of the whole path, or else of its last segment. -/
def substitution (r : Resolver) (path : String) : Option TypeName :=
  (r.lookup path).or (r.lookup (Native.lastSegment path))

/-- The target of a scalar: that of its spelling; `str` stands for a text too. -/
def primitiveSubstitution (r : Resolver) (kind : Primitive) : Option TypeName :=
  (r.lookup kind.spelling).or (if kind = .string then r.lookup "str" else none)

/-- The TypeScript name of a path that is not substituted: its last segment, or
all of them with dots between them. -/
def pathName (r : Resolver) (path : String) : String :=
  if r.stripNamespaces then Native.lastSegment path
  else String.ofList (Text.replaceAll [':', ':'] ['.'] path.toList)

/-- The TypeScript type of an optional type with a given inner type. -/
def ofOptional (r : Resolver) (inner : TypeName) : TypeName :=
  match r.optionalStyle with
  | .union => .nullable inner
  | .bare => inner

/-! ## the mapping -/

mutual

/-- The TypeScript type of a native type. -/
def resolve (r : Resolver) : Native → TypeName
  | .primitive kind => (r.primitiveSubstitution kind).getD (.simple kind.typeScriptName)
  | .named path arguments =>
    (r.substitution path).getD (.named (r.pathName path) (resolveAll r arguments))
  | .sequence element => .array (resolve r element)
  | .array element _ => .array (resolve r element)
  | .map key value => .dictionary (resolve r key) (resolve r value)
  | .optional inner => r.ofOptional (resolve r inner)
  | .tuple items => .tuple (resolveAll r items)

/-- The TypeScript types of several native types. -/
def resolveAll (r : Resolver) : List Native → List TypeName
  | [] => []
  | t :: ts => resolve r t :: resolveAll r ts

end

/-- Several types are mapped one by one. -/
theorem resolveAll_eq_map (r : Resolver) (ts : List Native) :
    resolveAll r ts = ts.map (resolve r) := by
  induction ts with
  | nil => rfl
  | cons t ts ih => simp [resolveAll, ih]

end Resolver

end DeclGen
