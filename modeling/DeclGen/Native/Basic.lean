import DeclGen.Native.Primitive
import DeclGen.Text.Segments

/-!
# DeclGen.Native.Basic

Native types: the types that members, parameters and methods are declared
with, before they are mapped to TypeScript.  References, lifetimes and smart
pointers are transparent, so they have no form of their own.
-/

namespace DeclGen

/-- A native type.  The path of a named type keeps its `::` separators. -/
inductive Native where
  | primitive (kind : Primitive)
  | named (path : String) (arguments : List Native)
  | sequence (element : Native)
  | array (element : Native) (length : UInt64)
  | map (key value : Native)
  | optional (inner : Native)
  | tuple (items : List Native)
  deriving Inhabited

namespace Native

/-! ## equality -/

mutual

/-- Structural equality. -/
protected def beq : Native → Native → Bool
  | primitive k, primitive l => k == l
  | named p as, named q bs => p == q && Native.beqAll as bs
  | sequence e, sequence f => e.beq f
  | array e m, array f n => e.beq f && m == n
  | map k v, map l w => k.beq l && v.beq w
  | optional i, optional j => i.beq j
  | tuple as, tuple bs => Native.beqAll as bs
  | _, _ => false

/-- Structural equality, item by item. -/
protected def beqAll : List Native → List Native → Bool
  | [], [] => true
  | a :: as, b :: bs => a.beq b && Native.beqAll as bs
  | _, _ => false

end

mutual

theorem beq_self : ∀ t : Native, t.beq t = true
  | primitive k => by simp [Native.beq]
  | named p as => by simp [Native.beq, beqAll_self as]
  | sequence e => by simp [Native.beq, beq_self e]
  | array e m => by simp [Native.beq, beq_self e]
  | map k v => by simp [Native.beq, beq_self k, beq_self v]
  | optional i => by simp [Native.beq, beq_self i]
  | tuple as => by simp [Native.beq, beqAll_self as]

theorem beqAll_self : ∀ ts : List Native, Native.beqAll ts ts = true
  | [] => by simp [Native.beqAll]
  | t :: ts => by simp [Native.beqAll, beq_self t, beqAll_self ts]

end

mutual

theorem eq_of_beq : ∀ (a b : Native), a.beq b = true → a = b
  | primitive k, b, h => by cases b <;> simp_all [Native.beq]
  | named p as, b, h => by
      cases b <;> simp [Native.beq] at h
      next q bs => rw [h.1, eq_of_beqAll as bs h.2]
  | sequence e, b, h => by
      cases b <;> simp [Native.beq] at h
      next f => rw [eq_of_beq e f h]
  | array e m, b, h => by
      cases b <;> simp [Native.beq] at h
      next f n => rw [eq_of_beq e f h.1, h.2]
  | map k v, b, h => by
      cases b <;> simp [Native.beq] at h
      next l w => rw [eq_of_beq k l h.1, eq_of_beq v w h.2]
  | optional i, b, h => by
      cases b <;> simp [Native.beq] at h
      next j => rw [eq_of_beq i j h]
  | tuple as, b, h => by
      cases b <;> simp [Native.beq] at h
      next bs => rw [eq_of_beqAll as bs h]

theorem eq_of_beqAll : ∀ (as bs : List Native), Native.beqAll as bs = true → as = bs
  | [], bs, h => by cases bs <;> simp_all [Native.beqAll]
  | a :: as, bs, h => by
      cases bs <;> simp [Native.beqAll] at h
      next b bs => rw [eq_of_beq a b h.1, eq_of_beqAll as bs h.2]

end

instance : DecidableEq Native := fun a b =>
  if h : a.beq b = true then isTrue (eq_of_beq a b h)
  else isFalse fun e => h (e ▸ beq_self a)

/-! ## classification of paths -/

/-- The last `::` segment of a path. -/
def lastSegment (path : String) : String :=
  String.ofList (Text.lastSegment [':', ':'] path.toList)

/-- The type that a path with arguments means.  Its last segment decides: a
scalar without arguments, a sequence, an optional or a transparent pointer
with one, a map with two; every other path is a named type. -/
def ofPath (path : String) (arguments : List Native) : Native :=
  match arguments with
  | [] => match Primitive.ofIdentifier? (lastSegment path) with
    | some kind => primitive kind
    | none => named path []
  | [t] =>
    let name := lastSegment path
    if ["Vec", "VecDeque", "HashSet", "BTreeSet", "LinkedList"].contains name then sequence t
    else if name == "Option" then optional t
    else if ["Box", "Rc", "Arc", "Cow"].contains name then t
    else named path [t]
  | [k, v] =>
    if ["HashMap", "BTreeMap", "IndexMap"].contains (lastSegment path) then map k v
    else named path [k, v]
  | _ => named path arguments

/-! ## height -/

mutual

/-- The number of nodes on the longest way down. -/
def height : Native → Nat
  | primitive _ => 1
  | named _ arguments => heightAll arguments + 1
  | sequence element => element.height + 1
  | array element _ => element.height + 1
  | map key value => max key.height value.height + 1
  | optional inner => inner.height + 1
  | tuple items => heightAll items + 1

/-- The height of the highest item, 0 if there is none. -/
def heightAll : List Native → Nat
  | [] => 0
  | t :: ts => max t.height (heightAll ts)

end

end Native

end DeclGen
