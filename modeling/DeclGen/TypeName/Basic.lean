/-!
# DeclGen.TypeName.Basic

TypeScript type names: the types that stand in the declarations.
-/

namespace DeclGen

/-- A TypeScript type as it is referred to in a declaration. -/
inductive TypeName where
  /-- A name, with type arguments if there are any. -/
  | named (name : String) (arguments : List TypeName)
  /-- An array of one element type. -/
  | array (element : TypeName)
  /-- A tuple of fixed length. -/
  | tuple (items : List TypeName)
  /-- An object with an index signature. -/
  | dictionary (key value : TypeName)
  /-- A choice between alternatives. -/
  | union (variants : List TypeName)
  deriving Inhabited

namespace TypeName

/-- A name without arguments, taken as it stands. -/
def simple (name : String) : TypeName := named name []

/-- A type or `null`. -/
def nullable (inner : TypeName) : TypeName := union [inner, simple "null"]

/-- The name of a named type, with or without arguments. -/
def simpleName? : TypeName → Option String
  | named name _ => some name
  | _ => none

/-! ## equality -/

mutual

/-- Structural equality. -/
protected def beq : TypeName → TypeName → Bool
  | named n as, named m bs => n == m && TypeName.beqAll as bs
  | array e, array f => e.beq f
  | tuple as, tuple bs => TypeName.beqAll as bs
  | dictionary k v, dictionary l w => k.beq l && v.beq w
  | union as, union bs => TypeName.beqAll as bs
  | _, _ => false

/-- Structural equality, item by item. -/
protected def beqAll : List TypeName → List TypeName → Bool
  | [], [] => true
  | a :: as, b :: bs => a.beq b && TypeName.beqAll as bs
  | _, _ => false

end

mutual

theorem beq_self : ∀ t : TypeName, t.beq t = true
  | named n as => by simp [TypeName.beq, beqAll_self as]
  | array e => by simp [TypeName.beq, beq_self e]
  | tuple as => by simp [TypeName.beq, beqAll_self as]
  | dictionary k v => by simp [TypeName.beq, beq_self k, beq_self v]
  | union as => by simp [TypeName.beq, beqAll_self as]

theorem beqAll_self : ∀ ts : List TypeName, TypeName.beqAll ts ts = true
  | [] => by simp [TypeName.beqAll]
  | t :: ts => by simp [TypeName.beqAll, beq_self t, beqAll_self ts]

end

mutual

theorem eq_of_beq : ∀ (a b : TypeName), a.beq b = true → a = b
  | named n as, b, h => by
      cases b <;> simp [TypeName.beq] at h
      next m bs => rw [h.1, eq_of_beqAll as bs h.2]
  | array e, b, h => by
      cases b <;> simp [TypeName.beq] at h
      next f => rw [eq_of_beq e f h]
  | tuple as, b, h => by
      cases b <;> simp [TypeName.beq] at h
      next bs => rw [eq_of_beqAll as bs h]
  | dictionary k v, b, h => by
      cases b <;> simp [TypeName.beq] at h
      next l w => rw [eq_of_beq k l h.1, eq_of_beq v w h.2]
  | union as, b, h => by
      cases b <;> simp [TypeName.beq] at h
      next bs => rw [eq_of_beqAll as bs h]

theorem eq_of_beqAll : ∀ (as bs : List TypeName), TypeName.beqAll as bs = true → as = bs
  | [], bs, h => by cases bs <;> simp_all [TypeName.beqAll]
  | a :: as, bs, h => by
      cases bs <;> simp [TypeName.beqAll] at h
      next b bs => rw [eq_of_beq a b h.1, eq_of_beqAll as bs h.2]

end

instance : DecidableEq TypeName := fun a b =>
  if h : a.beq b = true then isTrue (eq_of_beq a b h)
  else isFalse fun e => h (e ▸ beq_self a)

end TypeName

end DeclGen
