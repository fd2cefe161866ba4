/-!
# DeclGen.Native.Primitive

The built-in scalar types, their native spelling and their TypeScript name.
-/

namespace DeclGen

/-- A built-in scalar type. -/
inductive Primitive where
  | bool | char | string
  | i8 | i16 | i32 | i64 | i128 | isize
  | u8 | u16 | u32 | u64 | u128 | usize
  | f32 | f64
  | unit
  deriving DecidableEq, Repr, Inhabited

namespace Primitive

/-- The native spelling, which is also the key under which a substitution for
the type is looked up. -/
def spelling : Primitive → String
  | bool => "bool" | char => "char" | string => "String"
  | i8 => "i8" | i16 => "i16" | i32 => "i32" | i64 => "i64" | i128 => "i128" | isize => "isize"
  | u8 => "u8" | u16 => "u16" | u32 => "u32" | u64 => "u64" | u128 => "u128" | usize => "usize"
  | f32 => "f32" | f64 => "f64"
  | unit => "()"

/-- The TypeScript type that stands for the scalar unless it is substituted. -/
def typeScriptName : Primitive → String
  | bool => "boolean"
  | char | string => "string"
  | unit => "void"
  | _ => "number"

/-- The scalars that an identifier can name: all but unit. -/
def identifiers : List (String × Primitive) :=
  [("bool", bool), ("char", char), ("str", string), ("String", string),
   ("i8", i8), ("i16", i16), ("i32", i32), ("i64", i64), ("i128", i128), ("isize", isize),
   ("u8", u8), ("u16", u16), ("u32", u32), ("u64", u64), ("u128", u128), ("usize", usize),
   ("f32", f32), ("f64", f64)]

/-- The scalar that an identifier names.  A borrowed text `str` and an owned
`String` are the same type. -/
def ofIdentifier? (name : String) : Option Primitive := identifiers.lookup name

end Primitive

end DeclGen
