import Mathlib.Data.List.DropRight
import DeclGen.Proofs.Resolver.Plain

/-!
# DeclGen.Proofs.Resolver.Namespaces

Stripping namespaces, and forgetting them afterwards.

1. `unqualified` cuts every name in a type to what follows its last dot.
2. The names of a parsed path contain neither dots nor colons.  So what follows
   the last dot of its qualified name is what follows its last `::`
   (`unqualifiedName_pathName`), though one is found by replacing and the other by
   searching from the end.
3. Names without dots are not cut (`unqualified_of_undotted`); such are all names
   of scalars, and those in targets if one keeps to them.
-/

namespace DeclGen

open Text

namespace TypeName

/-! ## names without qualifiers -/

/-- What follows the last dot of a name, or the whole name if it has none. -/
def unqualifiedName (name : String) : String :=
  String.ofList (name.toList.rtakeWhile (· ≠ '.'))

mutual

/-- The type with every name in it cut to what follows its last dot. -/
def unqualified : TypeName → TypeName
  | named name arguments => named (unqualifiedName name) (unqualifiedAll arguments)
  | array element => array element.unqualified
  | tuple items => tuple (unqualifiedAll items)
  | dictionary key value => dictionary key.unqualified value.unqualified
  | union variants => union (unqualifiedAll variants)

/-- Several types, each with its names cut. -/
def unqualifiedAll : List TypeName → List TypeName
  | [] => []
  | t :: ts => t.unqualified :: unqualifiedAll ts

end

theorem unqualifiedAll_eq_map (ts : List TypeName) :
    unqualifiedAll ts = ts.map unqualified := by
  induction ts with
  | nil => rfl
  | cons t ts ih => rw [unqualifiedAll, ih, List.map_cons]

/-- No name in a type contains a dot. -/
def Undotted (t : TypeName) : Prop := ∀ u ∈ t.nodes, ∀ name ∈ u.simpleName?, '.' ∉ name.toList

instance : DecidablePred Undotted := fun t =>
  inferInstanceAs (Decidable (∀ u ∈ t.nodes, ∀ name ∈ u.simpleName?, '.' ∉ name.toList))

/-- A name without a dot is not cut. -/
theorem unqualifiedName_of_not_mem {name : String} (h : '.' ∉ name.toList) :
    unqualifiedName name = name := by
  have hkeep : name.toList.rtakeWhile (· ≠ '.') = name.toList := by
    rw [List.rtakeWhile_eq_self_iff]
    intro c hc
    simpa using fun hdot : c = '.' => h (hdot ▸ hc)
  rw [unqualifiedName, hkeep, String.ofList_toList]

/-- A type without dots in its names is not changed. -/
theorem unqualified_of_undotted {t : TypeName} (h : t.Undotted) : t.unqualified = t := by
  induction t using induction_children with
  | step t ih =>
    obtain ⟨hself, hbelow⟩ := forall_nodes.mp h
    have hchild : ∀ c ∈ t.children, c.unqualified = c := fun c hc => ih c hc (hbelow c hc)
    have hall : t.children.map unqualified = t.children :=
      (List.map_congr_left hchild).trans (List.map_id _)
    cases t with
    | named name arguments =>
        rw [children] at hall
        rw [unqualified, unqualifiedAll_eq_map, hall, unqualifiedName_of_not_mem (hself name rfl)]
    | array element => rw [unqualified, hchild element List.mem_cons_self]
    | tuple items =>
        rw [children] at hall
        rw [unqualified, unqualifiedAll_eq_map, hall]
    | dictionary key value =>
        rw [unqualified, hchild key (by simp [children]), hchild value (by simp [children])]
    | union variants =>
        rw [children] at hall
        rw [unqualified, unqualifiedAll_eq_map, hall]

/-- Scalars have no dots in their names. -/
theorem undotted_typeScriptName (kind : Primitive) : (simple kind.typeScriptName).Undotted := by
  cases kind <;> decide

end TypeName

namespace Resolver

/-! ## names of paths -/

/-- What follows the last separating character of joined parts is the last part. -/
theorem rtakeWhile_intercalate {c : Char} {parts : List (List Char)} {last : List Char}
    (h : c ∉ last) :
    (List.intercalate [c] (parts ++ [last])).rtakeWhile (· ≠ c) = last := by
  have hlast : ∀ d ∈ last, decide (d ≠ c) = true := fun d hd => by
    simpa using fun hdc : d = c => h (hdc ▸ hd)
  cases parts with
  | nil => rwa [List.nil_append, List.intercalate_singleton, List.rtakeWhile_eq_self_iff]
  | cons part parts =>
      rw [intercalate_append (List.cons_ne_nil part parts) (List.cons_ne_nil last []),
        List.intercalate_singleton, List.rtakeWhile, List.reverse_append,
        Native.takeWhile_append_of_head (by simpa using hlast) (by simp), List.reverse_reverse]

/-- The qualified name of a path is cut to its stripped name. -/
theorem unqualifiedName_pathName (r : Resolver) {path : String} (h : Native.IsPath path) :
    TypeName.unqualifiedName ((r.withStripNamespaces false).pathName path) =
      (r.withStripNamespaces true).pathName path := by
  obtain ⟨first, more, rfl⟩ := h
  have hlast : (first :: more).dropLast ++ [more.getLastD first] = first :: more := by
    rw [← List.getLast_eq_getLastD (List.cons_ne_nil first more), List.dropLast_append_getLast]
  have hnames : (first :: more).map Native.Word.chars =
      ((first :: more).dropLast.map Native.Word.chars) ++ [(more.getLastD first).chars] := by
    rw [← List.map_singleton, ← List.map_append, hlast]
  have hdot : '.' ∉ (more.getLastD first).chars := Native.not_mem_chars (by decide) _
  have hname : (r.withStripNamespaces false).pathName (Native.pathText first more) =
      String.ofList (List.intercalate ['.'] ((first :: more).map Native.Word.chars)) :=
    congrArg String.ofList (replaceAll_pathText first more)
  rw [TypeName.unqualifiedName, hname, String.toList_ofList, hnames, rtakeWhile_intercalate hdot]
  exact (Native.lastSegment_pathText first more).symm

/-! ## the two settings -/

/-- An optional type is cut as its inner type is. -/
theorem unqualified_ofOptional (r : Resolver) (inner : TypeName) :
    (r.ofOptional inner).unqualified = r.ofOptional inner.unqualified := by
  unfold ofOptional
  cases r.optionalStyle with
  | union => rfl
  | bare => rfl

section Undotted

variable {r : Resolver} (hr : ∀ key target, r.lookup key = some target → target.Undotted)
include hr

/-- A scalar is mapped to a type without dots in either setting. -/
theorem unqualified_resolve_primitive (kind : Primitive) :
    ((r.withStripNamespaces false).resolve (.primitive kind)).unqualified =
      (r.withStripNamespaces true).resolve (.primitive kind) := by
  have hundotted : (r.resolve (.primitive kind)).Undotted := by
    rw [resolve]
    cases h : r.primitiveSubstitution kind with
    | none => exact TypeName.undotted_typeScriptName kind
    | some target =>
        obtain ⟨key, hkey⟩ := lookup_of_primitiveSubstitution h
        exact hr key target hkey
  exact TypeName.unqualified_of_undotted hundotted

/-- A named type is cut if its arguments are, unless a target is put for its path:
then it is the target in either setting. -/
theorem unqualified_resolve_named {path : String} (hpath : Native.IsPath path)
    {arguments : List Native}
    (hall : (arguments.map (r.withStripNamespaces false).resolve).map TypeName.unqualified =
      arguments.map (r.withStripNamespaces true).resolve) :
    ((r.withStripNamespaces false).resolve (.named path arguments)).unqualified =
      (r.withStripNamespaces true).resolve (.named path arguments) := by
  rw [resolve, resolve, resolveAll_eq_map, resolveAll_eq_map]
  show ((r.substitution path).getD _).unqualified = (r.substitution path).getD _
  cases h : r.substitution path with
  | none =>
      rw [Option.getD_none, Option.getD_none, TypeName.unqualified,
        TypeName.unqualifiedAll_eq_map, unqualifiedName_pathName r hpath, hall]
  | some target =>
      obtain ⟨key, hkey⟩ := lookup_of_substitution h
      exact TypeName.unqualified_of_undotted (hr key target hkey)

/-- **Stripping namespaces is forgetting them.**  If no name in a target contains
a dot, the mapping of a parsed type with namespaces kept, with every name in it
cut to what follows its last dot, is the mapping with namespaces stripped, in
either style of optional types. -/
theorem resolve_stripped {source : String} {t : Native} (hparse : Native.parse source = .ok t) :
    ((r.withStripNamespaces false).resolve t).unqualified =
      (r.withStripNamespaces true).resolve t := by
  have hregular : ∀ u ∈ t.nodes, u.Regular := (Native.regularWithin_of_parse hparse).1
  clear hparse
  induction t using Native.induction_children with
  | step t ih =>
    obtain ⟨hself, hbelow⟩ := Native.forall_nodes.mp hregular
    have hchild : ∀ c ∈ t.children, ((r.withStripNamespaces false).resolve c).unqualified =
        (r.withStripNamespaces true).resolve c := fun c hc => ih c hc (hbelow c hc)
    have hall : (t.children.map (r.withStripNamespaces false).resolve).map TypeName.unqualified =
        t.children.map (r.withStripNamespaces true).resolve := by
      rw [List.map_map]
      exact List.map_congr_left hchild
    cases t with
    | primitive kind => exact unqualified_resolve_primitive hr kind
    | named path arguments => exact unqualified_resolve_named hr hself.1 hall
    | sequence element =>
        rw [resolve, resolve, TypeName.unqualified, hchild element List.mem_cons_self]
    | array element length =>
        rw [resolve, resolve, TypeName.unqualified, hchild element List.mem_cons_self]
    | map key value =>
        rw [resolve, resolve, TypeName.unqualified, hchild key (by simp [Native.children]),
          hchild value (by simp [Native.children])]
    | optional inner =>
        rw [resolve, resolve, unqualified_ofOptional, hchild inner List.mem_cons_self]
        rfl
    | tuple items =>
        rw [resolve, resolve, resolveAll_eq_map, resolveAll_eq_map, TypeName.unqualified,
          TypeName.unqualifiedAll_eq_map]
        exact congrArg TypeName.tuple hall

end Undotted

/-- The path of a type is cut, and a target for another one is kept as it is. -/
theorem resolve_stripped_page :
    let r := default.substitute "Uuid" (.named "Id" [.simple "v4"])
    let t : Native := .named "Page" [.named "geo::shapes::Point" [],
      .optional (.named "auth::Uuid" [])]
    (∀ key target, r.lookup key = some target → target.Undotted) ∧
      Native.parse "Page<geo::shapes::Point, Option<auth::Uuid>>" = .ok t ∧
      (r.withStripNamespaces false).resolve t = .named "Page" [.simple "geo.shapes.Point",
        .nullable (.named "Id" [.simple "v4"])] ∧
      ((r.withStripNamespaces false).resolve t).unqualified =
        (r.withStripNamespaces true).resolve t := by
  intro r t
  have hr : ∀ key target, r.lookup key = some target → target.Undotted := by
    intro key target h
    rw [lookup_substitute] at h
    split at h
    · obtain rfl := Option.some.inj h
      decide
    · contradiction
  have hparse : Native.parse "Page<geo::shapes::Point, Option<auth::Uuid>>" = .ok t := by
    decide +kernel
  exact ⟨hr, hparse, by decide +kernel, resolve_stripped hr hparse⟩

end Resolver

end DeclGen
