import DeclGen.Proofs.Emission.CamelCase
import DeclGen.Proofs.Emission.Calls
import DeclGen.Proofs.Emission.Unambiguous
import DeclGen.Proofs.Text.Lines

/-!
# DeclGen.Proofs.Emission.Namespace

One interface inside a namespace and outside.

A namespace decides neither what the elements resolve to nor in which order they
do so (`runIn_emit_within`): it wraps the text.  What is inside stands one level
deeper, line by line (`Declaration.indentLines_body`), as long as there is no
line feed inside a line.
-/

namespace DeclGen

open Text

/-! ## other namespaces -/

/-- The interface in another namespace. -/
def Interface.within {m : Type → Type} (i : Interface m) (scope : List String) : Interface m :=
  { i with scope := scope }

/-- The declaration in another namespace. -/
def Declaration.within (d : Declaration) (scope : List String) : Declaration :=
  { d with scope := scope }

/-- A text inside a namespace: the opening line with the segments, every line of
the text with spaces in front, and the closing brace. -/
def enclosed (indent : Nat) (scope : List String) (text : List Char) : List Char :=
  "export namespace ".toList ++ (List.intercalate ['.'] (scope.map String.toList) ++
    (" \x7b\n".toList ++ (indentLines indent text ++ ['\x7d', '\n'])))

/-- The same as a string. -/
def namespaced (indent : Nat) (scope : List String) (text : String) : String :=
  String.ofList (enclosed indent scope text.toList)

/-! ## lines -/

variable {σ : Type} {settings : EmitSettings}

/-- A name without line feeds is written without them. -/
theorem newline_not_mem_displayName {name : String} (h : '\n' ∉ name.toList) :
    '\n' ∉ settings.displayName name := by
  unfold EmitSettings.displayName
  split
  · intro hmem
    rcases (mem_camelCaseFrom hmem).2 with hin | hform
    · exact h hin
    · contradiction
  · exact h

/-- A name and a type without line feeds are written without them. -/
theorem TypedName.newline_not_mem_text {item : TypedName} (hname : '\n' ∉ item.name.toList)
    (htype : '\n' ∉ item.type.text) : '\n' ∉ item.text settings := by
  have hcolon : '\n' ∉ ": ".toList := by decide
  exact List.not_mem_append (List.not_mem_append (newline_not_mem_displayName hname) hcolon) htype

/-- So are a method's names and types. -/
theorem TypedMethod.newline_not_mem_text {method : TypedMethod}
    (hname : '\n' ∉ method.name.toList)
    (hparameters : ∀ parameter ∈ method.parameters, '\n' ∉ parameter.name.toList)
    (htypes : ∀ text ∈ method.typeTexts, '\n' ∉ text) : '\n' ∉ method.text settings := by
  rw [typeTexts, List.forall_mem_append, List.forall_mem_map, List.forall_mem_singleton] at htypes
  have hlist : '\n' ∉
      List.intercalate ", ".toList (method.parameters.map (TypedName.text settings)) :=
    not_mem_intercalate (by decide) (List.forall_mem_map.mpr fun parameter hparameter =>
      TypedName.newline_not_mem_text (hparameters parameter hparameter)
        (htypes.1 parameter hparameter))
  have hclose : '\n' ∉ "): ".toList := by decide
  exact List.not_mem_append (newline_not_mem_displayName hname)
    (List.not_mem_cons_of_ne_of_not_mem (by decide)
      (List.not_mem_append (List.not_mem_append hlist hclose) htypes.2))

/-- What declares elements has names without line feeds if they have. -/
theorem Element.newline_not_mem_names {es : List (Element (StateM σ))} {typed : List TypedName}
    (h : List.Forall₂ Element.Declares es typed)
    (hnames : ∀ e ∈ es, '\n' ∉ e.field.name.toList) :
    ∀ item ∈ typed, '\n' ∉ item.name.toList := by
  induction h with
  | nil => exact List.forall_mem_nil _
  | cons hname _ ih =>
      obtain ⟨hhead, htail⟩ := List.forall_mem_cons.mp hnames
      exact List.forall_mem_cons.mpr ⟨hname ▸ hhead, ih htail⟩

/-- What declares methods has names without line feeds if they and their
parameters have. -/
theorem Method.newline_not_mem_names {methods : List (Method (StateM σ))}
    {typed : List TypedMethod} (h : List.Forall₂ Method.Declares methods typed)
    (hnames : ∀ method ∈ methods, ∀ e ∈ method.parameters ++ [method.element],
      '\n' ∉ e.field.name.toList) :
    ∀ method ∈ typed, '\n' ∉ method.name.toList ∧
      ∀ parameter ∈ method.parameters, '\n' ∉ parameter.name.toList := by
  induction h with
  | nil => exact List.forall_mem_nil _
  | cons hmethod _ ih =>
      obtain ⟨hhead, htail⟩ := List.forall_mem_cons.mp hnames
      rw [List.forall_mem_append, List.forall_mem_singleton] at hhead
      refine List.forall_mem_cons.mpr ⟨⟨hmethod.name ▸ hhead.2, ?_⟩, ih htail⟩
      exact Element.newline_not_mem_names hmethod.parameters hhead.1

/-- The items of a declaration are written without line feeds if there is none
in the names of its interface and in the types. -/
theorem Interface.Declares.newline_not_mem_text {i : Interface (StateM σ)} {d : Declaration}
    (h : i.Declares d) (hnames : ∀ e ∈ i.elements, '\n' ∉ e.field.name.toList)
    (htypes : ∀ text ∈ d.typeTexts, '\n' ∉ text) :
    ∀ item ∈ d.items, '\n' ∉ item.text settings := by
  rw [elements, List.forall_mem_append, List.forall_mem_flatMap] at hnames
  rw [Declaration.typeTexts, List.forall_mem_append, List.forall_mem_map,
    List.forall_mem_flatMap] at htypes
  have hmembers := Element.newline_not_mem_names h.members hnames.1
  have hmethods := Method.newline_not_mem_names h.methods hnames.2
  rw [Declaration.items, List.forall_mem_append, List.forall_mem_map, List.forall_mem_map]
  constructor
  · intro member hmember
    exact TypedName.newline_not_mem_text (hmembers member hmember) (htypes.1 member hmember)
  · intro method hmethod
    obtain ⟨hname, hparameters⟩ := hmethods method hmethod
    exact TypedMethod.newline_not_mem_text hname hparameters (htypes.2 method hmethod)

namespace Declaration

/-- A line of one level deeper is indented once more. -/
theorem indentLines_line (depth : Nat) {content : List Char} (h : '\n' ∉ content)
    (r : List Char) :
    indentLines settings.indent (line settings depth content ++ r) =
      line settings (depth + 1) content ++ indentLines settings.indent r := by
  have hspaces : '\n' ∉ List.replicate (settings.indent * depth) ' ' := fun hin =>
    absurd (List.eq_of_mem_replicate hin) (by decide)
  have hpad : List.replicate (settings.indent * (depth + 1)) ' ' =
      List.replicate settings.indent ' ' ++ List.replicate (settings.indent * depth) ' ' := by
    rw [← List.replicate_add, Nat.mul_succ, Nat.add_comm]
  rw [line, line, hpad, List.append_assoc, List.singleton_append,
    Text.indentLines_line (List.not_mem_append hspaces h)]
  simp only [List.append_assoc, List.cons_append, List.nil_append]

/-- The lines of items, indented, are their lines one level deeper. -/
theorem indentLines_items (depth : Nat) {items : List Item}
    (h : ∀ item ∈ items, '\n' ∉ item.text settings) (r : List Char) :
    indentLines settings.indent (items.flatMap (Item.line settings depth) ++ r) =
      items.flatMap (Item.line settings (depth + 1)) ++ indentLines settings.indent r := by
  induction items with
  | nil => rfl
  | cons item items ih =>
      obtain ⟨hitem, hitems⟩ := List.forall_mem_cons.mp h
      have hcontent : '\n' ∉ item.text settings ++ [';'] := List.not_mem_append hitem (by decide)
      rw [List.flatMap_cons, List.flatMap_cons, List.append_assoc, Item.line,
        indentLines_line depth hcontent, ih hitems, List.append_assoc, Item.line]

/-- The lines of an interface, indented, are its lines one level deeper. -/
theorem indentLines_body (depth : Nat) {d : Declaration} (hname : '\n' ∉ d.name.toList)
    (hitems : ∀ item ∈ d.items, '\n' ∉ item.text settings) :
    indentLines settings.indent (d.body settings depth) = d.body settings (depth + 1) := by
  have hopen : '\n' ∉ "export interface ".toList ++ d.name.toList ++ " \x7b".toList :=
    List.not_mem_append (List.not_mem_append (by decide) hname) (by decide)
  have hclose : indentLines settings.indent (line settings depth ['\x7d']) =
      line settings (depth + 1) ['\x7d'] := by
    have hbrace : '\n' ∉ ['\x7d'] := by decide
    simpa [indentLines, indentFrom] using indentLines_line depth hbrace []
  rw [body, body, indentLines_line depth hopen, indentLines_items (depth + 1) hitems, hclose]

/-- A namespace around a declaration wraps its text. -/
theorem text_within {d : Declaration} (hname : '\n' ∉ d.name.toList)
    (hitems : ∀ item ∈ d.items, '\n' ∉ item.text settings) {scope : List String}
    (hscope : scope ≠ []) : (d.within scope).text settings =
      enclosed settings.indent scope ((d.within []).text settings) := by
  have houter : (d.within []).text settings = d.body settings 0 :=
    text_of_scope_eq_nil (d := d.within []) rfl
  rw [houter]
  unfold enclosed
  rw [indentLines_body 0 hname hitems]
  exact text_of_scope_ne_nil (d := d.within scope) hscope

end Declaration

/-! ## emissions -/

variable {r : Resolver}

/-- What the elements resolve to, and in which order, does not depend on the
namespace. -/
theorem Interface.runIn_emit_within (i : Interface (StateM σ)) (scope : List String) (w : σ) :
    runIn ((i.within scope).emit r settings) w =
      Prod.map (Except.map fun d => String.ofList ((d.within scope).text settings)) id
        (runIn (i.typed r) w) := by
  have hemit : (i.within scope).emit r settings =
      (fun d => String.ofList ((d.within scope).text settings)) <$> i.typed r := by
    simp [emit, typed, within, Declaration.within]
  rw [hemit, runIn_map]

/-- Emissions of the same elements that come to the same up to a change of the
text do so with their runs noted. -/
theorem Interface.runIn_emit_noting_map {i j : Interface (StateM σ)} (h : i.elements = j.elements)
    {f : String → String} {w : σ} (hemit : runIn (i.emit r settings) w =
      Prod.map (Except.map f) id (runIn (j.emit r settings) w)) (log : List Nat) :
    runIn (i.noting.emit r settings) (w, log) =
      Prod.map (Except.map f) id (runIn (j.noting.emit r settings) (w, log)) := by
  rcases hj : runIn (j.emit r settings) w with ⟨error | text, w'⟩
  · obtain ⟨taken, htaken⟩ := (j.emit_eq_error_iff r settings w error w').mp hj
    have htaken' : FailsInTurn (Element.answer r) i.elements taken w error w' := h ▸ htaken
    rw [runIn_emit_noting_of_fails htaken log, runIn_emit_noting_of_fails htaken' log]
    rfl
  · rw [hj] at hemit
    rw [runIn_emit_noting_of_ok hj log, runIn_emit_noting_of_ok hemit log, h]
    rfl

/-- **A namespace wraps a declaration, and does nothing else.**  The interface's
name and those of its elements have no line feeds, and neither have the texts of
its types, where all elements answer.  Then an emission inside a namespace and
one outside end in the same world, with the same inferers run in the same order:
either both fail with the same error, or the text inside is the opening line of
the namespace, the text outside with every line indented by one level more, and
the closing brace. -/
theorem Interface.emit_within (i : Interface (StateM σ)) (r : Resolver)
    (settings : EmitSettings) (scope : List String) (hscope : scope ≠ []) (w : σ) (log : List Nat)
    (hname : '\n' ∉ i.name.toList) (hnames : ∀ e ∈ i.elements, '\n' ∉ e.field.name.toList)
    (htypes : ∀ texts w', InTurn (Element.answer r) i.elements w texts w' →
      ∀ text ∈ texts, '\n' ∉ text) :
    runIn ((i.within scope).emit r settings) w =
        Prod.map (Except.map (namespaced settings.indent scope)) id
          (runIn ((i.within []).emit r settings) w) ∧
      runIn ((i.within scope).noting.emit r settings) (w, log) =
        Prod.map (Except.map (namespaced settings.indent scope)) id
          (runIn ((i.within []).noting.emit r settings) (w, log)) := by
  have hemit : runIn ((i.within scope).emit r settings) w =
      Prod.map (Except.map (namespaced settings.indent scope)) id
        (runIn ((i.within []).emit r settings) w) := by
    rw [i.runIn_emit_within, i.runIn_emit_within]
    rcases hrun : runIn (i.typed r) w with ⟨error | d, w'⟩
    · rfl
    · obtain ⟨_, ⟨hd, rfl⟩, hturn⟩ := (resolves_interface r i).ok hrun
      have hitems : ∀ item ∈ d.items, '\n' ∉ item.text settings :=
        hd.newline_not_mem_text hnames (htypes _ _ hturn)
      have htext : String.ofList ((d.within scope).text settings) =
          namespaced settings.indent scope (String.ofList ((d.within []).text settings)) := by
        rw [namespaced, String.toList_ofList,
          Declaration.text_within (hd.name ▸ hname) hitems hscope]
      simp only [Prod.map_apply, Except.map, id, htext]
  have helements : (i.within scope).elements = (i.within []).elements := rfl
  exact ⟨hemit, runIn_emit_noting_map helements hemit log⟩

/-- A circle whose inferers count their runs; the radius may be refused. -/
def Interface.circle (refused : Bool) : Interface (StateM Nat) where
  scope := []
  name := "Circle"
  members := [.new "center_x" (.primitive .f64),
    (Element.new "radius" (.primitive .f64)).inferName fun field => do
      modify (· + 1)
      if refused then throw (.rejected field.name "unsupported")
      pure "Length"]
  methods := [⟨.new "contains_point" (.primitive .bool),
    [(Element.new "p" (.named "geo::Point" [])).inferName fun _ => do
      modify (· + 1)
      pure "Point"]⟩]

/-- The text of the circle. -/
def circleText : String :=
  "export interface Circle \x7b\n  centerX: number;\n  radius: Length;\n" ++
    "  containsPoint(p: Point): boolean;\n\x7d\n"

/-- The text of the circle in a namespace. -/
def namespacedCircleText : String :=
  "export namespace geo.shapes \x7b\n  export interface Circle \x7b\n" ++
    "    centerX: number;\n    radius: Length;\n" ++
    "    containsPoint(p: Point): boolean;\n  \x7d\n\x7d\n"

/-- The circle in a namespace of two segments, as it is and refused. -/
theorem Interface.emit_within_circle :
    let scope := ["geo", "shapes"]
    let settings : EmitSettings := ⟨2, true⟩
    (∀ refused, (∀ e ∈ (circle refused).elements, '\n' ∉ e.field.name.toList) ∧
      ∀ texts w', InTurn (Element.answer .default) (circle refused).elements 0 texts w' →
        ∀ text ∈ texts, '\n' ∉ text) ∧
    runIn (((circle false).within []).emit .default settings) 0 = (.ok circleText, 2) ∧
    runIn (((circle false).within scope).emit .default settings) 0 =
      (.ok namespacedCircleText, 2) ∧
    runIn (((circle true).within scope).noting.emit .default settings) (0, []) =
      (.error (.rejected "radius" "unsupported"), (1, [1])) := by
  intro scope settings
  have hnames : ∀ refused, ∀ e ∈ (circle refused).elements, '\n' ∉ e.field.name.toList := by
    intro refused
    simp only [circle, elements, List.forall_mem_append, List.forall_mem_cons]
    cases refused <;> decide
  have htypes : ∀ refused texts w',
      InTurn (Element.answer .default) (circle refused).elements 0 texts w' →
        ∀ text ∈ texts, '\n' ∉ text := by
    intro refused texts w' hturn
    cases refused with
    | false =>
        obtain ⟨rfl, -⟩ := hturn.unique (.cons rfl (.cons rfl (.cons rfl (.cons rfl .nil))))
        decide
    | true => exact absurd (.later rfl (.here rfl)) hturn.not_fails
  have houter : runIn (((circle false).within []).emit .default settings) 0 =
      (.ok circleText, 2) := rfl
  have hinner : namespaced settings.indent scope circleText = namespacedCircleText := by
    decide +kernel
  have hplain := ((circle false).emit_within .default settings scope (by decide) 0 [] (by decide)
    (hnames false) (htypes false)).1
  have hrefused := ((circle true).emit_within .default settings scope (by decide) 0 [] (by decide)
    (hnames true) (htypes true)).2
  rw [houter, Prod.map_apply, Except.map, hinner] at hplain
  exact ⟨fun refused => ⟨hnames refused, htypes refused⟩, houter, hplain, hrefused.trans rfl⟩

end DeclGen
