import DeclGen.Proofs.Emission.Order

/-!
# DeclGen.Proofs.Emission.Written

The text of an interface, written out from the names of its elements and from
their answers.

1. Each member stands in a line with its answer (`memberLine`), and each method
   in one with the answers of its parameters and its own (`methodLine`).
2. These lines stand inside the braces of the interface and of its namespace, at
   the depth of nesting (`Interface.written`).
3. A declaration is laid out like this, whatever made it
   (`Interface.Declares.text_eq_written`), so this is what an emission gives
   (`Interface.emit_eq_ok_iff`).
-/

namespace DeclGen

variable {m : Type → Type} {σ : Type}

/-! ## lines -/

/-- The line of a member: `name: type;`. -/
def memberLine (settings : EmitSettings) (depth : Nat) (name type : List Char) : List Char :=
  List.replicate (settings.indent * depth) ' ' ++ name ++ ": ".toList ++ type ++ ";\n".toList

/-- The line of a method: `name(parameter: type, parameter: type): type;`. -/
def methodLine (settings : EmitSettings) (depth : Nat) (name : List Char)
    (parameters : List (List Char × List Char)) (returns : List Char) : List Char :=
  List.replicate (settings.indent * depth) ' ' ++ name ++ "(".toList ++
    List.intercalate ", ".toList
      (parameters.map fun parameter => parameter.1 ++ ": ".toList ++ parameter.2) ++
    "): ".toList ++ returns ++ ";\n".toList

/-! ## interfaces -/

/-- The name of an element as it is written. -/
def Element.writtenName (settings : EmitSettings) (e : Element m) : List Char :=
  if settings.camelCase then camelCase e.field.name.toList else e.field.name.toList

/-- The lines of members with their answers. -/
def Element.writtenAll (settings : EmitSettings) (depth : Nat) (members : List (Element m))
    (answers : List (List Char)) : List Char :=
  (List.zipWith (memberLine settings depth) (members.map (Element.writtenName settings))
    answers).flatten

/-- The lines of methods: each takes the answers of its parameters and then its
own. -/
def Method.writtenAll (settings : EmitSettings) (depth : Nat) :
    List (Method m) → List (List Char) → List Char
  | [], _ => []
  | method :: methods, answers =>
    methodLine settings depth (method.element.writtenName settings)
      ((method.parameters.map (Element.writtenName settings)).zip answers)
      (answers.getD method.parameters.length []) ++
    writtenAll settings depth methods (answers.drop (method.parameters.length + 1))

/-- The text of an interface at some depth of nesting, without its namespace. -/
def Interface.writtenBody (settings : EmitSettings) (depth : Nat) (i : Interface m)
    (answers : List (List Char)) : List Char :=
  let spaces := List.replicate (settings.indent * depth) ' '
  spaces ++ "export interface ".toList ++ i.name.toList ++ " \x7b\n".toList ++
    Element.writtenAll settings (depth + 1) i.members answers ++
    Method.writtenAll settings (depth + 1) i.methods (answers.drop i.members.length) ++
    spaces ++ "\x7d\n".toList

/-- The text of an interface with the answers of its elements in their order. -/
def Interface.written (settings : EmitSettings) (i : Interface m) (answers : List (List Char)) :
    List Char :=
  match i.scope with
  | [] => i.writtenBody settings 0 answers
  | scope => "export namespace ".toList ++ List.intercalate ['.'] (scope.map String.toList) ++
      " \x7b\n".toList ++ i.writtenBody settings 1 answers ++ "\x7d\n".toList

/-! ## declarations -/

variable {settings : EmitSettings}

/-- A name and a type that declare an element are laid out with its name. -/
theorem Element.Declares.text_eq {e : Element (StateM σ)} {typed : TypedName}
    (h : e.Declares typed) :
    typed.text settings = e.writtenName settings ++ ": ".toList ++ typed.type.text := by
  rw [TypedName.text, h]
  rfl

/-- What declares members is laid out in their lines. -/
theorem Element.lines_eq_written {es : List (Element (StateM σ))} {typed : List TypedName}
    (h : List.Forall₂ Element.Declares es typed) (depth : Nat) (more : List (List Char)) :
    typed.map (fun t => Declaration.line settings depth (t.text settings ++ [';'])) =
      List.zipWith (memberLine settings depth) (es.map (Element.writtenName settings))
        (typed.map (fun t => t.type.text) ++ more) := by
  induction h with
  | nil => rfl
  | @cons e t es typed hname _ ih =>
      have hline : Declaration.line settings depth (t.text settings ++ [';']) =
          memberLine settings depth (e.writtenName settings) t.type.text := by
        simp [Declaration.line, memberLine, hname.text_eq]
      rw [List.map_cons, List.map_cons, List.map_cons, List.cons_append, List.zipWith_cons_cons,
        hline, ih]

/-- What declares parameters is laid out with their names. -/
theorem Element.parameters_eq_written {es : List (Element (StateM σ))} {typed : List TypedName}
    (h : List.Forall₂ Element.Declares es typed) (more : List (List Char)) :
    typed.map (TypedName.text settings) =
      ((es.map (Element.writtenName settings)).zip
        (typed.map (fun t => t.type.text) ++ more)).map fun parameter =>
          parameter.1 ++ ": ".toList ++ parameter.2 := by
  induction h with
  | nil => rfl
  | cons hname _ ih =>
      rw [List.map_cons, List.map_cons, List.map_cons, List.cons_append, List.zip_cons_cons,
        List.map_cons, hname.text_eq, ih]

/-- What declares methods is laid out in their lines. -/
theorem Method.lines_eq_written {methods : List (Method (StateM σ))} {typed : List TypedMethod}
    (h : List.Forall₂ Method.Declares methods typed) (depth : Nat) :
    (typed.map fun t => Declaration.line settings depth (t.text settings ++ [';'])).flatten =
      Method.writtenAll settings depth methods (typed.flatMap TypedMethod.typeTexts) := by
  induction h with
  | nil => rfl
  | @cons method t methods typed hmethod _ ih =>
      have hlength : (t.parameters.map fun p => p.type.text).length = method.parameters.length := by
        rw [List.length_map, hmethod.parameters.length_eq]
      have hline : Declaration.line settings depth (t.text settings ++ [';']) =
          methodLine settings depth (method.element.writtenName settings)
            ((method.parameters.map (Element.writtenName settings)).zip
              (t.typeTexts ++ typed.flatMap TypedMethod.typeTexts)) t.returns.text := by
        have hname : settings.displayName t.name = method.element.writtenName settings := by
          rw [hmethod.name]
          rfl
        rw [TypedMethod.typeTexts, List.append_assoc, methodLine,
          ← Element.parameters_eq_written hmethod.parameters]
        simp [Declaration.line, TypedMethod.text, hname]
      have hreturns : (t.typeTexts ++ typed.flatMap TypedMethod.typeTexts).getD
          method.parameters.length [] = t.returns.text := by
        simp [TypedMethod.typeTexts, ← hlength]
      have hdrop : (t.typeTexts ++ typed.flatMap TypedMethod.typeTexts).drop
          (method.parameters.length + 1) = typed.flatMap TypedMethod.typeTexts :=
        List.drop_left' hmethod.length_typeTexts
      rw [List.map_cons, List.flatten_cons, List.flatMap_cons, Method.writtenAll, hline, ih,
        hreturns, hdrop]

/-- What declares an interface is laid out with its name and those of its
elements. -/
theorem Interface.Declares.text_eq_written {i : Interface (StateM σ)} {d : Declaration}
    (h : i.Declares d) : d.text settings = i.written settings d.typeTexts := by
  have hdrop : d.typeTexts.drop i.members.length = d.methods.flatMap TypedMethod.typeTexts :=
    List.drop_left' (by rw [List.length_map, h.members.length_eq])
  have hbody : ∀ depth, Declaration.line settings depth ("export interface ".toList ++
      d.name.toList ++ " \x7b".toList) ++
      (d.members.map fun t => Declaration.line settings (depth + 1)
        (t.text settings ++ [';'])).flatten ++
      (d.methods.map fun t => Declaration.line settings (depth + 1)
        (t.text settings ++ [';'])).flatten ++
      Declaration.line settings depth ['\x7d'] = i.writtenBody settings depth d.typeTexts := by
    intro depth
    rw [Interface.writtenBody, hdrop, Method.lines_eq_written h.methods,
      Element.lines_eq_written h.members (depth + 1) (d.methods.flatMap TypedMethod.typeTexts),
      h.name, Element.writtenAll, Declaration.typeTexts]
    simp [Declaration.line]
  cases hscope : i.scope with
  | nil =>
      have hnil : d.scope = [] := h.scope.trans hscope
      rw [Interface.written, hscope, ← hbody 0, Declaration.text, Declaration.lines]
      simp [Declaration.depth, hnil]
  | cons segment scope =>
      have hcons : d.scope = segment :: scope := h.scope.trans hscope
      rw [Interface.written, hscope, ← hbody 1, Declaration.text, Declaration.lines]
      simp [Declaration.depth, hcons, Declaration.line]

/-! ## the outcome of an emission -/

/-- An emission succeeds if and only if all elements answer in turn; its text is
written out with the answers. -/
theorem Interface.emit_eq_ok_iff (r : Resolver) (settings : EmitSettings)
    (i : Interface (StateM σ)) (w : σ) (text : String) (w' : σ) :
    runIn (i.emit r settings) w = (.ok text, w') ↔
      ∃ answers, InTurn (Element.answer r) i.elements w answers w' ∧
        text = String.ofList (i.written settings answers) := by
  constructor
  · intro h
    obtain ⟨_, ⟨d, hd, rfl, rfl⟩, hturn⟩ := (resolves_emit r settings i).ok h
    exact ⟨d.typeTexts, hturn, by rw [hd.text_eq_written]⟩
  · rintro ⟨answers, hturn, rfl⟩
    rcases hrun : runIn (i.emit r settings) w with ⟨error | text, w₁⟩
    · obtain ⟨taken, htaken⟩ := (resolves_emit r settings i).error hrun
      exact absurd htaken hturn.not_fails
    · obtain ⟨_, ⟨d, hd, rfl, rfl⟩, hturn'⟩ := (resolves_emit r settings i).ok hrun
      obtain ⟨rfl, rfl⟩ := hturn'.unique hturn
      rw [hd.text_eq_written]

/-- An emission fails if and only if an element fails in turn, with its error. -/
theorem Interface.emit_eq_error_iff (r : Resolver) (settings : EmitSettings)
    (i : Interface (StateM σ)) (w : σ) (error : InferError) (w' : σ) :
    runIn (i.emit r settings) w = (.error error, w') ↔
      ∃ taken, FailsInTurn (Element.answer r) i.elements taken w error w' := by
  constructor
  · exact (resolves_emit r settings i).error
  · rintro ⟨taken, htaken⟩
    rcases hrun : runIn (i.emit r settings) w with ⟨error' | text, w₁⟩
    · obtain ⟨taken', htaken'⟩ := (resolves_emit r settings i).error hrun
      obtain ⟨-, rfl, rfl⟩ := htaken'.unique htaken
      rfl
    · obtain ⟨texts, -, hturn⟩ := (resolves_emit r settings i).ok hrun
      exact absurd htaken hturn.not_fails

end DeclGen
