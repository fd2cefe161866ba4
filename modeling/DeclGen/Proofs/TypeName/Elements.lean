import DeclGen.Proofs.Text.Brackets
import DeclGen.Proofs.TypeName.Flat

/-!
# DeclGen.Proofs.TypeName.Elements

When the brackets of an array stand behind the whole text of its element.

An element is parenthesised by its outermost node, and its text is made of many.
The texts of types are tame if their names are (`tame_text`), so the bars outside
are those of the outermost nodes, down to where brackets begin.  There is one
lemma for each kind of node.

* `text_array_eq_iff`: an element is parenthesised if and only if it is loose.
* `HidesUnion`: a union of several variants shows its bars, but another node
  above it decides on the parentheses.
* `array_parenthesised_iff`: just these elements are not parenthesised as they
  should be.
-/

namespace DeclGen

open Text

namespace TypeName

/-! ## tame texts -/

/-- The brackets and quotes match in each name of a type. -/
def Balanced (t : TypeName) : Prop :=
  ∀ u ∈ t.nodes, ∀ name ∈ u.simpleName?, Text.Balanced name.toList

/-- The names of a type are balanced if the one at the node is, and those of all
types right below it are. -/
theorem balanced_iff {t : TypeName} : t.Balanced ↔
    (∀ name ∈ t.simpleName?, Text.Balanced name.toList) ∧ ∀ c ∈ t.children, c.Balanced :=
  forall_nodes

theorem Balanced.child {t c : TypeName} (h : t.Balanced) (hc : c ∈ t.children) : c.Balanced :=
  (balanced_iff.mp h).2 c hc

/-- A text is tame with parentheses or without. -/
theorem tame_parenthesise {u : List Char} (h : Tame u) (loose : Bool) :
    Tame (parenthesise loose u) := by
  cases loose with
  | false => exact h
  | true => exact h.enclose (by decide) (by decide)

/-- Tame texts with commas between them are tame. -/
theorem tame_commas {ts : List TypeName} (h : ∀ t ∈ ts, Tame t.text) :
    Tame (List.intercalate ", ".toList (ts.map text)) :=
  tame_intercalate (Balanced.tame rfl) (List.forall_mem_map.mpr h)

/-- What stands between the braces of a dictionary. -/
def indexText (key value : TypeName) : List Char :=
  (' ' :: ('[' :: (("key: ".toList ++ key.text) ++ [']'])) ++ (": ".toList ++ value.text)) ++ [' ']

theorem text_dictionary_eq (key value : TypeName) :
    (dictionary key value).text = '{' :: (indexText key value ++ ['}']) := by
  rw [text_dictionary]
  simp [indexText]

theorem tame_indexText {key value : TypeName} (hkey : Tame key.text) (hvalue : Tame value.text) :
    Tame (indexText key value) := by
  have hblank : Tame [' '] := Balanced.tame rfl
  have hlabel : Tame "key: ".toList := Balanced.tame rfl
  have hcolon : Tame ": ".toList := Balanced.tame rfl
  have hindex : Tame ('[' :: (("key: ".toList ++ key.text) ++ [']'])) :=
    (hlabel.append hkey).enclose (by decide) (by decide)
  exact ((hblank.append hindex).append (hcolon.append hvalue)).append hblank

/-- The text of a type is tame if its names are balanced. -/
theorem tame_text {t : TypeName} (h : t.Balanced) : Tame t.text := by
  induction t using induction_children with
  | step t ih =>
    obtain ⟨hname, hbelow⟩ := balanced_iff.mp h
    have htame : ∀ c ∈ t.children, Tame c.text := fun c hc => ih c hc (hbelow c hc)
    cases t with
    | named name arguments =>
        have hhead : Tame name.toList := (hname name rfl).tame
        rw [text_named]
        cases arguments with
        | nil => exact hhead.append tame_nil
        | cons t ts => exact hhead.append ((tame_commas htame).enclose (by decide) (by decide))
    | array element =>
        have helement : Tame element.text := htame element List.mem_cons_self
        rw [text_array]
        exact (tame_parenthesise helement element.isLoose).append (Balanced.tame rfl)
    | tuple items =>
        rw [text_tuple]
        exact (tame_commas htame).enclose (by decide) (by decide)
    | dictionary key value =>
        rw [text_dictionary_eq]
        have hkey : Tame key.text := htame key (by simp [children])
        have hvalue : Tame value.text := htame value (by simp [children])
        exact (tame_indexText hkey hvalue).enclose (by decide) (by decide)
    | union ts =>
        rw [text_union]
        exact tame_intercalate (Balanced.tame rfl) (List.forall_mem_map.mpr htame)

/-! ## bars outside -/

/-- Whether a type has a bar outside all brackets and quotes of its text. -/
def showsBar (t : TypeName) : Bool := hasOutsideBar t.text

theorem hasOutsideBar_toString (t : TypeName) : hasOutsideBar (toString t).toList = t.showsBar :=
  congrArg hasOutsideBar String.toList_ofList

section Bars

variable {name : String} {arguments items : List TypeName} {element key value : TypeName}

/-- Arguments stand in brackets, so only the name shows a bar. -/
theorem showsBar_named (h : (named name arguments).Balanced) :
    (named name arguments).showsBar = hasOutsideBar name.toList := by
  have hname : Text.Balanced name.toList := (balanced_iff.mp h).1 name rfl
  have harguments : hasOutsideBar (argumentsText arguments) = false := by
    cases arguments with
    | nil => rfl
    | cons t ts =>
        have htame := tame_commas fun u hu => tame_text (h.child hu)
        exact hasOutsideBar_enclose htame (by decide) (by decide)
  rw [showsBar, text_named, hasOutsideBar_append hname.tame, harguments, Bool.or_false]

/-- The bars of an element are shown unless it is parenthesised. -/
theorem showsBar_array (h : element.Balanced) :
    (array element).showsBar = (!element.isLoose && element.showsBar) := by
  have htame : Tame element.text := tame_text h
  have hbrackets : hasOutsideBar ['[', ']'] = false := rfl
  rw [showsBar, text_array, hasOutsideBar_append (tame_parenthesise htame element.isLoose),
    hbrackets, Bool.or_false]
  cases element.isLoose with
  | false => rfl
  | true => exact hasOutsideBar_enclose htame (by decide) (by decide)

theorem showsBar_tuple (h : ∀ t ∈ items, t.Balanced) : (tuple items).showsBar = false := by
  rw [showsBar, text_tuple]
  have htame := tame_commas fun t ht => tame_text (h t ht)
  exact hasOutsideBar_enclose htame (by decide) (by decide)

theorem showsBar_dictionary (hkey : key.Balanced) (hvalue : value.Balanced) :
    (dictionary key value).showsBar = false := by
  rw [showsBar, text_dictionary_eq]
  have htame := tame_indexText (tame_text hkey) (tame_text hvalue)
  exact hasOutsideBar_enclose htame (by decide) (by decide)

/-- A union of two variants at least shows the bar between them. -/
theorem showsBar_union {ts : List TypeName} (h : ∀ t ∈ ts, t.Balanced) (several : 2 ≤ ts.length) :
    (union ts).showsBar = true := by
  match ts, several with
  | a :: b :: ts, _ =>
      rw [showsBar, text_union]
      exact hasOutsideBar_intercalate (tame_text (h a List.mem_cons_self)) rfl (Balanced.tame rfl)

/-- A union of one variant shows what the variant shows. -/
theorem showsBar_union_singleton (t : TypeName) : (union [t]).showsBar = t.showsBar := rfl

end Bars

/-! ## elements -/

/-- An element is parenthesised if and only if it is loose. -/
theorem text_array_eq_iff {element : TypeName} :
    (array element).text = '(' :: (element.text ++ ")[]".toList) ↔ element.isLoose = true := by
  rw [text_array]
  constructor
  · intro h
    by_contra hloose
    rw [Bool.not_eq_true] at hloose
    have hlength := congrArg List.length h
    simp [hloose, parenthesise] at hlength
  · intro hloose
    simp [hloose, parenthesise]

/-- The same for the texts as they are printed. -/
theorem toString_array_eq_iff {element : TypeName} :
    toString (array element) = "(" ++ toString element ++ ")[]" ↔ element.isLoose = true := by
  rw [← text_array_eq_iff, ← String.toList_inj]
  show (String.ofList _).toList = ("(" ++ String.ofList _ ++ ")[]").toList ↔ _
  simp

/-- A union of several variants as the only variant of a union, and unions of
this one variant and arrays around them. -/
inductive HidesUnion : TypeName → Prop
  | single {variants : List TypeName} (several : 2 ≤ variants.length) :
      HidesUnion (union [union variants])
  | union {t : TypeName} (inner : HidesUnion t) : HidesUnion (union [t])
  | array {t : TypeName} (inner : HidesUnion t) : HidesUnion (array t)

/-- All names in a type are runs of letters, numbers, `_` and `.`. -/
def NamedPlainly (t : TypeName) : Prop :=
  ∀ u ∈ t.nodes, ∀ name ∈ u.simpleName?, IsRun isNameChar name.toList

instance : DecidablePred NamedPlainly := fun t =>
  inferInstanceAs (Decidable (∀ u ∈ t.nodes, ∀ name ∈ u.simpleName?, IsRun isNameChar name.toList))

/-- A plain name has neither brackets nor quotes nor bars. -/
theorem balanced_of_isRun {name : String} (h : IsRun isNameChar name.toList) :
    Text.Balanced name.toList ∧ hasOutsideBar name.toList = false := by
  have hmarks : (marks.all fun c => !isNameChar c) = true := by decide
  refine balanced_of_no_mark fun c hc hmark => ?_
  have hno : (!isNameChar c) = true := List.all_eq_true.mp hmarks c hmark
  rw [h.2 c hc] at hno
  contradiction

theorem NamedPlainly.balanced {t : TypeName} (h : t.NamedPlainly) : t.Balanced :=
  fun u hu name hname => (balanced_of_isRun (h u hu name hname)).1

/-- A type with plain names is so at its node, and all types right below it are. -/
theorem namedPlainly_iff {t : TypeName} : t.NamedPlainly ↔
    (∀ name ∈ t.simpleName?, IsRun isNameChar name.toList) ∧ ∀ c ∈ t.children, c.NamedPlainly :=
  forall_nodes

/-- What shows a bar and is loose is a union of several variants. -/
theorem exists_union_of_showsBar {t : TypeName} (h : t.Balanced) (hbar : t.showsBar = true)
    (hloose : t.isLoose = true) : ∃ ts : List TypeName, t = .union ts ∧ 2 ≤ ts.length := by
  match t, hloose with
  | .union (a :: b :: ts), _ => exact ⟨a :: b :: ts, rfl, by simp⟩
  | .dictionary key value, _ =>
      have hno : (dictionary key value).showsBar = false :=
        showsBar_dictionary (h.child (by simp [children])) (h.child (by simp [children]))
      exact absurd (hbar.symm.trans hno) (by decide)

/-- A type with plain names hides a union if and only if it shows a bar without
being loose. -/
theorem hidesUnion_iff {t : TypeName} (h : t.NamedPlainly) :
    t.HidesUnion ↔ t.showsBar = true ∧ t.isLoose = false := by
  induction t using induction_children with
  | step t ih =>
    obtain ⟨hname, hbelow⟩ := namedPlainly_iff.mp h
    have hbalanced : ∀ c ∈ t.children, c.Balanced := fun c hc => (hbelow c hc).balanced
    have hhides : ∀ c ∈ t.children, (c.HidesUnion ↔ c.showsBar = true ∧ c.isLoose = false) :=
      fun c hc => ih c hc (hbelow c hc)
    cases t with
    | named name arguments =>
        have hbar : (named name arguments).showsBar = false := by
          rw [showsBar_named h.balanced, (balanced_of_isRun (hname name rfl)).2]
        exact iff_of_false nofun (by simp [hbar])
    | array element =>
        have helement := hhides element List.mem_cons_self
        have harray : (array element).HidesUnion ↔ element.HidesUnion :=
          ⟨fun | .array inner => inner, .array⟩
        rw [harray, helement, showsBar_array (hbalanced element List.mem_cons_self)]
        simp [isLoose, and_comm]
    | tuple items =>
        have hbar : (tuple items).showsBar = false := showsBar_tuple hbalanced
        exact iff_of_false nofun (by simp [hbar])
    | dictionary key value => exact iff_of_false nofun (by simp [isLoose])
    | union ts =>
        match ts with
        | [] =>
            have hbar : (TypeName.union []).showsBar = false := rfl
            exact iff_of_false nofun (by simp [hbar])
        | [t] =>
            have hself : t.Balanced := hbalanced t List.mem_cons_self
            have ht := hhides t List.mem_cons_self
            rw [showsBar_union_singleton]
            constructor
            · intro hhide
              cases hhide with
              | single several =>
                  exact ⟨showsBar_union (fun _ hv => hself.child hv) several, rfl⟩
              | union inner => exact ⟨(ht.mp inner).1, rfl⟩
            · rintro ⟨hbar, -⟩
              cases hloose : t.isLoose with
              | false => exact .union (ht.mpr ⟨hbar, hloose⟩)
              | true =>
                  obtain ⟨variants, rfl, several⟩ :=
                    exists_union_of_showsBar hself hbar hloose
                  exact .single several
        | a :: b :: ts => exact iff_of_false nofun (by simp [isLoose])

/-- **An array suffix applies to the whole element, unless a union is hidden.**
The element is any type whose names are plain, whatever its unions are like.  If
its text has a bar outside all brackets, the text of its array is that text in
parentheses with the brackets behind it; and this holds just of the types that
hide no union. -/
theorem array_parenthesised_iff (t : TypeName) (h : t.NamedPlainly) :
    (hasOutsideBar (toString t).toList = true →
        toString (array t) = "(" ++ toString t ++ ")[]") ↔ ¬ t.HidesUnion := by
  rw [toString_array_eq_iff, hidesUnion_iff h, hasOutsideBar_toString, not_and, Bool.not_eq_false]

/-- A union that is one of several variants is no exception. -/
theorem array_parenthesised_variants :
    let nested := union [union [simple "A", simple "B"], array (union [simple "C"])]
    nested.NamedPlainly ∧ toString (array nested) = "(A | B | C[])[]" := by
  have h : (union [union [simple "A", simple "B"], array (union [simple "C"])]).NamedPlainly := by
    decide
  exact ⟨h, (array_parenthesised_iff _ h).mpr nofun (by decide)⟩

/-- A union that is the only variant of a union shows its bar, and only its last
variant becomes an array. -/
theorem array_not_parenthesised :
    let hidden := union [union [simple "A", simple "B"]]
    (hidden.NamedPlainly ∧ ∀ u ∈ hidden.nodes, u ≠ union []) ∧
      hasOutsideBar (toString hidden).toList = true ∧ toString hidden = "A | B" ∧
      toString (array hidden) = "A | B[]" ∧
      toString (array hidden) ≠ "(" ++ toString hidden ++ ")[]" := by
  decide

end TypeName

end DeclGen
