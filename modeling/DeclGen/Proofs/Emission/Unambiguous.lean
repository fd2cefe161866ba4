import DeclGen.Proofs.Emission.Order
import DeclGen.Proofs.Native.Printed
import DeclGen.Proofs.TypeName.Unambiguous

/-!
# DeclGen.Proofs.Emission.Unambiguous

The text of a declaration says which names and types are in it.

The elements of an interface stand in lines of their own (`itemLine`), and each
line shows its element: the name ends at `:` or at `(`, the parameters end at
`)`, and the types end at `;`.  So the lines of the elements are found again,
down to the closing brace, with which no name starts (`body_append_inj`).  Around
them stand the names of the interface and of its namespace.

* `Within` says that all names in a declaration are identifiers, and something
  of all types in it.
* `Declaration.eq_of_text_eq`: declarations with normal types are the same if
  their texts are.
* `Interface.emit_unambiguous` says so of emissions.
-/

namespace DeclGen

open Text

/-! ## names and types in declarations -/

/-- The name is an identifier, and the type is of a certain kind. -/
structure TypedName.Within (P : TypeName → Prop) (item : TypedName) : Prop where
  name : IsRun Native.isIdentifierChar item.name.toList
  type : P item.type

/-- The names are identifiers, and the types are of a certain kind. -/
structure TypedMethod.Within (P : TypeName → Prop) (method : TypedMethod) : Prop where
  name : IsRun Native.isIdentifierChar method.name.toList
  parameters : ∀ parameter ∈ method.parameters, parameter.Within P
  returns : P method.returns

/-- All names are identifiers, and all types are of a certain kind. -/
structure Declaration.Within (P : TypeName → Prop) (d : Declaration) : Prop where
  scope : ∀ segment ∈ d.scope, IsRun Native.isIdentifierChar segment.toList
  name : IsRun Native.isIdentifierChar d.name.toList
  members : ∀ member ∈ d.members, member.Within P
  methods : ∀ method ∈ d.methods, method.Within P

section

variable (P : TypeName → Prop) [DecidablePred P]

instance : DecidablePred (TypedName.Within P) := fun item =>
  decidable_of_iff (IsRun Native.isIdentifierChar item.name.toList ∧ P item.type)
    ⟨fun ⟨name, type⟩ => ⟨name, type⟩, fun h => ⟨h.name, h.type⟩⟩

instance : DecidablePred (TypedMethod.Within P) := fun method =>
  decidable_of_iff (IsRun Native.isIdentifierChar method.name.toList ∧
      (∀ parameter ∈ method.parameters, parameter.Within P) ∧ P method.returns)
    ⟨fun ⟨name, parameters, returns⟩ => ⟨name, parameters, returns⟩,
      fun h => ⟨h.name, h.parameters, h.returns⟩⟩

instance : DecidablePred (Declaration.Within P) := fun d =>
  decidable_of_iff ((∀ segment ∈ d.scope, IsRun Native.isIdentifierChar segment.toList) ∧
      IsRun Native.isIdentifierChar d.name.toList ∧ (∀ member ∈ d.members, member.Within P) ∧
      ∀ method ∈ d.methods, method.Within P)
    ⟨fun ⟨scope, name, members, methods⟩ => ⟨scope, name, members, methods⟩,
      fun h => ⟨h.scope, h.name, h.members, h.methods⟩⟩

end

/-- The typed name with its type flattened. -/
def TypedName.flat (item : TypedName) : TypedName := { item with type := item.type.flat }

/-- The method with its types flattened. -/
def TypedMethod.flat (method : TypedMethod) : TypedMethod :=
  ⟨method.name, method.parameters.map TypedName.flat, method.returns.flat⟩

/-- The declaration with all its types flattened. -/
def Declaration.flat (d : Declaration) : Declaration :=
  ⟨d.scope, d.name, d.members.map TypedName.flat, d.methods.map TypedMethod.flat⟩

theorem TypedName.Within.flat {item : TypedName} (h : item.Within TypeName.Plain) :
    item.flat.Within TypeName.Normal := ⟨h.name, TypeName.normal_flat h.type⟩

theorem TypedMethod.Within.flat {method : TypedMethod} (h : method.Within TypeName.Plain) :
    method.flat.Within TypeName.Normal :=
  ⟨h.name, List.forall_mem_map.mpr fun p hp => (h.parameters p hp).flat,
    TypeName.normal_flat h.returns⟩

theorem Declaration.Within.flat {d : Declaration} (h : d.Within TypeName.Plain) :
    d.flat.Within TypeName.Normal :=
  ⟨h.scope, h.name, List.forall_mem_map.mpr fun p hp => (h.members p hp).flat,
    List.forall_mem_map.mpr fun p hp => (h.methods p hp).flat⟩

/-! ## elements -/

section Layout

variable {settings : EmitSettings}

/-- The text of a typed name, if names are as they are. -/
theorem TypedName.text_eq (hnames : settings.camelCase = false) (item : TypedName) :
    item.text settings = item.name.toList ++ (": ".toList ++ item.type.text) := by
  rw [TypedName.text, EmitSettings.displayName, hnames, List.append_assoc]
  rfl

/-- The text of a method, if names are as they are. -/
theorem TypedMethod.text_eq (hnames : settings.camelCase = false) (method : TypedMethod) :
    method.text settings = method.name.toList ++
      ('(' :: (List.intercalate ", ".toList (method.parameters.map (TypedName.text settings)) ++
        ("): ".toList ++ method.returns.text))) := by
  rw [TypedMethod.text, EmitSettings.displayName, hnames, List.append_assoc]
  rfl

/-- A typed name is told. -/
theorem TypedName.selfDelimiting (hnames : settings.camelCase = false) {item : TypedName}
    (h : item.Within TypeName.Normal) :
    SelfDelimiting (TypedName.text settings) (TypedName.Within TypeName.Normal)
      TypeName.EndsType item := by
  intro other r s hother hr hs heq
  obtain ⟨name, type⟩ := item
  obtain ⟨name', type'⟩ := other
  rw [TypedName.text_eq hnames, TypedName.text_eq hnames] at heq
  simp only [List.append_assoc] at heq
  have hcolon : ∀ u, Native.Ends (": ".toList ++ u) := fun u => Native.ends_cons (by decide)
  obtain ⟨hname, htail⟩ := run_append_inj h.name.2 hother.name.2 (hcolon _) (hcolon _) heq
  obtain ⟨htype, hrest⟩ := TypeName.told h.type type' r s hother.type hr hs
    (List.append_cancel_left htail)
  obtain rfl : name = name' := String.toList_inj.mp hname
  obtain rfl : type = type' := htype
  exact ⟨rfl, hrest⟩

/-- A method is told. -/
theorem TypedMethod.selfDelimiting (hnames : settings.camelCase = false) {method : TypedMethod}
    (h : method.Within TypeName.Normal) :
    SelfDelimiting (TypedMethod.text settings) (TypedMethod.Within TypeName.Normal)
      TypeName.EndsType method := by
  intro other r s hother hr hs heq
  obtain ⟨name, parameters, returns⟩ := method
  obtain ⟨name', parameters', returns'⟩ := other
  rw [TypedMethod.text_eq hnames, TypedMethod.text_eq hnames] at heq
  simp only [List.append_assoc, List.cons_append] at heq
  have hopen : ∀ u, Native.Ends ('(' :: u) := fun u => Native.ends_cons (by decide)
  have hcloses : ∀ u, Closes (TypedName.text settings) (TypedName.Within TypeName.Normal)
      TypeName.EndsType ("): ".toList ++ u) := by
    intro u
    refine ⟨TypeName.endsType_cons (by decide), fun item hitem => ?_⟩
    rw [TypedName.text_eq hnames]
    exact hitem.name.not_prefix (Native.ends_cons (by decide))
  have hcomma : ∀ u, ¬ ", ".toList <+: "): ".toList ++ u := fun u hp => by
    simp [List.cons_prefix_cons] at hp
  obtain ⟨hname, htail⟩ := run_append_inj h.name.2 hother.name.2 (hopen _) (hopen _) heq
  obtain ⟨hparameters, hend⟩ := intercalate_append_inj (fun _ => TypeName.endsType_cons (by decide))
    (fun p hp => ⟨h.parameters p hp, TypedName.selfDelimiting hnames (h.parameters p hp)⟩)
    hother.parameters (hcloses _) (hcloses _) (hcomma _) (hcomma _) (List.cons.inj htail).2
  obtain ⟨hreturns, hrest⟩ := TypeName.told h.returns returns' r s hother.returns hr hs
    (List.append_cancel_left hend)
  obtain rfl : name = name' := String.toList_inj.mp hname
  obtain rfl : parameters = parameters' := hparameters
  obtain rfl : returns = returns' := hreturns
  exact ⟨rfl, hrest⟩

/-! ## lines -/

/-- A member or a method. -/
abbrev Item := TypedName ⊕ TypedMethod

/-- The name is an identifier, and the types are normal. -/
def Item.Normal : Item → Prop :=
  Sum.elim (TypedName.Within TypeName.Normal) (TypedMethod.Within TypeName.Normal)

/-- The text of a member or a method. -/
def Item.text (settings : EmitSettings) : Item → List Char :=
  Sum.elim (TypedName.text settings) (TypedMethod.text settings)

/-- The line of a member or a method. -/
def Item.line (settings : EmitSettings) (depth : Nat) (item : Item) : List Char :=
  Declaration.line settings depth (item.text settings ++ [';'])

/-- The members and then the methods. -/
def Declaration.items (d : Declaration) : List Item :=
  d.members.map Sum.inl ++ d.methods.map Sum.inr

theorem Declaration.Within.items {d : Declaration} (h : d.Within TypeName.Normal) :
    ∀ item ∈ d.items, item.Normal := by
  intro item hitem
  rcases List.mem_append.mp hitem with hitem | hitem
  · obtain ⟨member, hmember, rfl⟩ := List.mem_map.mp hitem
    exact h.members member hmember
  · obtain ⟨method, hmethod, rfl⟩ := List.mem_map.mp hitem
    exact h.methods method hmethod

/-- An item is a name with a `:` or a `(` behind it. -/
theorem Item.exists_name (hnames : settings.camelCase = false) {item : Item} (h : item.Normal) :
    ∃ name c u, item.text settings = name ++ c :: u ∧ IsRun Native.isIdentifierChar name ∧
      c = if item.isLeft then ':' else '(' := by
  cases item with
  | inl item =>
      exact ⟨_, _, _, TypedName.text_eq hnames item, TypedName.Within.name h, rfl⟩
  | inr method =>
      exact ⟨_, _, _, TypedMethod.text_eq hnames method, TypedMethod.Within.name h, rfl⟩

/-- An item is told. -/
theorem Item.selfDelimiting (hnames : settings.camelCase = false) {item : Item}
    (h : item.Normal) :
    SelfDelimiting (Item.text settings) Item.Normal TypeName.EndsType item := by
  intro other r s hother hr hs heq
  -- what follows the name says whether it is a member or a method
  have hside : item.isLeft = other.isLeft := by
    obtain ⟨name, c, u, htext, hname, hc⟩ := Item.exists_name hnames h
    obtain ⟨name', c', u', htext', hname', hc'⟩ := Item.exists_name hnames hother
    have hends : ∀ (b : Bool) v, Native.Ends ((if b then ':' else '(') :: v) := by
      intro b v
      cases b <;> exact Native.ends_cons (by decide)
    rw [htext, htext', hc, hc', List.append_assoc, List.append_assoc] at heq
    obtain ⟨-, htail⟩ := run_append_inj hname.2 hname'.2 (hends _ _) (hends _ _) heq
    have hmark := (List.cons.inj htail).1
    cases hl : item.isLeft <;> cases hl' : other.isLeft <;> simp [hl, hl'] at hmark ⊢
  match item, other, hside with
  | .inl item, .inl other, _ =>
      obtain ⟨rfl, hrest⟩ := TypedName.selfDelimiting hnames h other r s hother hr hs heq
      exact ⟨rfl, hrest⟩
  | .inr method, .inr other, _ =>
      obtain ⟨rfl, hrest⟩ := TypedMethod.selfDelimiting hnames h other r s hother hr hs heq
      exact ⟨rfl, hrest⟩

/-- A line is told, whatever follows. -/
theorem Item.line_selfDelimiting (hnames : settings.camelCase = false) (depth : Nat) {item : Item}
    (h : item.Normal) :
    SelfDelimiting (Item.line settings depth) Item.Normal (fun _ => True) item := by
  intro other r s hother _ _ heq
  simp only [Item.line, Declaration.line, List.append_assoc, List.append_cancel_left_eq] at heq
  obtain ⟨rfl, htail⟩ := Item.selfDelimiting hnames h other _ _ hother
    (TypeName.endsType_cons (by decide)) (TypeName.endsType_cons (by decide)) heq
  have hend : [';', '\n'] ++ r = [';', '\n'] ++ s := htail
  exact ⟨rfl, List.append_cancel_left hend⟩

/-- The indentation shows. -/
theorem spaces_append_inj {k n : Nat} {u v : List Char} (hu : ∀ c ∈ u.head?, c ≠ ' ')
    (hv : ∀ c ∈ v.head?, c ≠ ' ')
    (h : List.replicate k ' ' ++ u = List.replicate n ' ' ++ v) : u = v := by
  have hspaces : ∀ m, ∀ c ∈ List.replicate m ' ', (c == ' ') = true := by simp
  exact (run_append_inj (hspaces k) (hspaces n) (by simpa using hu) (by simpa using hv) h).2

/-- The closing brace does not start with a line of an item. -/
theorem Item.closes_brace (hnames : settings.camelCase = false) (depth depth' : Nat)
    (r : List Char) : Closes (Item.line settings depth) Item.Normal (fun _ => True)
      (Declaration.line settings depth' ['\x7d'] ++ r) := by
  refine ⟨trivial, fun item hitem => ?_⟩
  obtain ⟨name, c, u, htext, hname, -⟩ := Item.exists_name hnames hitem
  rintro ⟨v, hv⟩
  simp only [Item.line, Declaration.line, htext, List.append_assoc, List.cons_append,
    List.nil_append] at hv
  have hspace : ∀ d ∈ (name ++ c :: (u ++ ';' :: '\n' :: v)).head?, d ≠ ' ' := by
    rintro d hd rfl
    exact absurd (hname.head_append _ ' ' hd) (by decide)
  have hbrace : name ++ c :: (u ++ ';' :: '\n' :: v) = '\x7d' :: '\n' :: r :=
    spaces_append_inj hspace (by simp) hv
  exact absurd (hname.head_append _ '\x7d' (by rw [hbrace]; rfl)) (by decide)

/-! ## declarations -/

namespace Declaration

/-- The lines of the interface itself. -/
def body (settings : EmitSettings) (depth : Nat) (d : Declaration) : List Char :=
  line settings depth ("export interface ".toList ++ d.name.toList ++ " \x7b".toList) ++
    (d.items.flatMap (Item.line settings (depth + 1)) ++ line settings depth ['\x7d'])

/-- The lines of the elements are those of the members and of the methods. -/
theorem flatMap_line_items (depth : Nat) (d : Declaration) :
    d.items.flatMap (Item.line settings depth) =
      (d.members.map fun member => line settings depth (member.text settings ++ [';'])).flatten ++
        (d.methods.map fun method =>
          line settings depth (method.text settings ++ [';'])).flatten := by
  rw [items, List.flatMap_append, List.flatMap_map, List.flatMap_map]
  rfl

/-- Without a namespace, the interface stands alone. -/
theorem text_of_scope_eq_nil {d : Declaration} (h : d.scope = []) :
    d.text settings = d.body settings 0 := by
  simp [text, lines, body, flatMap_line_items, depth, h]

/-- A namespace stands around the interface. -/
theorem text_of_scope_ne_nil {d : Declaration} (h : d.scope ≠ []) :
    d.text settings = "export namespace ".toList ++
      (List.intercalate ['.'] (d.scope.map String.toList) ++
        (" \x7b\n".toList ++ (d.body settings 1 ++ ['\x7d', '\n']))) := by
  simp [text, lines, body, flatMap_line_items, depth, h, line]

/-- The items are the members and the methods, and nothing else. -/
theorem eq_of_items_eq {d d' : Declaration} (hscope : d.scope = d'.scope)
    (hname : d.name = d'.name) (hitems : d.items = d'.items) : d = d' := by
  obtain ⟨scope, name, members, methods⟩ := d
  obtain ⟨scope', name', members', methods'⟩ := d'
  have hmembers : members = members' := by
    simpa [items, List.filterMap_append, Function.comp_def] using
      congrArg (List.filterMap Sum.getLeft?) hitems
  have hmethods : methods = methods' := by
    simpa [items, List.filterMap_append, Function.comp_def] using
      congrArg (List.filterMap Sum.getRight?) hitems
  obtain rfl : scope = scope' := hscope
  obtain rfl : name = name' := hname
  rw [hmembers, hmethods]

/-- A name ends where the braces open. -/
theorem ends_open (r : List Char) : Native.Ends (" \x7b\n".toList ++ r) :=
  Native.ends_cons (by decide)

/-- The lines of an interface, spelled out as far as its elements. -/
theorem body_append (depth : Nat) (d : Declaration) (r : List Char) :
    d.body settings depth ++ r = List.replicate (settings.indent * depth) ' ' ++
      ("export interface ".toList ++ (d.name.toList ++ (" \x7b\n".toList ++
        (d.items.flatMap (Item.line settings (depth + 1)) ++
          (line settings depth ['\x7d'] ++ r))))) := by
  simp [body, line]

/-- The lines of an interface show its name and its elements. -/
theorem body_append_inj (hnames : settings.camelCase = false) (depth : Nat) {d d' : Declaration}
    (hd : d.Within TypeName.Normal) (hd' : d'.Within TypeName.Normal) {r s : List Char}
    (h : d.body settings depth ++ r = d'.body settings depth ++ s) :
    d.name = d'.name ∧ d.items = d'.items := by
  rw [body_append, body_append, List.append_cancel_left_eq, List.append_cancel_left_eq] at h
  obtain ⟨hname, htail⟩ := run_append_inj hd.name.2 hd'.name.2 (ends_open _) (ends_open _) h
  obtain ⟨hitems, -⟩ := flatMap_append_inj (fun _ _ _ => trivial)
    (fun item hitem => ⟨hd.items item hitem, Item.line_selfDelimiting hnames (depth + 1)
      (hd.items item hitem)⟩) hd'.items (Item.closes_brace hnames (depth + 1) depth r)
    (Item.closes_brace hnames (depth + 1) depth s) (List.append_cancel_left htail)
  exact ⟨String.toList_inj.mp hname, hitems⟩

/-- A namespace is told from an interface. -/
theorem scope_eq_nil_of_text_eq {d d' : Declaration} (h : d.text settings = d'.text settings)
    (hscope : d.scope = []) : d'.scope = [] := by
  by_contra hscope'
  rw [text_of_scope_eq_nil hscope, text_of_scope_ne_nil hscope',
    ← List.append_nil (d.body settings 0), body_append] at h
  -- the word behind `export` starts with another letter
  have hletter : some 'i' = some 'n' := congrArg (fun text => text[7]?) h
  exact absurd hletter (by decide)

/-- Segments of a namespace are found again. -/
theorem scope_append_inj {scope scope' : List String} {r s : List Char}
    (hs : ∀ segment ∈ scope, IsRun Native.isIdentifierChar segment.toList)
    (hs' : ∀ segment ∈ scope', IsRun Native.isIdentifierChar segment.toList)
    (h : List.intercalate ['.'] (scope.map String.toList) ++ (" \x7b\n".toList ++ r) =
      List.intercalate ['.'] (scope'.map String.toList) ++ (" \x7b\n".toList ++ s)) :
    scope = scope' ∧ r = s := by
  have htold : ∀ segment ∈ scope, SelfDelimiting String.toList
      (fun name => IsRun Native.isIdentifierChar name.toList) Native.Ends segment := by
    intro segment hsegment other u v hother hu hv heq
    obtain ⟨hname, hrest⟩ := run_append_inj (hs segment hsegment).2 hother.2 hu hv heq
    exact ⟨String.toList_inj.mp hname, hrest⟩
  have hcloses : ∀ u, Closes String.toList
      (fun name => IsRun Native.isIdentifierChar name.toList) Native.Ends
      (" \x7b\n".toList ++ u) := fun u =>
    ⟨ends_open u, fun name hname hp =>
      IsRun.not_prefix hname (ends_open u) (by rwa [List.append_nil])⟩
  have hdot : ∀ u, ¬ ['.'] <+: " \x7b\n".toList ++ u := fun u hp => by
    simp [List.cons_prefix_cons] at hp
  obtain ⟨hscope, hrest⟩ := intercalate_append_inj (fun _ => Native.ends_cons (by decide))
    (fun segment hsegment => ⟨hs segment hsegment, htold segment hsegment⟩) hs'
    (hcloses r) (hcloses s) (hdot r) (hdot s) h
  exact ⟨hscope, List.append_cancel_left hrest⟩

/-- Declarations with normal types are the same if their texts are. -/
theorem eq_of_text_eq (hnames : settings.camelCase = false) {d d' : Declaration}
    (hd : d.Within TypeName.Normal) (hd' : d'.Within TypeName.Normal)
    (h : d.text settings = d'.text settings) : d = d' := by
  by_cases hscope : d.scope = []
  · have hscope' := scope_eq_nil_of_text_eq h hscope
    rw [text_of_scope_eq_nil hscope, text_of_scope_eq_nil hscope'] at h
    have hbody : d.body settings 0 ++ [] = d'.body settings 0 ++ [] := by rw [h]
    obtain ⟨hname, hitems⟩ := body_append_inj hnames 0 hd hd' hbody
    exact eq_of_items_eq (hscope.trans hscope'.symm) hname hitems
  · have hscope' : d'.scope ≠ [] := fun hnil => hscope (scope_eq_nil_of_text_eq h.symm hnil)
    rw [text_of_scope_ne_nil hscope, text_of_scope_ne_nil hscope',
      List.append_cancel_left_eq] at h
    obtain ⟨hsegments, hrest⟩ := scope_append_inj hd.scope hd'.scope h
    obtain ⟨hname, hitems⟩ := body_append_inj hnames 1 hd hd' hrest
    exact eq_of_items_eq hsegments hname hitems

end Declaration

/-! ## flattened types -/

/-- Flattening keeps the text of a typed name. -/
theorem TypedName.text_flat {item : TypedName} (h : item.Within TypeName.Plain) :
    item.flat.text settings = item.text settings := by
  rw [TypedName.text, TypedName.text, TypedName.flat, TypeName.text_flat h.type]

/-- Flattening keeps the text of a method. -/
theorem TypedMethod.text_flat {method : TypedMethod} (h : method.Within TypeName.Plain) :
    method.flat.text settings = method.text settings := by
  have hparameters : (method.parameters.map TypedName.flat).map (TypedName.text settings) =
      method.parameters.map (TypedName.text settings) := by
    rw [List.map_map]
    exact List.map_congr_left fun p hp => TypedName.text_flat (h.parameters p hp)
  rw [TypedMethod.text, TypedMethod.text, TypedMethod.flat, hparameters,
    TypeName.text_flat h.returns]

/-- A declaration is laid out by the texts of its elements. -/
theorem Declaration.text_congr {d d' : Declaration} (hscope : d.scope = d'.scope)
    (hname : d.name = d'.name)
    (hmembers : d.members.map (TypedName.text settings) =
      d'.members.map (TypedName.text settings))
    (hmethods : d.methods.map (TypedMethod.text settings) =
      d'.methods.map (TypedMethod.text settings)) :
    d.text settings = d'.text settings := by
  have hdepth : d.depth = d'.depth := by rw [depth, depth, hscope]
  let ofText (text : List Char) : List Char := line settings (d'.depth + 1) (text ++ [';'])
  have hmemberLines := congrArg (List.map ofText) hmembers
  have hmethodLines := congrArg (List.map ofText) hmethods
  simp only [List.map_map, Function.comp_def, ofText] at hmemberLines hmethodLines
  rw [text, text, lines, lines, hdepth, hscope, hname, hmemberLines, hmethodLines]

/-- Flattening keeps the text of a declaration. -/
theorem Declaration.text_flat {d : Declaration} (h : d.Within TypeName.Plain) :
    d.flat.text settings = d.text settings := by
  refine text_congr rfl rfl ?_ ?_
  · rw [flat, List.map_map]
    exact List.map_congr_left fun m hm => TypedName.text_flat (h.members m hm)
  · rw [flat, List.map_map]
    exact List.map_congr_left fun m hm => TypedMethod.text_flat (h.methods m hm)

/-- Declarations with plain types have the same text if they are the same up to
flattening, and only then. -/
theorem Declaration.text_eq_iff (hnames : settings.camelCase = false) {d d' : Declaration}
    (hd : d.Within TypeName.Plain) (hd' : d'.Within TypeName.Plain) :
    d.text settings = d'.text settings ↔ d.flat = d'.flat := by
  constructor
  · intro h
    rw [← text_flat hd, ← text_flat hd'] at h
    exact eq_of_text_eq hnames hd.flat hd'.flat h
  · intro h
    rw [← text_flat hd, h, text_flat hd']

end Layout

/-! ## emissions -/

/-- What is declared under a name: the namespace, the name, the names of the
members, and those of the methods with their parameters, all in order. -/
structure Outline where
  scope : List String
  name : String
  members : List String
  methods : List (String × List String)
  deriving DecidableEq

/-- The names in an interface. -/
def Interface.outline {m : Type → Type} (i : Interface m) : Outline where
  scope := i.scope
  name := i.name
  members := i.members.map fun member => member.field.name
  methods := i.methods.map fun method =>
    (method.element.field.name, method.parameters.map fun parameter => parameter.field.name)

/-- The names in a declaration. -/
def Declaration.outline (d : Declaration) : Outline where
  scope := d.scope
  name := d.name
  members := d.members.map TypedName.name
  methods := d.methods.map fun method => (method.name, method.parameters.map TypedName.name)

/-- Flattening keeps the names. -/
theorem Declaration.outline_flat (d : Declaration) : d.flat.outline = d.outline := by
  simp [outline, flat, TypedName.flat, TypedMethod.flat, Function.comp_def]

variable {σ τ : Type}

/-- What declares elements has their names. -/
theorem Element.map_name_eq {es : List (Element (StateM σ))} {typed : List TypedName}
    (h : List.Forall₂ Element.Declares es typed) :
    typed.map TypedName.name = es.map fun e => e.field.name := by
  induction h with
  | nil => rfl
  | cons hname _ ih => rw [List.map_cons, List.map_cons, ih, hname]

/-- What declares methods has their names and those of their parameters. -/
theorem Method.map_names_eq {methods : List (Method (StateM σ))} {typed : List TypedMethod}
    (h : List.Forall₂ Method.Declares methods typed) :
    typed.map (fun method => (method.name, method.parameters.map TypedName.name)) =
      methods.map fun method =>
        (method.element.field.name, method.parameters.map fun p => p.field.name) := by
  induction h with
  | nil => rfl
  | cons hmethod _ ih =>
      rw [List.map_cons, List.map_cons, ih, hmethod.name, Element.map_name_eq hmethod.parameters]

/-- What declares an interface has the names of it. -/
theorem Interface.Declares.outline_eq {i : Interface (StateM σ)} {d : Declaration}
    (h : i.Declares d) : d.outline = i.outline := by
  rw [Declaration.outline, Interface.outline, h.scope, h.name, Element.map_name_eq h.members,
    Method.map_names_eq h.methods]

/-- An interface whose elements all have their types is emitted with them. -/
theorem Interface.emit_of_typed {i : Interface (StateM σ)} {r : Resolver} {w w₁ : σ}
    {d : Declaration} (h : runIn (i.typed r) w = (.ok d, w₁)) (settings : EmitSettings) :
    runIn (i.emit r settings) w = (.ok (String.ofList (d.text settings)), w₁) := by
  rw [Interface.emit, runIn_bind_of_ok h, runIn_pure]

/-- **An emitted declaration determines its interface.**  Two interfaces are
emitted, each in its world and with its own resolver, but with the same
settings, by which names are as they are.  Their elements resolve to the types
in `d` and `d'`, of which all are plain, and all names are identifiers.  Then
the texts are the same if and only if the names are, all in the same places, and
so are the types up to unions that stand directly inside unions. -/
theorem Interface.emit_unambiguous (settings : EmitSettings) (hnames : settings.camelCase = false)
    (i : Interface (StateM σ)) (j : Interface (StateM τ)) (r s : Resolver) (w w₁ : σ) (v v₁ : τ)
    (d d' : Declaration) (hd : runIn (i.typed r) w = (.ok d, w₁))
    (hd' : runIn (j.typed s) v = (.ok d', v₁)) (hplain : d.Within TypeName.Plain)
    (hplain' : d'.Within TypeName.Plain) :
    (∃ text, runIn (i.emit r settings) w = (.ok text, w₁) ∧
      runIn (j.emit s settings) v = (.ok text, v₁)) ↔
      i.outline = j.outline ∧ d.flat = d'.flat := by
  obtain ⟨-, ⟨hi, -⟩, -⟩ := (resolves_interface r i).ok hd
  obtain ⟨-, ⟨hj, -⟩, -⟩ := (resolves_interface s j).ok hd'
  rw [Interface.emit_of_typed hd, Interface.emit_of_typed hd', ← hi.outline_eq, ← hj.outline_eq]
  have htext := Declaration.text_eq_iff hnames hplain hplain'
  constructor
  · rintro ⟨text, h, h'⟩
    have hsame : String.ofList (d.text settings) = String.ofList (d'.text settings) :=
      (Except.ok.inj (Prod.mk.inj h).1).trans (Except.ok.inj (Prod.mk.inj h').1).symm
    have hflat := htext.mp (String.ofList_inj.mp hsame)
    exact ⟨by rw [← d.outline_flat, hflat, d'.outline_flat], hflat⟩
  · rintro ⟨-, hflat⟩
    exact ⟨_, rfl, by rw [htext.mpr hflat]⟩

/-- A parameter of an optional optional type, and one whose inferer gives the
type that this is mapped to with all variants in one union. -/
def Interface.optionTwice (inferred : Bool) : Interface (StateM Unit) :=
  let number : TypeName := .simple "number"
  let null : TypeName := .simple "null"
  let key : Element (StateM Unit) := .new "key" (.optional (.optional (.primitive .u32)))
  let flat : TypeName := .union [number, null, null]
  let parameter := if inferred then key.inferType fun _ => pure flat else key
  let get : Method (StateM Unit) :=
    ⟨.new "get" (.map (.primitive .string) (.tuple [])), [parameter]⟩
  ⟨["app", "api"], "Store", [.new "size" (.primitive .u64)], [get]⟩

/-- Both are emitted with the same text. -/
theorem Interface.emit_unambiguous_optionTwice :
    ∃ text, runIn ((optionTwice false).emit .default .default) () = (.ok text, ()) ∧
      runIn ((optionTwice true).emit .default .default) () = (.ok text, ()) :=
  (Interface.emit_unambiguous .default rfl (optionTwice false) (optionTwice true) .default .default
    () () () () _ _ rfl rfl (by decide) (by decide)).mpr ⟨rfl, rfl⟩

end DeclGen
