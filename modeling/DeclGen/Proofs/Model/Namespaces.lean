import DeclGen.Proofs.Model.Translation

/-!
# DeclGen.Proofs.Model.Namespaces

Namespaces of a model's interfaces, and the names that they qualify.

1. Each segment is a text without separators (`IsSegment`), however many
   separators the declared namespace has, and wherever they stand.
2. So a namespace is read back from its segments with dots between them
   (`scopeSegments_intercalate`), and to declare it in this form changes nothing
   (`InterfaceDecl.interface_withScope`).
3. A qualified name is its segments and its last name with dots between them,
   none of which has a dot itself.  So it determines all of them
   (`Interface.qualifiedName_inj`).
-/

namespace DeclGen

variable {m : Type → Type}

/-! ## segments -/

/-- A segment of a namespace: there is something in it, and nothing that
separates. -/
structure IsSegment (s : String) : Prop where
  ne_empty : s ≠ ""
  no_dot : '.' ∉ s.toList
  no_colon : ':' ∉ s.toList

instance : DecidablePred IsSegment := fun s =>
  decidable_of_iff (s ≠ "" ∧ '.' ∉ s.toList ∧ ':' ∉ s.toList)
    ⟨fun ⟨hne, hdot, hcolon⟩ => ⟨hne, hdot, hcolon⟩, fun h => ⟨h.ne_empty, h.no_dot, h.no_colon⟩⟩

/-- The same of characters, in the form in which a namespace is split. -/
theorem isSegment_iff {s : String} :
    IsSegment s ↔ s.toList ≠ [] ∧ ∀ c ∈ s.toList, (c == '.' || c == ':') = false := by
  constructor
  · rintro ⟨hne, hdot, hcolon⟩
    refine ⟨fun h => hne (String.toList_eq_nil_iff.mp h), fun c hc => ?_⟩
    rw [Bool.or_eq_false_iff, beq_eq_false_iff_ne, beq_eq_false_iff_ne]
    exact ⟨fun h => hdot (h ▸ hc), fun h => hcolon (h ▸ hc)⟩
  · rintro ⟨hne, hchars⟩
    refine ⟨fun h => hne (String.toList_eq_nil_iff.mpr h), fun h => ?_, fun h => ?_⟩
    · exact absurd (hchars _ h) (by decide)
    · exact absurd (hchars _ h) (by decide)

/-- A namespace is split into segments. -/
theorem isSegment_of_mem_scopeSegments {scope s : String} (h : s ∈ scopeSegments scope) :
    IsSegment s := by
  obtain ⟨segment, hsegment, rfl⟩ := List.mem_map.mp h
  rw [isSegment_iff, String.toList_ofList]
  exact Text.mem_segments hsegment

example : ∀ s ∈ scopeSegments ".shop:.cart..", IsSegment s := by decide

/-- The characters of texts with dots between them. -/
theorem toList_intercalate_dot (parts : List String) :
    (".".intercalate parts).toList = ['.'].intercalate (parts.map String.toList) :=
  String.toList_intercalate

/-- Segments are read back from the namespace that joins them. -/
theorem scopeSegments_intercalate {segments : List String} (h : ∀ s ∈ segments, IsSegment s) :
    scopeSegments (".".intercalate segments) = segments := by
  have hparts : ∀ part ∈ segments.map String.toList,
      part ≠ [] ∧ ∀ c ∈ part, (c == '.' || c == ':') = false := by
    intro part hpart
    obtain ⟨s, hs, rfl⟩ := List.mem_map.mp hpart
    exact isSegment_iff.mp (h s hs)
  rw [scopeSegments, toList_intercalate_dot, Text.segments_intercalate (by decide) hparts,
    List.map_map]
  simp [Function.comp_def]

/-! ## qualified names -/

/-- A qualified name is made of the segments and the name itself. -/
theorem Interface.qualifiedName_eq (i : Interface m) :
    i.qualifiedName = ".".intercalate (i.scope ++ [i.name]) := by
  unfold qualifiedName
  cases h : i.scope with
  | nil => rw [List.nil_append, String.intercalate_singleton]; rfl
  | cons segment segments =>
      rw [String.intercalate_append_of_ne_nil (List.cons_ne_nil _ _) (List.cons_ne_nil _ _),
        String.intercalate_singleton]
      rfl

/-- The parts of a name are read back at its dots. -/
theorem splitOn_intercalate_dot {parts : List String} (hne : parts ≠ [])
    (h : ∀ part ∈ parts, '.' ∉ part.toList) :
    (".".intercalate parts).toList.splitOn '.' = parts.map String.toList := by
  rw [toList_intercalate_dot,
    List.splitOn_intercalate '.' (List.forall_mem_map.mpr h) (by simpa using hne)]

/-- The parts of a qualified name are its segments and its last name. -/
theorem Interface.splitOn_qualifiedName {i : Interface m} (hscope : ∀ s ∈ i.scope, IsSegment s)
    (hname : '.' ∉ i.name.toList) :
    i.qualifiedName.toList.splitOn '.' = (i.scope ++ [i.name]).map String.toList := by
  rw [i.qualifiedName_eq]
  refine splitOn_intercalate_dot (by simp) (List.forall_mem_append.mpr ⟨fun s hs => ?_, ?_⟩)
  · exact (hscope s hs).no_dot
  · simpa using hname

/-- Interfaces without dots in their names are told apart by their qualified
names. -/
theorem Interface.qualifiedName_inj {i j : Interface m} (hi : ∀ s ∈ i.scope, IsSegment s)
    (hj : ∀ s ∈ j.scope, IsSegment s) (hin : '.' ∉ i.name.toList) (hjn : '.' ∉ j.name.toList) :
    i.qualifiedName = j.qualifiedName ↔ i.scope = j.scope ∧ i.name = j.name := by
  constructor
  · intro h
    have hparts : (i.scope ++ [i.name]).map String.toList =
        (j.scope ++ [j.name]).map String.toList := by
      rw [← splitOn_qualifiedName hi hin, ← splitOn_qualifiedName hj hjn, h]
    have happend := List.map_injective_iff.mpr (fun _ _ => String.toList_inj.mp) hparts
    obtain ⟨hscope, hname⟩ := List.append_inj' happend rfl
    exact ⟨hscope, List.singleton_inj.mp hname⟩
  · rintro ⟨hscope, hname⟩
    rw [i.qualifiedName_eq, j.qualifiedName_eq, hscope, hname]

/-! ## declared namespaces -/

/-- The declaration with another namespace of its own. -/
def InterfaceDecl.withScope (d : InterfaceDecl) (scope : String) : InterfaceDecl :=
  { d with scope := some scope }

/-- The model in which the interface at a position declares another namespace. -/
def Model.withScopeAt (model : Model) (k : Nat) (scope : String) : Model :=
  { model with interfaces := model.interfaces.modify k (·.withScope scope) }

/-- An interface has segments for its namespace, whether it declares the namespace
itself or not. -/
theorem InterfaceDecl.isSegment_of_mem_segments {default : Option String} {d : InterfaceDecl}
    {s : String} (h : s ∈ d.segments default) : IsSegment s := by
  unfold segments at h
  cases hscope : d.scope.or default with
  | none => simp [hscope] at h
  | some scope =>
      rw [hscope, Option.map_some, Option.getD_some] at h
      exact isSegment_of_mem_scopeSegments h

variable [Monad m]

/-- The namespace of an interface consists of segments. -/
theorem InterfaceDecl.isSegment_of_mem_scope {rules : List OverrideRule}
    {default : Option String} {d : InterfaceDecl} {i : Interface m}
    (h : d.interface rules default = .ok i) : ∀ s ∈ i.scope, IsSegment s := by
  obtain ⟨⟨hscope, -⟩, -⟩ := interface_eq_ok.mp h
  intro s hs
  exact isSegment_of_mem_segments (hscope ▸ hs)

/-- An interface is the same if it declares the segments that it has. -/
theorem InterfaceDecl.interface_withScope {rules : List OverrideRule} {default : Option String}
    {d : InterfaceDecl} {i : Interface m} (h : d.interface rules default = .ok i) :
    (d.withScope (".".intercalate i.scope)).interface rules default = .ok i := by
  have hsame : (d.withScope (".".intercalate i.scope)).segments default = i.scope :=
    scopeSegments_intercalate (isSegment_of_mem_scope h)
  obtain ⟨⟨-, hname⟩, hmembers, hmethods⟩ := interface_eq_ok.mp h
  exact interface_eq_ok.mpr ⟨⟨hsame.symm, hname⟩, hmembers, hmethods⟩

/-- The namespaces of a model's interfaces consist of segments. -/
theorem Model.isSegment_of_mem_scope {model : Model} {is : List (Interface m)}
    (h : model.toInterfaces = .ok is) : ∀ i ∈ is, ∀ s ∈ i.scope, IsSegment s := by
  obtain ⟨rules, -, hinterfaces⟩ := toInterfaces_eq_ok.mp h
  refine forall_mem_right (fun d i hinterface => ?_) hinterfaces
  exact InterfaceDecl.isSegment_of_mem_scope hinterface

/-- A model has the same interfaces if one of them declares the segments that it
has. -/
theorem Model.toInterfaces_withScopeAt {model : Model} {is : List (Interface m)}
    (h : model.toInterfaces = .ok is) {k : Nat} {i : Interface m} (hi : is[k]? = some i) :
    (model.withScopeAt k (".".intercalate i.scope)).toInterfaces = .ok is := by
  obtain ⟨rules, hrules, hinterfaces⟩ := toInterfaces_eq_ok.mp h
  obtain ⟨hlength, hget⟩ := List.forall₂_iff_get.mp hinterfaces
  refine toInterfaces_eq_ok.mpr ⟨rules, hrules, List.forall₂_iff_get.mpr ⟨?_, ?_⟩⟩
  · rw [withScopeAt, List.length_modify, hlength]
  · intro n hn hn'
    have hinterface := hget n (hlength ▸ hn') hn'
    simp only [withScopeAt, List.get_eq_getElem, List.getElem_modify] at hinterface ⊢
    split
    · next hkn =>
        obtain rfl : is[n] = i := by
          rw [hkn, List.getElem?_eq_getElem hn'] at hi
          exact Option.some.inj hi
        exact InterfaceDecl.interface_withScope hinterface
    · exact hinterface

/-! ## the namespaces of a model -/

/-- **Namespaces come out in normal form, and qualified names identify
interfaces.**

1. Every segment has characters, and neither dots nor colons among them.
2. An interface may declare its segments, with dots between them, as its own
   namespace: the model still has the same interfaces.
3. Two interfaces without dots in their names have one qualified name if and only
   if they have the same segments and the same name. -/
theorem Model.toInterfaces_namespaces {model : Model} {is : List (Interface m)}
    (h : model.toInterfaces = .ok is) :
    (∀ i ∈ is, ∀ s ∈ i.scope, IsSegment s) ∧
    (∀ (k : Nat) (i : Interface m), is[k]? = some i →
      (model.withScopeAt k (".".intercalate i.scope)).toInterfaces = .ok is) ∧
    (∀ i ∈ is, ∀ j ∈ is, '.' ∉ i.name.toList → '.' ∉ j.name.toList →
      (i.qualifiedName = j.qualifiedName ↔ i.scope = j.scope ∧ i.name = j.name)) := by
  have hsegments := isSegment_of_mem_scope h
  refine ⟨hsegments, fun k i => toInterfaces_withScopeAt h, fun i hi j hj => ?_⟩
  exact Interface.qualifiedName_inj (hsegments i hi) (hsegments j hj)

/-- A model with the default namespace, one with separators all around, and an
empty one. -/
def Model.shop : Model where
  scope := some "shop::v1"
  interfaces :=
    [⟨"Order", none, [⟨"id", "u64"⟩], []⟩, ⟨"Order", some ".shop:.cart..", [], []⟩,
      ⟨"Item", some "", [], []⟩]
  overrides := []

/-- The two interfaces of one name have different qualified names, and each may
declare the segments that were found for it. -/
theorem toInterfaces_namespaces_shop :
    ∃ is : List (Interface Id), Model.shop.toInterfaces = .ok is ∧
      is.map (fun i => (i.scope, i.qualifiedName)) =
        [(["shop", "v1"], "shop.v1.Order"), (["shop", "cart"], "shop.cart.Order"), ([], "Item")] ∧
      (∀ i ∈ is, ∀ s ∈ i.scope, IsSegment s) ∧
      (∀ (k : Nat) (i : Interface Id), is[k]? = some i →
        (Model.shop.withScopeAt k (".".intercalate i.scope)).toInterfaces = .ok is) ∧
      (∀ i ∈ is, ∀ j ∈ is, '.' ∉ i.name.toList → '.' ∉ j.name.toList →
        (i.qualifiedName = j.qualifiedName ↔ i.scope = j.scope ∧ i.name = j.name)) := by
  have hnames : (Model.shop.toInterfaces : Except ModelError (List (Interface Id))).map
      (·.map fun i => (i.scope, i.qualifiedName)) =
        .ok [(["shop", "v1"], "shop.v1.Order"), (["shop", "cart"], "shop.cart.Order"),
          ([], "Item")] := by decide +kernel
  cases h : (Model.shop.toInterfaces : Except ModelError (List (Interface Id))) with
  | error cause => simp [h, Except.map] at hnames
  | ok is =>
      rw [h] at hnames
      exact ⟨is, rfl, Except.ok.inj hnames, Model.toInterfaces_namespaces h⟩

end DeclGen
