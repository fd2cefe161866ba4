import DeclGen.Proofs.Model.Translation

/-!
# DeclGen.Proofs.Model.Overrides

Which override decides the type of an element.

1. The overrides that match an element's path go into its slot one after the
   other; what was in the slot before is lost, so that the last one stays
   (`override_eq`).
2. An override's type is a template: its parts between the places of the name
   are kept, and the name stands between each two of them (`Expands`).
3. Hence an element is resolved by the last override that matches its path, and
   by the default mapping if there is none (`Element.Decided`).
-/

namespace DeclGen

variable {m : Type → Type}

/-! ## matching and expanding -/

/-- An override matches a path if its compiled target does. -/
def Override.Matches (o : Override) (path : String) : Prop :=
  ∃ pattern, Pattern.compile? ("^(?:" ++ o.target ++ ")$") = some pattern ∧
    pattern.isMatch path = true

/-- A text is a template with a name in all places of the name: the template is
made of parts without such a place, and the name stands between each two. -/
def Expands (template name text : String) : Prop :=
  ∃ parts : List (List Char), (∀ part ∈ parts, ¬ "\x7bname\x7d".toList <:+: part) ∧
    template.toList = List.intercalate "\x7bname\x7d".toList parts ∧
    text.toList = List.intercalate name.toList parts

/-- What decides the type of the element with a path: the last override that
matches the path, whose text is the name of the type under every resolver, or
else the default mapping of the native type. -/
inductive Element.Decided [Monad m] (overrides : List Override) (path : String)
    (e : Element m) : Prop
  | none (unmatched : ∀ o ∈ overrides, ¬ o.Matches path) (empty : e.slot.isEmpty = true)
      (resolve : ∀ r : Resolver, e.resolve r = pure (r.resolve e.field.type))
  | last {before after : List Override} {o : Override} {text : String}
      (split : overrides = before ++ o :: after) (matched : o.Matches path)
      (unmatched : ∀ p ∈ after, ¬ p.Matches path) (expands : Expands o.type e.field.name text)
      (kind : e.slot.activeKind? = some .name)
      (resolve : ∀ r : Resolver, e.resolve r = pure (TypeName.simple text))

/-- A compiled override matches where the override does. -/
theorem appliesTo_iff {o : Override} {rule : OverrideRule}
    (h : OverrideRule.ofOverride o = .ok rule) (path : String) :
    rule.appliesTo path = true ↔ o.Matches path := by
  unfold OverrideRule.ofOverride at h
  split at h
  · next pattern hpattern =>
      obtain rfl := Except.ok.inj h
      simp [OverrideRule.appliesTo, Override.Matches, hpattern]
  · contradiction

/-- A compiled override has the template of the override. -/
theorem template_of_ofOverride {o : Override} {rule : OverrideRule}
    (h : OverrideRule.ofOverride o = .ok rule) : rule.template = o.type := by
  unfold OverrideRule.ofOverride at h
  split at h
  · obtain rfl := Except.ok.inj h
    rfl
  · contradiction

/-- The type that an override gives to an element is its template with the name
in all places of the name, and nothing else is. -/
theorem expands_iff {rule : OverrideRule} {name text : String} :
    Expands rule.template name text ↔ text = rule.typeFor name := by
  have hne : OverrideRule.placeholder ≠ [] := List.cons_ne_nil _ _
  have hreplace : ∀ parts : List (List Char), (∀ part ∈ parts,
      ¬ OverrideRule.placeholder <:+: part) →
        Text.replaceAll OverrideRule.placeholder name.toList
          (List.intercalate OverrideRule.placeholder parts) = List.intercalate name.toList parts :=
    fun parts hparts => Text.replaceAll_intercalate hne fun part hpart =>
      Text.apart_of_not_infix (by decide) (hparts part hpart)
  constructor
  · rintro ⟨parts, hparts, htemplate, htext⟩
    rw [OverrideRule.typeFor, htemplate, ← String.toList_inj, String.toList_ofList, htext]
    exact (hreplace parts hparts).symm
  · rintro rfl
    obtain ⟨parts, htemplate, hparts⟩ := Text.exists_intercalate_eq hne rule.template.toList
    refine ⟨parts, hparts, htemplate, ?_⟩
    rw [OverrideRule.typeFor, htemplate, String.toList_ofList, hreplace parts hparts]

/-! ## the slot -/

variable [Monad m]

/-- The overrides that match are put into the slot one after the other. -/
theorem override_cons (rule : OverrideRule) (rules : List OverrideRule) (path : String)
    (e : Element m) : e.override (rule :: rules) path =
      (if rule.appliesTo path then e.inferName fun field => pure (rule.typeFor field.name)
        else e).override rules path := by
  unfold Element.override
  rw [List.filter_cons]
  by_cases h : rule.appliesTo path = true
  · rw [if_pos h, if_pos h, List.foldl_cons]
  · rw [if_neg h, if_neg h]

/-- The last override that matches stays in the slot; the slot is kept if none
does. -/
theorem override_eq {overrides : List Override} {rules : List OverrideRule}
    (h : List.Forall₂ (fun o rule => OverrideRule.ofOverride o = .ok rule) overrides rules)
    (path : String) (e : Element m) :
    ((∀ o ∈ overrides, ¬ o.Matches path) ∧ e.override rules path = e) ∨
    ∃ before o after rule, overrides = before ++ o :: after ∧ o.Matches path ∧
      (∀ p ∈ after, ¬ p.Matches path) ∧ OverrideRule.ofOverride o = .ok rule ∧
      e.override rules path = e.inferName fun field => pure (rule.typeFor field.name) := by
  induction h generalizing e with
  | nil => exact .inl ⟨by simp, rfl⟩
  | @cons o rule os rules ho _ ih =>
      rw [override_cons]
      -- an override further on wins, whatever is in the slot by then
      by_cases hmatch : o.Matches path
      · rw [if_pos ((appliesTo_iff ho path).mpr hmatch)]
        rcases ih (e.inferName fun field => pure (rule.typeFor field.name)) with
          ⟨hnone, hslot⟩ | ⟨before, o', after, rule', hsplit, hlast⟩
        · exact .inr ⟨[], o, os, rule, rfl, hmatch, hnone, ho, hslot⟩
        · exact .inr ⟨o :: before, o', after, rule', by rw [hsplit, List.cons_append], hlast⟩
      · rw [if_neg (mt (appliesTo_iff ho path).mp hmatch)]
        rcases ih e with ⟨hnone, hslot⟩ | ⟨before, o', after, rule', hsplit, hlast⟩
        · exact .inl ⟨List.forall_mem_cons.mpr ⟨hmatch, hnone⟩, hslot⟩
        · exact .inr ⟨o :: before, o', after, rule', by rw [hsplit, List.cons_append], hlast⟩

/-- A new element has the default mapping of its type under every resolver. -/
theorem resolve_new [LawfulMonad m] (name : String) (type : Native) (r : Resolver) :
    (Element.new name type : Element m).resolve r = pure (r.resolve type) := by
  simp [Element.resolve, Element.new, Slot.resolve, Slot.infer, Slot.empty]

/-- An element whose inferer gives a text has this name for its type under every
resolver. -/
theorem resolve_inferName [LawfulMonad m] (e : Element m) (text : Field → String)
    (r : Resolver) :
    (e.inferName fun field => pure (text field)).resolve r =
      pure (TypeName.simple (text e.field)) := by
  simp [Element.resolve, Element.inferName, Element.withInferer, Slot.resolve, Slot.infer,
    Slot.set, Inferer.invoke]

/-- An element that is made is decided by the overrides of the model. -/
theorem decided_of_typedElement [LawfulMonad m] {overrides : List Override}
    {rules : List OverrideRule}
    (h : List.Forall₂ (fun o rule => OverrideRule.ofOverride o = .ok rule) overrides rules)
    {name source path : String} {e : Element m}
    (he : typedElement rules name source path = .ok e) : e.Decided overrides path := by
  obtain ⟨type, -, rfl⟩ := typedElement_eq_ok.mp he
  rcases override_eq h path (Element.new name type : Element m) with
    ⟨hnone, hslot⟩ | ⟨before, o, after, rule, hsplit, hmatch, hafter, ho, hslot⟩
  · rw [hslot]
    exact .none hnone rfl (resolve_new name type)
  · have hexpands : Expands o.type name (rule.typeFor name) := by
      rw [← template_of_ofOverride ho]
      exact expands_iff.mpr rfl
    rw [hslot]
    exact .last hsplit hmatch hafter hexpands rfl
      (resolve_inferName _ fun field => rule.typeFor field.name)

/-! ## all elements -/

/-- The elements of a method are made of its declared elements, one by one. -/
theorem elements_of_method {rules : List OverrideRule} {path : String} {d : MethodDecl}
    {method : Method m} (h : d.method rules path = .ok method) :
    List.Forall₂ (fun d e => typedElement rules d.name d.type d.path = .ok e)
      (d.elementDecls path) (method.parameters ++ [method.element]) := by
  obtain ⟨hparameters, helement⟩ := method_eq_ok.mp h
  refine List.rel_append ?_ (.cons helement .nil)
  exact List.forall₂_map_left_iff.mpr hparameters

/-- The elements of an interface are made of its declared elements, one by one. -/
theorem elements_of_interface {rules : List OverrideRule} {scope : Option String}
    {d : InterfaceDecl} {i : Interface m} (h : d.interface rules scope = .ok i) :
    List.Forall₂ (fun d e => typedElement rules d.name d.type d.path = .ok e)
      d.elementDecls i.elements := by
  obtain ⟨-, hmembers, hmethods⟩ := interface_eq_ok.mp h
  refine List.rel_append (List.forall₂_map_left_iff.mpr hmembers) ?_
  exact List.rel_flatMap hmethods fun _ _ => elements_of_method

/-- **The last override that matches an element's path decides its type.**  The
elements of a model's interfaces are those that the model declares, in the same
order; each has its declared name, its parsed type, and in its slot the last
override for its path, or nothing if there is none. -/
theorem Model.last_override_wins [LawfulMonad m] {model : Model} {is : List (Interface m)}
    (h : model.toInterfaces = .ok is) :
    List.Forall₂ (fun (d : ElementDecl) (e : Element m) => e.field.name = d.name ∧
        Native.parse d.type = .ok e.field.type ∧ e.Decided model.overrides d.path)
      model.elementDecls (is.flatMap Interface.elements) := by
  obtain ⟨rules, hrules, hinterfaces⟩ := toInterfaces_eq_ok.mp h
  have helements : List.Forall₂ (fun d e => typedElement rules d.name d.type d.path = .ok e)
      model.elementDecls (is.flatMap Interface.elements) :=
    List.rel_flatMap hinterfaces fun _ _ => elements_of_interface
  refine helements.imp fun d e he => ?_
  obtain ⟨hname, htype⟩ := describes_of_typedElement he
  exact ⟨hname, htype, decided_of_typedElement hrules he⟩

/-- A model in which two overrides match a member. -/
def Model.orders : Model where
  scope := none
  interfaces := [⟨"Order", none, [⟨"id", "u64"⟩], [⟨"total", [⟨"currency", "String"⟩], "f64"⟩]⟩]
  overrides := [⟨"Order\\..*", "Any"⟩, ⟨"Order\\.id", "\x7bname\x7dId"⟩, ⟨"Cart", "Never"⟩]

/-- The member has the type of the second override, and the other elements that
of the first. -/
theorem last_override_wins_orders :
    ∃ is : List (Interface Id), Model.orders.toInterfaces = .ok is ∧
      List.Forall₂ (fun (d : ElementDecl) (e : Element Id) => e.field.name = d.name ∧
          Native.parse d.type = .ok e.field.type ∧ e.Decided Model.orders.overrides d.path)
        [⟨"id", "Order.id", "u64"⟩, ⟨"currency", "Order.total.currency", "String"⟩,
          ⟨"total", "Order.total", "f64"⟩]
        (is.flatMap Interface.elements) ∧
      (is.flatMap Interface.elements).map (fun e => Id.run (e.resolve .default)) =
        [.ok (.simple "idId"), .ok (.simple "Any"), .ok (.simple "Any")] := by
  have hresolve : (Model.orders.toInterfaces : Except ModelError (List (Interface Id))).map
      (fun is => (is.flatMap Interface.elements).map fun e => Id.run (e.resolve .default)) =
        .ok [.ok (.simple "idId"), .ok (.simple "Any"), .ok (.simple "Any")] := by decide +kernel
  cases h : (Model.orders.toInterfaces : Except ModelError (List (Interface Id))) with
  | error cause => simp [h, Except.map] at hresolve
  | ok is =>
      rw [h] at hresolve
      exact ⟨is, rfl, Model.last_override_wins h, Except.ok.inj hresolve⟩

end DeclGen
