import DeclGen.Proofs.Model.Overrides
import DeclGen.Proofs.Pattern.Whole

/-!
# DeclGen.Proofs.Model.Targets

The targets of overrides, which are patterns in an enclosure.

1. The overrides that match an element's path are put into its slot in their order,
   and no others are (`Element.Installs`).  A target that is valid on its own
   matches the paths that it matches from the first character to the last.
2. A target that is not valid is reported, unless it closes the group that it is
   put into.
-/

namespace DeclGen

variable {m : Type → Type} [Monad m]

/-! ## whole paths -/

/-- Overrides are put into the slot of an element, one after the other: those that
are installed on it, each with its expanded type, and no others. -/
inductive Element.Installs (installed : Override → Prop) :
    List Override → Element m → Element m → Prop
  | nil (e : Element m) : Installs installed [] e e
  | install {o : Override} {os : List Override} {e e' : Element m} {text : Field → String}
      (holds : installed o) (expands : ∀ field : Field, Expands o.type field.name (text field))
      (rest : Installs installed os (e.inferName fun field => pure (text field)) e') :
      Installs installed (o :: os) e e'
  | pass {o : Override} {os : List Override} {e e' : Element m} (fails : ¬ installed o)
      (rest : Installs installed os e e') : Installs installed (o :: os) e e'

/-- The overrides that match a path are installed. -/
theorem installs_override {overrides : List Override} {rules : List OverrideRule}
    (h : List.Forall₂ (fun o rule => OverrideRule.ofOverride o = .ok rule) overrides rules)
    (path : String) (e : Element m) :
    Element.Installs (fun o => o.Matches path) overrides e (e.override rules path) := by
  induction h generalizing e with
  | nil => exact .nil e
  | @cons o rule os rules ho _ ih =>
      rw [override_cons]
      by_cases hmatch : o.Matches path
      · rw [if_pos ((appliesTo_iff ho path).mpr hmatch)]
        refine .install hmatch (fun field => ?_) (ih _)
        rw [← template_of_ofOverride ho]
        exact expands_iff.mpr rfl
      · rw [if_neg (mt (appliesTo_iff ho path).mp hmatch)]
        exact .pass hmatch (ih e)

/-- A compiled target that is valid on its own matches a path if it matches the whole
path. -/
theorem matches_iff_whole {o : Override} (hcompiles : o.Compiles) {e : Pattern.Expr}
    (he : Pattern.expr? o.target = some e) (path : String) :
    o.Matches path ↔ e.MatchesWhole path := by
  obtain ⟨pattern, hpattern⟩ := hcompiles
  have hmatch := Pattern.isMatch_enclose_iff he hpattern path
  rw [Override.Matches, hpattern]
  simpa using hmatch

theorem compiles_of_toInterfaces {model : Model} {is : List (Interface m)}
    (h : model.toInterfaces = .ok is) {o : Override} (ho : o ∈ model.overrides) :
    o.Compiles := by
  have hfailure : failure? (model.toInterfaces : Except ModelError (List (Interface m))) = none :=
    failure?_eq_none.mpr ⟨is, h⟩
  rw [failure?_toInterfaces, findSome?_fault_eq_none] at hfailure
  exact hfailure.1 o ho

/-- **Override targets match whole paths only.**  The elements of a model's interfaces
are those that it declares, and on each of them the overrides are installed that match
its path.  A target that is a pattern of its own, in any form, matches the paths from
the first character of which it matches to the last. -/
theorem Model.targets_match_whole_paths {model : Model} {is : List (Interface m)}
    (h : model.toInterfaces = .ok is) :
    List.Forall₂ (fun (d : ElementDecl) (e : Element m) => ∃ type,
        Native.parse d.type = .ok type ∧
        Element.Installs (fun o => o.Matches d.path) model.overrides
          (Element.new d.name type) e)
      model.elementDecls (is.flatMap Interface.elements) ∧
    ∀ o ∈ model.overrides, ∀ e : Pattern.Expr, Pattern.expr? o.target = some e →
      ∀ path, o.Matches path ↔ e.MatchesWhole path := by
  constructor
  · obtain ⟨rules, hrules, hinterfaces⟩ := toInterfaces_eq_ok.mp h
    have helements : List.Forall₂ (fun d e => typedElement rules d.name d.type d.path = .ok e)
        model.elementDecls (is.flatMap Interface.elements) :=
      List.rel_flatMap hinterfaces fun _ _ => elements_of_interface
    refine helements.imp fun d e he => ?_
    obtain ⟨type, htype, rfl⟩ := typedElement_eq_ok.mp he
    exact ⟨type, htype, installs_override hrules d.path _⟩
  · intro o ho e he path
    exact matches_iff_whole (compiles_of_toInterfaces h ho) he path

/-- A model with a target that has branches, a flag and anchors of its own. -/
def Model.branching : Model where
  scope := none
  interfaces := [⟨"Order", none, [⟨"id", "u64"⟩, ⟨"id_old", "u64"⟩], []⟩]
  overrides := [⟨"(?m)Order\\.id|^Cart$", "OrderId"⟩]

/-- Each branch is for whole paths: the member whose path goes on keeps its type. -/
theorem targets_match_whole_paths_branching :
    ∃ (is : List (Interface Id)) (e : Pattern.Expr), Model.branching.toInterfaces = .ok is ∧
      Pattern.expr? "(?m)Order\\.id|^Cart$" = some e ∧
      e.MatchesWhole "Order.id" ∧ ¬ e.MatchesWhole "Order.id_old" ∧
      List.Forall₂ (fun (d : ElementDecl) (e : Element Id) => ∃ type,
          Native.parse d.type = .ok type ∧
          Element.Installs (fun o => o.Matches d.path) Model.branching.overrides
            (Element.new d.name type) e)
        [⟨"id", "Order.id", "u64"⟩, ⟨"id_old", "Order.id_old", "u64"⟩]
        (is.flatMap Interface.elements) := by
  have hresult : failure? (Model.branching.toInterfaces :
      Except ModelError (List (Interface Id))) = none := by decide +kernel
  have hvalid : (Pattern.expr? "(?m)Order\\.id|^Cart$").isSome = true := by decide +kernel
  have hmatch : (Pattern.compile? "^(?:(?m)Order\\.id|^Cart$)$").map (fun p =>
      (p.isMatch "Order.id", p.isMatch "Order.id_old")) = some (true, false) := by decide +kernel
  obtain ⟨is, his⟩ := failure?_eq_none.mp hresult
  obtain ⟨e, he⟩ := Option.isSome_iff_exists.mp hvalid
  obtain ⟨p, hp, hboth⟩ := Option.map_eq_some_iff.mp hmatch
  obtain ⟨hid, hold⟩ := Prod.mk.inj hboth
  obtain ⟨helements, hwhole⟩ := Model.targets_match_whole_paths his
  have hcovers := hwhole _ (List.mem_singleton_self _) e he
  refine ⟨is, e, his, he, (hcovers "Order.id").mp ⟨p, hp, hid⟩, ?_, helements⟩
  rw [← hcovers "Order.id_old"]
  rintro ⟨p', hp', hmatch'⟩
  obtain rfl := Option.some.inj (hp.symm.trans hp')
  simp [hold] at hmatch'

/-! ## targets that are no patterns -/

/-- A compiled target is a pattern of its own if and only if it does not close its
group. -/
theorem isValid_iff_of_compiles {o : Override} (h : o.Compiles) :
    Pattern.IsValid o.target ↔ ¬ Pattern.ClosesGroup o.target := by
  obtain ⟨pattern, hpattern⟩ := h
  have henclosed : Pattern.IsValid (Pattern.enclose o.target) :=
    Option.isSome_iff_exists.mpr ⟨_, Pattern.compile?_eq_some hpattern⟩
  exact Pattern.isValid_iff_of_enclose henclosed

/-- **A target that is no pattern is reported, unless it closes its group.**  Either
the target of an override is reported, or the targets are patterns of their own, apart
from those that close the group which they are put into. -/
theorem Model.reports_target_or_valid_iff (model : Model) :
    (∃ o ∈ model.overrides, (model.toInterfaces : Except ModelError (List (Interface m))) =
      .error (.target o.target)) ∨
    ∀ o ∈ model.overrides, Pattern.IsValid o.target ↔ ¬ Pattern.ClosesGroup o.target := by
  have hfault := failure?_toInterfaces (m := m) model
  cases hresult : (model.overrides.findSome? Override.fault?).or
      (model.elementDecls.findSome? ElementDecl.fault?) with
  | none =>
      right
      exact fun o ho => isValid_iff_of_compiles ((findSome?_fault_eq_none.mp hresult).1 o ho)
  | some error =>
      rw [hresult, failure?_eq_some] at hfault
      cases findSome?_fault_eq_some.mp hresult with
      | @target before after o hsplit hbefore hbroken =>
          left
          exact ⟨o, by rw [hsplit]; simp, hfault⟩
      | type hcompile =>
          right
          exact fun o ho => isValid_iff_of_compiles (hcompile o ho)

/-- A model with a target that closes its group. -/
def Model.closing : Model where
  scope := none
  interfaces := [⟨"Order", none, [⟨"id", "u64"⟩, ⟨"idempotency_key", "String"⟩], []⟩]
  overrides := [⟨"Order\\.id)|(?:Cart\\.id", "OrderId"⟩]

/-- The target is no pattern, but it is not reported; it retypes a member whose path
only starts as its first branch says. -/
theorem unreported_target_closing :
    (∃ o ∈ Model.closing.overrides, ¬ Pattern.IsValid o.target) ∧
    ∃ is : List (Interface Id), Model.closing.toInterfaces = .ok is ∧
      (is.flatMap Interface.elements).map (fun e => (e.field.name, Id.run (e.resolve .default))) =
        [("id", .ok (.simple "OrderId")), ("idempotency_key", .ok (.simple "OrderId"))] := by
  have hinvalid : (Pattern.expr? "Order\\.id)|(?:Cart\\.id").isSome = false := by decide +kernel
  have hresult : (Model.closing.toInterfaces : Except ModelError (List (Interface Id))).map
      (fun is => (is.flatMap Interface.elements).map fun e =>
        (e.field.name, Id.run (e.resolve .default))) =
      .ok [("id", .ok (.simple "OrderId")), ("idempotency_key", .ok (.simple "OrderId"))] := by
    decide +kernel
  refine ⟨⟨_, List.mem_singleton_self _, by simp [Pattern.IsValid, hinvalid]⟩, ?_⟩
  cases h : (Model.closing.toInterfaces : Except ModelError (List (Interface Id))) with
  | error cause => simp [h, Except.map] at hresult
  | ok is =>
      rw [h] at hresult
      exact ⟨is, rfl, Except.ok.inj hresult⟩

end DeclGen
