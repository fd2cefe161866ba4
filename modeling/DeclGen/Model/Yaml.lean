import DeclGen.Model.Basic
import DeclGen.Yaml.Document

/-!
# DeclGen.Model.Yaml

Models written in YAML.
-/

namespace DeclGen

open Yaml Yaml.Document

/-- A member or a parameter. -/
def MemberDecl.ofYaml (d : Document) (node : Node Nat) : Reading MemberDecl := do
  match ← d.record ["name", "type"] node with
  | [name, type] => pure ⟨← required name d.text, ← required type d.text⟩
  | _ => failure

/-- A method. -/
def MethodDecl.ofYaml (d : Document) (node : Node Nat) : Reading MethodDecl := do
  match ← d.record ["name", "params", "returns"] node with
  | [name, params, returns] =>
    pure {
      name := ← required name d.text
      params := ← orDefault params (d.list (MemberDecl.ofYaml d)) []
      returns := ← orDefault returns d.text defaultReturns }
  | _ => failure

/-- An interface. -/
def InterfaceDecl.ofYaml (d : Document) (node : Node Nat) : Reading InterfaceDecl := do
  match ← d.record ["name", "namespace", "members", "methods"] node with
  | [name, scope, members, methods] =>
    pure {
      name := ← required name d.text
      scope := ← orDefault scope (d.nullable d.text) none
      members := ← orDefault members (d.list (MemberDecl.ofYaml d)) []
      methods := ← orDefault methods (d.list (MethodDecl.ofYaml d)) [] }
  | _ => failure

/-- An override. -/
def Override.ofYaml (d : Document) (node : Node Nat) : Reading Override := do
  match ← d.record ["target", "type"] node with
  | [target, type] => pure ⟨← required target d.text, ← required type d.text⟩
  | _ => failure

/-- A model. -/
def Model.ofYaml (d : Document) (node : Node Nat) : Reading Model := do
  match ← d.record ["namespace", "interfaces", "overrides"] node with
  | [scope, interfaces, overrides] =>
    pure {
      scope := ← orDefault scope (d.nullable d.text) none
      interfaces := ← required interfaces (d.list (InterfaceDecl.ofYaml d))
      overrides := ← orDefault overrides (d.list (Override.ofYaml d)) [] }
  | _ => failure

/-- The model that a YAML text holds. -/
def Model.parseYaml? (text : String) : Option Model := do
  let d ← Document.parse? text
  let (model, _) ← (ofYaml d d.root).run 0
  some model

end DeclGen
