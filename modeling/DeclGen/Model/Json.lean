import DeclGen.Json.Parser
import DeclGen.Model.Basic

/-!
# DeclGen.Model.Json

Models written in JSON.
-/

namespace DeclGen

/-- A member or a parameter. -/
def MemberDecl.ofJson? (json : Json) : Option MemberDecl := do
  match ← json.record? ["name", "type"] with
  | [name, type] => some ⟨← (← name).text?, ← (← type).text?⟩
  | _ => none

/-- A method. -/
def MethodDecl.ofJson? (json : Json) : Option MethodDecl := do
  match ← json.record? ["name", "params", "returns"] with
  | [name, params, returns] =>
    some {
      name := ← (← name).text?
      params := ← Json.orDefault params (Json.list? MemberDecl.ofJson?) []
      returns := ← Json.orDefault returns Json.text? defaultReturns }
  | _ => none

/-- An interface. -/
def InterfaceDecl.ofJson? (json : Json) : Option InterfaceDecl := do
  match ← json.record? ["name", "namespace", "members", "methods"] with
  | [name, scope, members, methods] =>
    some {
      name := ← (← name).text?
      scope := ← Json.orNull scope Json.text?
      members := ← Json.orDefault members (Json.list? MemberDecl.ofJson?) []
      methods := ← Json.orDefault methods (Json.list? MethodDecl.ofJson?) [] }
  | _ => none

/-- An override. -/
def Override.ofJson? (json : Json) : Option Override := do
  match ← json.record? ["target", "type"] with
  | [target, type] => some ⟨← (← target).text?, ← (← type).text?⟩
  | _ => none

/-- A model. -/
def Model.ofJson? (json : Json) : Option Model := do
  match ← json.record? ["namespace", "interfaces", "overrides"] with
  | [scope, interfaces, overrides] =>
    some {
      scope := ← Json.orNull scope Json.text?
      interfaces := ← (← interfaces).list? InterfaceDecl.ofJson?
      overrides := ← Json.orDefault overrides (Json.list? Override.ofJson?) [] }
  | _ => none

/-- The model that a JSON text holds. -/
def Model.parseJson? (text : String) : Option Model := (Json.parse? text).bind ofJson?

end DeclGen
