/-
This file writes content rules as JSON, and reads them.
-/

import Blocklist.Content.Rule
import Blocklist.Json.Reader
import Blocklist.Json.Writer

namespace Blocklist

open Json

namespace Trigger

def urlFilterKey : Text := "url-filter".toList

def caseSensitiveKey : Text := "url-filter-is-case-sensitive".toList

def ifDomainKey : Text := "if-domain".toList

def unlessDomainKey : Text := "unless-domain".toList

def resourceTypesKey : Text := "resource-type".toList

def loadTypesKey : Text := "load-type".toList

/-- A condition that is absent has no member. -/
def member (key : Text) (value : Option Value) : List (Text × Value) :=
  (value.map fun present => (key, present)).toList

def toJson (trigger : Trigger) : Value :=
  .object (
    (urlFilterKey, .text trigger.urlFilter) ::
    (member caseSensitiveKey (trigger.caseSensitive.map .bool) ++
    member ifDomainKey (trigger.ifDomain.map Value.ofTexts) ++
    member unlessDomainKey (trigger.unlessDomain.map Value.ofTexts) ++
    member resourceTypesKey
      (trigger.resourceTypes.map fun types => Value.ofTexts (types.map ResourceType.name)) ++
    member loadTypesKey
      (trigger.loadTypes.map fun types => Value.ofTexts (types.map LoadType.name))))

def ofJson? (value : Value) : Option Trigger := do
  let named := fun {A : Type} (ofName? : Text → Option A) =>
    Value.array? fun item => item.text?.bind ofName?
  return {
    urlFilter := ← value.required? urlFilterKey Value.text?
    caseSensitive := ← value.optional? caseSensitiveKey Value.bool?
    ifDomain := ← value.optional? ifDomainKey Value.texts?
    unlessDomain := ← value.optional? unlessDomainKey Value.texts?
    resourceTypes := ← value.optional? resourceTypesKey (named ResourceType.ofName?)
    loadTypes := ← value.optional? loadTypesKey (named LoadType.ofName?) }

end Trigger

namespace Action

def typeKey : Text := "type".toList

def selectorKey : Text := "selector".toList

def blockName : Text := "block".toList

def ignoreName : Text := "ignore-previous-rules".toList

def hideName : Text := "css-display-none".toList

def toJson : Action → Value
  | .block => .object [(typeKey, .text blockName)]
  | .ignorePreviousRules selector =>
      .object ((typeKey, .text ignoreName) :: Trigger.member selectorKey (selector.map .text))
  | .cssDisplayNone selector =>
      .object [(typeKey, .text hideName), (selectorKey, .text selector)]

def ofJson? (value : Value) : Option Action := do
  let name ← value.required? typeKey Value.text?
  if name = blockName then return .block
  else if name = ignoreName then
    return .ignorePreviousRules (← value.optional? selectorKey Value.text?)
  else if name = hideName then
    return .cssDisplayNone (← value.required? selectorKey Value.text?)
  else none

end Action

namespace ContentRule

def triggerKey : Text := "trigger".toList

def actionKey : Text := "action".toList

def toJson (rule : ContentRule) : Value :=
  .object [(triggerKey, rule.trigger.toJson), (actionKey, rule.action.toJson)]

def ofJson? (value : Value) : Option ContentRule := do
  return {
    trigger := ← value.required? triggerKey Trigger.ofJson?
    action := ← value.required? actionKey Action.ofJson? }

/-- The rules as an array that is indented with tabs. -/
def writeAll (rules : List ContentRule) : Text :=
  Value.indented 0 (.array (rules.map toJson))

def readAll? (text : Text) : Option (List ContentRule) :=
  (Json.read? text).bind (Value.array? ofJson?)

end ContentRule

end Blocklist
