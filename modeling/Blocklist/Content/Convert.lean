/-
This file converts the rules of a filter list into content rules.
-/

import Blocklist.Content.Domains
import Blocklist.Content.Exemption
import Blocklist.Content.ResourceTypes
import Blocklist.Content.UrlFilter
import Blocklist.Filter.Parser

namespace Blocklist

/-- An exception ignores the rules before it, and keeps the selector that it spares. -/
def Action.forRule (isException : Bool) (action : Action) : Action :=
  if isException then action.exempting else action

def CosmeticRule.convert (rule : CosmeticRule) : Except ConversionError ContentRule := do
  if rule.isInjected then throw (.injection .css)
  let scope ← DomainScope.ofNames rule.includedDomains rule.excludedDomains
  return {
    trigger := scope.narrow Trigger.anyUrl
    action := (Action.cssDisplayNone rule.selector).forRule rule.isException }

def UrlRule.loadTypes (rule : UrlRule) : Option (List LoadType) :=
  rule.thirdParty.map fun isThird => [if isThird then .thirdParty else .firstParty]

def UrlRule.convert (rule : UrlRule) : Except ConversionError ContentRule := do
  let urlFilter ← UrlFilter.ofPattern rule.pattern.urlFilter
  let resourceTypes ← ResourceType.ofMask rule.types
  let scope ← DomainScope.ofNames rule.includedDomains rule.excludedDomains
  let trigger := scope.narrow { Trigger.ofUrlFilter urlFilter with
    resourceTypes
    loadTypes := rule.loadTypes
    caseSensitive := if rule.matchCase then some true else none }
  return {
    trigger := ← rule.exempt trigger
    action := Action.block.forRule rule.isException }

def FilterRule.convert : FilterRule → Except ConversionError ContentRule
  | .cosmetic rule => rule.convert
  | .script _ => .error (.injection .script)
  | .url rule => rule.convert

/-- A line that is a comment has no rule. -/
def ContentRule.ofLine (parser : FilterRule.Parser) (line : Text) :
    Except ConversionError (Option ContentRule) :=
  if isComment line then .ok none
  else
    match parser (Text.trim line) with
    | .error cause => .error (.ofFilterError cause)
    | .ok rule => rule.convert.map some

end Blocklist
