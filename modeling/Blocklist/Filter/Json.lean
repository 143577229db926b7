/-
This file writes filter rules as JSON, and reads them.
-/

import Blocklist.Filter.Rule
import Blocklist.Json

namespace Blocklist

open Json

def CosmeticRule.toJson (rule : CosmeticRule) : Value :=
  .object [
    ("selector".toList, .text rule.selector),
    ("included_domains".toList, .ofTexts rule.includedDomains),
    ("excluded_domains".toList, .ofTexts rule.excludedDomains),
    ("is_whitelist".toList, .bool rule.isException),
    ("is_injected".toList, .bool rule.isInjected),
    ("raw_line".toList, .text rule.line)]

def CosmeticRule.ofJson? (value : Value) : Option CosmeticRule := do
  return {
    selector := ← value.required? "selector".toList Value.text?
    includedDomains := ← value.required? "included_domains".toList Value.texts?
    excludedDomains := ← value.required? "excluded_domains".toList Value.texts?
    isException := ← value.required? "is_whitelist".toList Value.bool?
    isInjected := ← value.required? "is_injected".toList Value.bool?
    line := ← value.required? "raw_line".toList Value.text? }

def ScriptRule.toJson (rule : ScriptRule) : Value :=
  .object [("raw_text".toList, .text rule.line)]

def ScriptRule.ofJson? (value : Value) : Option ScriptRule :=
  (value.required? "raw_text".toList Value.text?).map ScriptRule.mk

def PatternTexts.toJson (source : PatternTexts) : Value :=
  .object [
    ("regex".toList, .ofOption .text source.regex),
    ("derived".toList, .ofOption .text source.derived),
    ("raw".toList, .text source.raw)]

def PatternTexts.ofJson? (value : Value) : Option PatternTexts := do
  return {
    regex := ← value.optional? "regex".toList Value.text?
    derived := ← value.optional? "derived".toList Value.text?
    raw := ← value.required? "raw".toList Value.text? }

def TypeMask.toJson (mask : TypeMask) : Value :=
  .object [("bits".toList, .integer mask.bits.toNat)]

/-- A mask is given by a whole number of 32 bits. -/
def TypeMask.ofBits? (value : Value) : Option TypeMask :=
  (value.below? 0x100000000).map fun bits => ⟨BitVec.ofNat 32 bits⟩

def TypeMask.ofJson? (value : Value) : Option TypeMask :=
  value.required? "bits".toList TypeMask.ofBits?

def UrlRule.toJson (rule : UrlRule) : Value :=
  .object [
    ("pattern_source".toList, rule.pattern.toJson),
    ("content_type_mask".toList, rule.types.toJson),
    ("is_whitelist".toList, .bool rule.isException),
    ("is_third_party".toList, .ofOption .bool rule.thirdParty),
    ("match_case".toList, .bool rule.matchCase),
    ("included_domains".toList, .ofTexts rule.includedDomains),
    ("excluded_domains".toList, .ofTexts rule.excludedDomains),
    ("original_text".toList, .text rule.line)]

def UrlRule.ofJson? (value : Value) : Option UrlRule := do
  return {
    pattern := ← value.required? "pattern_source".toList PatternTexts.ofJson?
    types := ← value.required? "content_type_mask".toList TypeMask.ofJson?
    isException := ← value.required? "is_whitelist".toList Value.bool?
    thirdParty := ← value.optional? "is_third_party".toList Value.bool?
    matchCase := ← value.required? "match_case".toList Value.bool?
    includedDomains := ← value.required? "included_domains".toList Value.texts?
    excludedDomains := ← value.required? "excluded_domains".toList Value.texts?
    line := ← value.required? "original_text".toList Value.text? }

namespace FilterRule

def cosmeticKey : Text := "Cosmetic".toList

def scriptKey : Text := "Script".toList

def urlKey : Text := "Url".toList

def toJson : FilterRule → Value
  | .cosmetic rule => .object [(cosmeticKey, rule.toJson)]
  | .script rule => .object [(scriptKey, rule.toJson)]
  | .url rule => .object [(urlKey, rule.toJson)]

/-- The only member names the kind of the rule. -/
def ofJson? : Value → Option FilterRule
  | .object [(key, value)] =>
      if key = cosmeticKey then (CosmeticRule.ofJson? value).map .cosmetic
      else if key = scriptKey then (ScriptRule.ofJson? value).map .script
      else if key = urlKey then (UrlRule.ofJson? value).map .url
      else none
  | _ => none

end FilterRule

end Blocklist
