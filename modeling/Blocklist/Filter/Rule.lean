/-
This file holds the rules that a filter list writes.
-/

import Blocklist.Filter.TypeMask
import Blocklist.Text

namespace Blocklist

/-- A rule that hides the elements of a selector, or styles them, on some pages. -/
structure CosmeticRule where
  selector : Text
  includedDomains : List Text
  excludedDomains : List Text
  isException : Bool
  isInjected : Bool
  line : Text
deriving DecidableEq, Repr

/-- A rule that injects a script. -/
structure ScriptRule where
  line : Text
deriving DecidableEq, Repr

/-- The texts that the filter of a URL rule can be taken from. -/
structure PatternTexts where
  regex : Option Text
  derived : Option Text
  raw : Text
deriving DecidableEq, Repr

/-- A regular expression of the rule wins over a derived one, and that over the raw pattern. -/
def PatternTexts.urlFilter (source : PatternTexts) : Text :=
  match source.regex, source.derived with
  | some regex, _ => regex
  | none, some derived => if derived.isEmpty then source.raw else derived
  | none, none => source.raw

/-- A rule that blocks requests, or exempts them. -/
structure UrlRule where
  pattern : PatternTexts
  types : TypeMask
  isException : Bool
  thirdParty : Option Bool
  matchCase : Bool
  includedDomains : List Text
  excludedDomains : List Text
  line : Text
deriving DecidableEq, Repr

/-- The rule without the mark of an exception. -/
def UrlRule.body (rule : UrlRule) : Text := (rule.line.after? "@@".toList).getD rule.line

inductive FilterRule where
  | cosmetic (rule : CosmeticRule)
  | script (rule : ScriptRule)
  | url (rule : UrlRule)
deriving DecidableEq, Repr

/-- The line that the rule was read from. -/
def FilterRule.line : FilterRule → Text
  | .cosmetic rule => rule.line
  | .script rule => rule.line
  | .url rule => rule.line

end Blocklist
