/-
This file converts the items of a list one by one, and sorts what comes out of them.
-/

import Blocklist.Batch.Event
import Blocklist.Content.Convert

namespace Blocklist

/-- An item of a list is a line, or a rule that has been read already. -/
inductive Source where
  | written (line : Text)
  | parsed (rule : FilterRule)
deriving DecidableEq, Repr

/-- The text that stands for an item in a report. -/
def Source.text : Source → Text
  | .written line => line
  | .parsed rule => rule.line

/-- The rule is absent when a diagnostic is about the whole list. -/
structure Diagnostic where
  rule : Option Text
  cause : ConversionError
deriving DecidableEq, Repr

/-- The part that a converted rule plays in the output. -/
inductive Role where
  | hide
  | cssException
  | pageException
  | block
  | other
deriving DecidableEq, Repr

/-- An exception for documents is told by the first of its resource types. -/
def ContentRule.role (rule : ContentRule) : Role :=
  match rule.action with
  | .block => .block
  | .cssDisplayNone _ => .hide
  | .ignorePreviousRules selector =>
      if (rule.trigger.resourceTypes.getD []).head? = some .document then .pageException
      else if selector.isSome then .cssException
      else .other

/-- What becomes of an item. -/
inductive Outcome where
  | skipped
  | rejected (line : Text) (cause : ConversionError)
  | converted (line : Text) (rule : ContentRule)
deriving DecidableEq, Repr

namespace Outcome

def ofSource (parser : FilterRule.Parser) (source : Source) : Outcome :=
  let result :=
    match source with
    | .written line => ContentRule.ofLine parser line
    | .parsed rule => rule.convert.map some
  match result with
  | .ok none => .skipped
  | .ok (some rule) => .converted source.text rule
  | .error cause => .rejected source.text cause

def diagnostic? : Outcome → Option Diagnostic
  | .rejected line cause => some ⟨some line, cause⟩
  | _ => none

def event? : Outcome → Option Event
  | .rejected line cause => some (.rejected line cause)
  | _ => none

def rule? : Outcome → Option ContentRule
  | .converted _ rule => some rule
  | _ => none

/-- A converted rule of a role. -/
def ruleOf? (role : Role) (outcome : Outcome) : Option ContentRule :=
  outcome.rule?.filter fun rule => rule.role = role

end Outcome

/-- A hiding rule, with the line that it comes from. -/
structure HidingRule where
  line : Text
  rule : ContentRule
deriving DecidableEq, Repr

def Outcome.hidingRule? : Outcome → Option HidingRule
  | .converted line rule => if rule.role = .hide then some ⟨line, rule⟩ else none
  | _ => none

end Blocklist
