/-
This file folds cosmetic exceptions into the hiding rules with the same selector.
-/

import Blocklist.Batch.Outcome

namespace Blocklist

open Text

namespace Trigger

/-- A required domain is part of the name of the exception, or no domain is required. -/
def reaches (trigger : Trigger) (domain : Text) : Bool :=
  let required := trigger.ifDomain.getD []
  required.isEmpty || required.any fun name => domain.holds name

/-- The domain of an exception is excluded once, from rules that it reaches only. -/
def exclude (trigger : Trigger) (domain : Text) : Trigger :=
  if trigger.reaches domain then
    let excluded := trigger.unlessDomain.getD []
    { trigger with
      unlessDomain := some (if excluded.contains domain then excluded else excluded ++ [domain]) }
  else trigger

/-- All domains of an exception are excluded. -/
def spare (trigger exception : Trigger) : Trigger :=
  (exception.ifDomain.getD []).foldl exclude trigger

end Trigger

/-- The exceptions that spare what a rule hides. -/
def ContentRule.exceptionsFor (exceptions : List ContentRule) (rule : ContentRule) :
    List Trigger :=
  (exceptions.filter fun exception =>
    exception.action.selector?.isSome &&
      exception.action.selector? == rule.action.selector?).map ContentRule.trigger

/-- A hiding rule after its exceptions, with the count of the exceptions. -/
def HidingRule.merge (exceptions : List ContentRule) (hidden : HidingRule) : HidingRule × Nat :=
  let found := hidden.rule.exceptionsFor exceptions
  let trigger := found.foldl Trigger.spare hidden.rule.trigger
  ({ hidden with rule := { hidden.rule with trigger } }, found.length)

/-- The hiding rules that remain, the lines of the others, and the count of exceptions applied. -/
structure Merged where
  kept : List ContentRule
  conflicts : List Text
  applied : Nat
deriving DecidableEq, Repr

namespace Merged

/-- A rule with both required and excluded domains cannot be expressed. -/
def merge (hidden : List HidingRule) (exceptions : List ContentRule) : Merged :=
  let merged := hidden.map fun rule => rule.merge exceptions
  let rules := merged.map Prod.fst
  { kept := (rules.filter fun entry => !entry.rule.trigger.hasConflict).map HidingRule.rule
    conflicts := (rules.filter fun entry => entry.rule.trigger.hasConflict).map HidingRule.line
    applied := merged.foldl (fun total entry => total + entry.2) 0 }

def diagnostics (merged : Merged) : List Diagnostic :=
  merged.conflicts.map fun line => ⟨some line, .conflictAfterExceptions⟩

def events (exceptionCount : Nat) (merged : Merged) : List Event :=
  .applyingExceptions exceptionCount :: merged.conflicts.map .conflict ++
    [.exceptionsApplied merged.applied, .exceptionsFailed merged.conflicts.length]

end Merged

end Blocklist
