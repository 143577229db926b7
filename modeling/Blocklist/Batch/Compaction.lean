/-
This file packs the selectors of hiding rules without domains into few rules.
-/

import Blocklist.Batch.Error
import Blocklist.Batch.Event
import Blocklist.Content.Rule

namespace Blocklist

/-- The selectors that one rule can hold. -/
def selectorsPerRule : Nat := 250

/-- Rules for all domains, and rules for some. -/
structure Compacted where
  wide : List ContentRule
  domainSensitive : List ContentRule
deriving DecidableEq, Repr

namespace Compacted

/-- One rule that hides what several selectors match. -/
def pack (selectors : List Text) : ContentRule :=
  ⟨Trigger.anyUrl, .cssDisplayNone (", ".toList.intercalate selectors)⟩

/-- Selectors that are not packed yet become a rule of their own. -/
def close (pending : List Text) : List ContentRule :=
  if pending.isEmpty then [] else [pack pending]

def addWide (rules : List ContentRule) (compacted : Compacted) : Compacted :=
  { compacted with wide := rules ++ compacted.wide }

def addDomainSensitive (rule : ContentRule) (compacted : Compacted) : Compacted :=
  { compacted with domainSensitive := rule :: compacted.domainSensitive }

/-- Selectors are gathered until a rule is full. -/
def gather (capacity : Nat) (pending : List Text) :
    List ContentRule → Except BatchError Compacted
  | [] => .ok ⟨close pending, []⟩
  | rule :: rules =>
      if rule.trigger.isRestricted then
        (gather capacity pending rules).map (addDomainSensitive rule)
      else
        match rule.action with
        | .cssDisplayNone selector =>
            let gathered := pending ++ [selector]
            if capacity ≤ gathered.length then
              (gather capacity [] rules).map (addWide (close gathered))
            else gather capacity gathered rules
        | _ => .error .foreignAction

/-- A rule holds one selector at least. -/
def ofRules (capacity : Nat) (rules : List ContentRule) : Except BatchError Compacted :=
  gather (max capacity 1) [] rules

def events (ruleCount : Nat) (compacted : Compacted) : List Event :=
  [.compacting ruleCount, .compacted compacted.wide.length compacted.domainSensitive.length]

end Compacted

end Blocklist
