/-
This file converts whole filter lists.
-/

import Blocklist.Batch.Compaction
import Blocklist.Batch.Merging
import Blocklist.Content.Json

namespace Blocklist

/-- The number of rules that a content blocker can hold. -/
def ruleLimit : Nat := 50000

/-- A limit that is not positive does not count. -/
def effectiveLimit (limit : Option Int) : Option Nat :=
  (limit.filter (0 < ·)).map Int.toNat

namespace Trigger

/-- A star in front of a domain makes it match its subdomains too. -/
def widen (trigger : Trigger) : Trigger :=
  { trigger with
    ifDomain := trigger.ifDomain.map (List.map ('*' :: ·))
    unlessDomain := trigger.unlessDomain.map (List.map ('*' :: ·)) }

end Trigger

/-- The converted rules of a list in groups, in the order of the output. -/
structure Groups where
  wide : List ContentRule
  domainSensitive : List ContentRule
  pageExceptions : List ContentRule
  blocking : List ContentRule
  other : List ContentRule
  diagnostics : List Diagnostic
  events : List Event
deriving DecidableEq, Repr

namespace Groups

/-- Exceptions for pages come before the rules that block, and other exceptions after them. -/
def rules (groups : Groups) : List ContentRule :=
  groups.wide ++ groups.domainSensitive ++ groups.pageExceptions ++ groups.blocking ++
    groups.other

def counts (groups : Groups) : GroupCounts :=
  { wide := groups.wide.length
    domainSensitive := groups.domainSensitive.length
    pageExceptions := groups.pageExceptions.length
    blocking := groups.blocking.length
    other := groups.other.length
    diagnostics := groups.diagnostics.length }

def ofOutcomes (outcomes : List Outcome) : Except BatchError Groups := do
  let ofRole := fun role => outcomes.filterMap (Outcome.ruleOf? role)
  let exceptions := ofRole .cssException
  let merged := Merged.merge (outcomes.filterMap Outcome.hidingRule?) exceptions
  let compacted ← Compacted.ofRules selectorsPerRule merged.kept
  return {
    wide := compacted.wide
    domainSensitive := compacted.domainSensitive
    pageExceptions := ofRole .pageException
    blocking := ofRole .block
    other := ofRole .other
    diagnostics := outcomes.filterMap Outcome.diagnostic? ++ merged.diagnostics
    events := outcomes.filterMap Outcome.event? ++ merged.events exceptions.length ++
      compacted.events merged.kept.length }

end Groups

/-- The outcome of a conversion. -/
structure Report where
  rules : List ContentRule
  overLimit : Bool
  diagnostics : List Diagnostic
  events : List Event
deriving DecidableEq, Repr

namespace Report

/-- Rules beyond the limit are cut off, which is told once. -/
def ofGroups (limit : Option Nat) (sourceCount : Nat) (groups : Groups) : Report :=
  let rules := groups.rules.map fun rule => { rule with trigger := rule.trigger.widen }
  let events := .started sourceCount :: groups.events ++ [.grouped groups.counts]
  match limit with
  | some limit =>
      if limit < rules.length then
        { rules := rules.take limit
          overLimit := true
          diagnostics := groups.diagnostics ++ [⟨none, .overLimit limit⟩]
          events := events ++ [.limitReached limit (rules.length - limit)] }
      else ⟨rules, false, groups.diagnostics, events⟩
  | none => ⟨rules, false, groups.diagnostics, events⟩

/-- A list without items is refused. -/
def ofSources (parser : FilterRule.Parser) (limit : Option Int) (sources : List Source) :
    Except BatchError Report :=
  if sources.isEmpty then .error .emptyInput
  else
    (Groups.ofOutcomes (sources.map (Outcome.ofSource parser))).map
      (ofGroups (effectiveLimit limit) sources.length)

/-- The list that a text writes, one line after the other. -/
def ofText (limit : Option Int) (text : Text) : Except BatchError Report :=
  ofSources FilterRule.parse limit ((Text.lines text).map Source.written)

/-- The rules of the report in JSON. -/
def converted (report : Report) : Text := ContentRule.writeAll report.rules

/-- The number of rules that are left under the limit. -/
def convertedCount (report : Report) : Nat := report.rules.length

def errorsCount (report : Report) : Nat := report.diagnostics.length

end Report

end Blocklist
