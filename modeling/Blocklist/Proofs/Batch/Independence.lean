/-
This file shows that the items of a list meet in the output only through the rules that they are
converted to. Two lists with the same rules in each role have the same output under every limit,
whatever else they hold and however the roles alternate, and their diagnostics differ only in the
items that fail by themselves and in the lines that are named.
-/

import Blocklist.Proofs.Batch.Output

namespace Blocklist

namespace Source

/-- The rules of a role that the items are converted to, in order. -/
def rulesOf (parser : FilterRule.Parser) (sources : List Source) (role : Role) :
    List ContentRule :=
  sources.filterMap fun source => (Outcome.ofSource parser source).ruleOf? role

/-- The diagnostics of the items that fail by themselves, in order. -/
def failures (parser : FilterRule.Parser) (sources : List Source) : List Diagnostic :=
  sources.filterMap fun source => (Outcome.ofSource parser source).diagnostic?

end Source

/-- The diagnostic with an empty text in place of the line that it names. -/
def Diagnostic.blank (diagnostic : Diagnostic) : Diagnostic :=
  { diagnostic with rule := diagnostic.rule.map fun _ => [] }

namespace Outcome

/-- What remains of the hiding rules is told by these rules, whatever their lines are. -/
theorem filterMap_keptRule? (exceptions : List ContentRule) (outcomes : List Outcome) :
    outcomes.filterMap (keptRule? exceptions) =
      ((outcomes.filterMap (ruleOf? .hide)).map (ContentRule.spared exceptions)).filter
        fun rule => !rule.trigger.hasConflict := by
  rw [List.map_filterMap, List.filter_filterMap]
  congr 1
  funext outcome
  cases outcome with
  | converted line content =>
      rw [ruleOf?_converted, keptRule?_converted]
      by_cases hides : content.role = .hide <;>
        cases conflict : (content.spared exceptions).trigger.hasConflict <;>
          simp [Option.filter, hides, conflict]
  | _ => rfl

/-- How many hiding rules come into conflict is told by these rules. -/
theorem filterMap_conflict?_blank (exceptions : List ContentRule) (outcomes : List Outcome) :
    (outcomes.filterMap (conflict? exceptions)).map Diagnostic.blank =
      ((outcomes.filterMap (ruleOf? .hide)).filter fun rule =>
        (rule.spared exceptions).trigger.hasConflict).map
          fun _ => ⟨some [], .conflictAfterExceptions⟩ := by
  rw [List.map_filterMap, List.filter_filterMap, List.map_filterMap]
  congr 1
  funext outcome
  cases outcome with
  | converted line content =>
      rw [ruleOf?_converted, conflict?_converted]
      by_cases hides : content.role = .hide <;>
        cases conflict : (content.spared exceptions).trigger.hasConflict <;>
          simp [Option.filter, hides, conflict, Diagnostic.blank]
  | _ => rfl

end Outcome

/-- The rules are the same, and the diagnostics differ only in the given failures at their
beginning and in the lines that the others name. -/
structure Report.Agrees (failures otherFailures : List Diagnostic) (report other : Report) :
    Prop where
  rules : report.rules = other.rules
  convertedCount : report.convertedCount = other.convertedCount
  overLimit : report.overLimit = other.overLimit
  diagnostics : ∃ late otherLate, report.diagnostics = failures ++ late ∧
    other.diagnostics = otherFailures ++ otherLate ∧
    late.map Diagnostic.blank = otherLate.map Diagnostic.blank

/-- A limit does not tell reports with the same rules apart. -/
theorem Report.Agrees.under {failures otherFailures : List Diagnostic} {report other : Report}
    (agrees : Report.Agrees failures otherFailures report other) (limit : Option Int) :
    Report.Agrees failures otherFailures (report.under limit) (other.under limit) := by
  rcases Report.under_together agrees.rules limit with ⟨whole, otherWhole⟩ | ⟨bound, cut, otherCut⟩
  · rw [whole, otherWhole]
    exact agrees
  · rw [cut, otherCut]
    obtain ⟨late, otherLate, diagnostics, otherDiagnostics, same⟩ := agrees.diagnostics
    constructor
    · exact congrArg (List.take bound) agrees.rules
    · simp only [Report.truncate_convertedCount, agrees.convertedCount]
    · rfl
    · refine ⟨late ++ [⟨none, .overLimit bound⟩], otherLate ++ [⟨none, .overLimit bound⟩],
        ?_, ?_, ?_⟩
      · rw [Report.truncate, diagnostics, List.append_assoc]
      · rw [Report.truncate, otherDiagnostics, List.append_assoc]
      · rw [List.map_append, List.map_append, same]

theorem Groups.ofOutcomes_agree {outcomes others : List Outcome}
    (same : ∀ role, outcomes.filterMap (Outcome.ruleOf? role) =
      others.filterMap (Outcome.ruleOf? role)) :
    ∃ groups otherGroups, ofOutcomes outcomes = .ok groups ∧
      ofOutcomes others = .ok otherGroups ∧ groups.rules = otherGroups.rules ∧
      ∃ late otherLate, groups.diagnostics = outcomes.filterMap Outcome.diagnostic? ++ late ∧
        otherGroups.diagnostics = others.filterMap Outcome.diagnostic? ++ otherLate ∧
        late.map Diagnostic.blank = otherLate.map Diagnostic.blank := by
  -- The exceptions of both lists are the same, so that they reach the same hiding rules.
  let exceptions := outcomes.filterMap (Outcome.ruleOf? .cssException)
  have kept : outcomes.filterMap (Outcome.keptRule? exceptions) =
      others.filterMap (Outcome.keptRule? exceptions) := by
    rw [Outcome.filterMap_keptRule?, Outcome.filterMap_keptRule?, same .hide]
  obtain ⟨portions, groups, cut, succeeded, wide, domainSensitive, pageExceptions, blocking, other,
    diagnostics⟩ := ofOutcomes_eq_ok outcomes exceptions rfl
  obtain ⟨otherPortions, otherGroups, otherCut, otherSucceeded, otherWide, otherSensitive,
    otherPages, otherBlocking, otherOther, otherDiagnostics⟩ :=
      ofOutcomes_eq_ok others exceptions (same .cssException).symm
  rw [kept] at cut domainSensitive
  refine ⟨groups, otherGroups, succeeded, otherSucceeded, ?_, _, _, diagnostics, otherDiagnostics,
    ?_⟩
  · rw [rules, rules, wide, otherWide, cut.unique otherCut, domainSensitive, otherSensitive,
      pageExceptions, otherPages, same, blocking, otherBlocking, same, other, otherOther, same]
  · rw [Outcome.filterMap_conflict?_blank, Outcome.filterMap_conflict?_blank, same]

namespace Report

/-- Lists whose converted rules agree role by role have the same output under every limit. -/
theorem ofSources_agree {parser : FilterRule.Parser} {sources others : List Source}
    (some : sources ≠ []) (someOther : others ≠ [])
    (same : ∀ role, Source.rulesOf parser sources role = Source.rulesOf parser others role)
    (limit : Option Int) :
    ∃ report other, ofSources parser limit sources = .ok report ∧
      ofSources parser limit others = .ok other ∧ report.converted = other.converted ∧
      Agrees (Source.failures parser sources) (Source.failures parser others) report other := by
  have sameOutcomes : ∀ role,
      (sources.map (Outcome.ofSource parser)).filterMap (Outcome.ruleOf? role) =
        (others.map (Outcome.ofSource parser)).filterMap (Outcome.ruleOf? role) := by
    intro role
    rw [List.filterMap_map, List.filterMap_map]
    exact same role
  obtain ⟨groups, otherGroups, grouped, otherGrouped, rules, late, otherLate, diagnostics,
    otherDiagnostics, sameLate⟩ := Groups.ofOutcomes_agree sameOutcomes
  have succeeded : ofSources parser none sources =
      .ok (ofGroups none sources.length groups) := by
    rw [ofSources, if_neg (by simpa using some), grouped]
    rfl
  have otherSucceeded : ofSources parser none others =
      .ok (ofGroups none others.length otherGroups) := by
    rw [ofSources, if_neg (by simpa using someOther), otherGrouped]
    rfl
  have agrees : Agrees (Source.failures parser sources) (Source.failures parser others)
      (ofGroups none sources.length groups) (ofGroups none others.length otherGroups) := by
    rw [List.filterMap_map] at diagnostics otherDiagnostics
    have widened : groups.rules.map ContentRule.widen = otherGroups.rules.map ContentRule.widen :=
      congrArg (List.map ContentRule.widen) rules
    exact ⟨widened, congrArg List.length widened, rfl,
      late, otherLate, diagnostics, otherDiagnostics, sameLate⟩
  have cut := agrees.under limit
  exact ⟨_, _, ofSources_under_ok limit succeeded, ofSources_under_ok limit otherSucceeded,
    congrArg ContentRule.writeAll cut.rules, cut⟩

/-- A list with a hiding rule in front of the exception that it conflicts with. -/
def conflictingList : List Source := [
  .written "example.com##.ad".toList, .written "##.banner".toList,
  .written "example.com#@#.ad".toList, .written "||ads.com^".toList]

/-- The same rules in another order and with other lines, and items that are no rules. -/
def shuffledList : List Source := [
  .written "! title".toList, .written "||ads.com^".toList, .written "##".toList,
  .written "example.com#@#.ad".toList, .written "EXAMPLE.com##.ad".toList,
  .written "##.banner".toList]

theorem ofSources_agree_shuffled :
    (∀ role, Source.rulesOf FilterRule.parse conflictingList role =
      Source.rulesOf FilterRule.parse shuffledList role) ∧
    ∃ report other, ofSources FilterRule.parse (some 1) conflictingList = .ok report ∧
      ofSources FilterRule.parse (some 1) shuffledList = .ok other ∧
      report.converted = other.converted ∧
      Agrees (Source.failures FilterRule.parse conflictingList)
        (Source.failures FilterRule.parse shuffledList) report other := by
  have same : ∀ role, Source.rulesOf FilterRule.parse conflictingList role =
      Source.rulesOf FilterRule.parse shuffledList role := by
    intro role
    cases role <;> decide +kernel
  exact ⟨same, ofSources_agree (List.cons_ne_nil _ _) (List.cons_ne_nil _ _) same (some 1)⟩

end Report

end Blocklist
