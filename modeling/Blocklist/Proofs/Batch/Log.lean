/-
This file compares what a conversion logs with what it reports. Every diagnostic on a rule is told
by one event that quotes the rule, the figures in the messages are those of the report, and the
rules beyond the limit are told of exactly when there are some.
-/

import Blocklist.Proofs.Batch.Output
import Blocklist.Proofs.Content.Refusal

namespace Blocklist

/-- The item is read as a rule, and the rule is converted to one that hides elements. -/
def Source.hides (parser : FilterRule.Parser) (source : Source) : Bool :=
  match source.rule? parser with
  | none => false
  | some rule =>
      match rule.convert with
      | .ok ⟨_, .cssDisplayNone _⟩ => true
      | _ => false

namespace Outcome

/-- An item that is no rule is passed over, or refused for a cause that lies in its line. -/
theorem ofSource_of_unread {parser : FilterRule.Parser} {source : Source}
    (unread : source.rule? parser = none) :
    ofSource parser source = .skipped ∨
      ∃ fault, ofSource parser source = .rejected source.text (.ofFilterError fault) := by
  cases source with
  | parsed rule => cases unread
  | written line =>
      cases comment : isComment line with
      | true => exact .inl (by simp [ofSource, ContentRule.ofLine, comment])
      | false =>
          cases parsed : parser (Text.trim line) with
          | error fault =>
              exact .inr ⟨fault, by simp [ofSource, ContentRule.ofLine, comment, parsed]⟩
          | ok rule => simp [Source.rule?, comment, parsed, Except.toOption] at unread

theorem isOfRule_of_rejected {parser : FilterRule.Parser} {source : Source} {line : Text}
    {cause : ConversionError} (rejected : ofSource parser source = .rejected line cause) :
    cause.IsOfRule := by
  cases read : source.rule? parser with
  | none =>
      rcases ofSource_of_unread read with skipped | ⟨fault, refused⟩
      · cases skipped.symm.trans rejected
      · obtain ⟨-, rfl⟩ := Outcome.rejected.inj (refused.symm.trans rejected)
        exact ConversionError.isOfRule_ofFilterError fault
  | some rule =>
      rw [ofSource_of_read read] at rejected
      split at rejected
      case h_1 => cases rejected
      case h_2 fault refused =>
        obtain ⟨-, rfl⟩ := Outcome.rejected.inj rejected
        exact FilterRule.isOfRule_of_convert refused

theorem isSome_hidingRule? (parser : FilterRule.Parser) (source : Source) :
    (ofSource parser source).hidingRule?.isSome = source.hides parser := by
  cases read : source.rule? parser with
  | none =>
      rw [Source.hides, read]
      rcases ofSource_of_unread read with skipped | ⟨fault, refused⟩
      · rw [skipped]
        rfl
      · rw [refused]
        rfl
  | some rule =>
      rw [Source.hides, read, ofSource_of_read read]
      dsimp only
      cases rule.convert with
      | error cause => rfl
      | ok content =>
          obtain ⟨trigger, action⟩ := content
          cases action with
          | block => rfl
          | cssDisplayNone selector => rfl
          | ignorePreviousRules selector =>
              have other :
                  (⟨trigger, .ignorePreviousRules selector⟩ : ContentRule).role ≠ .hide := by
                intro hides
                obtain ⟨_, same⟩ := ContentRule.exists_selector_of_role hides
                cases same
              simp [hidingRule?, other]

/-- Rejections are events of the lowest level. -/
theorem level_of_mem {outcomes : List Outcome} {event : Event}
    (member : event ∈ outcomes.filterMap event?) : event.level = .debug := by
  obtain ⟨outcome, -, found⟩ := List.mem_filterMap.mp member
  cases outcome with
  | rejected line cause =>
      obtain rfl := Option.some.inj found
      rfl
  | _ => cases found

end Outcome

namespace Event

/-- The event that tells of a diagnostic on a rule. -/
def ofDiagnostic? (diagnostic : Diagnostic) : Option Event :=
  diagnostic.rule.map fun line =>
    if diagnostic.cause = .conflictAfterExceptions then .conflict line
    else .rejected line diagnostic.cause

/-- The message of the event quotes the rule that a diagnostic names, and it has the message of the
diagnostic unless exceptions brought the rule into conflict. -/
def Tells (event : Event) (diagnostic : Diagnostic) : Prop :=
  ∃ line, diagnostic.rule = some line ∧ event.message =
    if diagnostic.cause = .conflictAfterExceptions then
      "Css exceptions leave `".toList ++ line ++
        "` with both permitted and restricted domains".toList
    else "Unable to convert rule `".toList ++ line ++ "`: ".toList ++ diagnostic.cause.message

theorem tells_ofDiagnostic {diagnostic : Diagnostic} {event : Event}
    (told : ofDiagnostic? diagnostic = some event) : event.Tells diagnostic := by
  obtain ⟨line, named, rfl⟩ := Option.map_eq_some_iff.mp told
  refine ⟨line, named, ?_⟩
  split <;> rfl

/-- The diagnostics that name a rule are told one by one. -/
theorem forall₂_tells (diagnostics : List Diagnostic) :
    List.Forall₂ Tells (diagnostics.filterMap ofDiagnostic?)
      (diagnostics.filter fun diagnostic => diagnostic.rule.isSome) := by
  induction diagnostics with
  | nil => exact .nil
  | cons diagnostic diagnostics inductionHypothesis =>
      cases named : diagnostic.rule with
      | none => simpa [ofDiagnostic?, named] using inductionHypothesis
      | some line =>
          rw [List.filterMap_cons, List.filter_cons_of_pos (by rw [named]; rfl)]
          cases told : ofDiagnostic? diagnostic with
          | none => simp [ofDiagnostic?, named] at told
          | some event => exact .cons (tells_ofDiagnostic told) inductionHypothesis

/-- Events of the other levels are found among those that are not on single rules. -/
theorem filter_level {level : Level} (notDebug : level ≠ .debug) (events : List Event) :
    (events.filter fun event => event.level = level) =
      (events.filter fun event => event.level ≠ .debug).filter fun event =>
        event.level = level := by
  rw [List.filter_filter]
  refine List.filter_congr fun event _ => ?_
  by_cases same : event.level = level <;> simp [same, notDebug]

/-- Numbers are written in decimal digits. -/
theorem number_eq (value : Nat) : number value = Nat.toDigits 10 value := Nat.toList_repr

end Event

/-- The diagnostics on rules that exceptions brought into conflict. -/
def Report.conflicts (report : Report) : Nat :=
  report.diagnostics.countP fun diagnostic => diagnostic.cause = .conflictAfterExceptions

/-- The messages of a log agree with the report, with the items of the list, and with what the list
has before the limit. -/
structure Report.Logged (parser : FilterRule.Parser) (sources : List Source)
    (full report : Report) : Prop where
  rules : List.Forall₂ Event.Tells (report.events.filter fun event => event.level = .debug)
    (report.diagnostics.filter fun diagnostic => diagnostic.rule.isSome)
  counts : ∃ (exceptions applied packed : Nat) (counts : GroupCounts),
    (report.events.filter fun event => event.level = .info).map Event.message = [
      "Converting ".toList ++ Nat.toDigits 10 sources.length ++ " rules".toList,
      "Applying ".toList ++ Nat.toDigits 10 exceptions ++ " css exceptions".toList,
      "Css exceptions applied: ".toList ++ Nat.toDigits 10 applied,
      "Css exceptions errors: ".toList ++ Nat.toDigits 10 report.conflicts,
      "Trying to compact ".toList ++ Nat.toDigits 10 packed ++ " elemhide rules".toList,
      "Compacted result: wide=".toList ++ Nat.toDigits 10 counts.wide ++
        " domainSensitive=".toList ++ Nat.toDigits 10 counts.domainSensitive,
      "Rules converted: css wide ".toList ++ Nat.toDigits 10 counts.wide ++
        ", css domain sensitive ".toList ++ Nat.toDigits 10 counts.domainSensitive ++
        ", elemhide exceptions ".toList ++ Nat.toDigits 10 counts.pageExceptions ++
        ", url blocking ".toList ++ Nat.toDigits 10 counts.blocking ++
        ", other ".toList ++ Nat.toDigits 10 counts.other ++
        ", errors ".toList ++ Nat.toDigits 10 counts.diagnostics] ∧
    packed + report.conflicts = sources.countP (Source.hides parser) ∧
    counts.wide + counts.domainSensitive + counts.pageExceptions + counts.blocking +
      counts.other = full.convertedCount ∧
    counts.diagnostics = full.errorsCount
  limit : (report.events.filter fun event => event.level = .error).map Event.message =
    if report.overLimit then [
      Nat.toDigits 10 report.convertedCount ++ " limit is achieved, ".toList ++
        Nat.toDigits 10 (full.convertedCount - report.convertedCount) ++
        " rules will be ignored".toList]
    else []

namespace Merged

/-- Every hiding rule is kept or in conflict. -/
theorem length_merge (hidden : List HidingRule) (exceptions : List ContentRule) :
    (merge hidden exceptions).kept.length + (merge hidden exceptions).conflicts.length =
      hidden.length := by
  rw [merge_kept, merge_conflicts, List.length_map, List.filter_map, List.length_map,
    ← List.countP_eq_length_filter, ← List.countP_eq_length_filter, Nat.add_comm,
    List.length_eq_countP_add_countP
      (fun entry : HidingRule => (entry.rule.spared exceptions).trigger.hasConflict)]
  congr 1
  exact List.countP_congr fun entry _ => by simp

section Events

variable (exceptionCount : Nat) (merged : Merged)

theorem filter_debug :
    ((merged.events exceptionCount).filter fun event => event.level = .debug) =
      merged.conflicts.map .conflict := by
  simp [events, Event.level, List.filter_map, Function.comp_def]

theorem filter_notDebug :
    ((merged.events exceptionCount).filter fun event => event.level ≠ .debug) =
      [.applyingExceptions exceptionCount, .exceptionsApplied merged.applied,
        .exceptionsFailed merged.conflicts.length] := by
  simp [events, Event.level, List.filter_map, Function.comp_def]

end Events

end Merged

namespace Groups

/-- The hiding rules of a list after the exceptions of the list. -/
def merged (outcomes : List Outcome) : Merged :=
  Merged.merge (outcomes.filterMap Outcome.hidingRule?)
    (outcomes.filterMap (Outcome.ruleOf? .cssException))

/-- The groups of a list tell of its items and of its conflicts. Both are logged one by one, and
besides them counts are logged. -/
theorem told_of_ofOutcomes {outcomes : List Outcome} {groups : Groups}
    (succeeded : ofOutcomes outcomes = .ok groups) :
    groups.diagnostics = outcomes.filterMap Outcome.diagnostic? ++ (merged outcomes).diagnostics ∧
      (groups.events.filter fun event => event.level = .debug) =
        outcomes.filterMap Outcome.event? ++ (merged outcomes).conflicts.map .conflict ∧
      ∃ exceptionCount,
        (groups.events.filter fun event => event.level ≠ .debug) = [
          .applyingExceptions exceptionCount, .exceptionsApplied (merged outcomes).applied,
          .exceptionsFailed (merged outcomes).conflicts.length,
          .compacting (merged outcomes).kept.length,
          .compacted groups.wide.length groups.domainSensitive.length] := by
  obtain ⟨compacted, -, built⟩ := bind_eq_ok.mp succeeded
  obtain rfl := Except.ok.inj built
  have rejections : ∀ event ∈ outcomes.filterMap Outcome.event?, event.level = .debug :=
    fun _ => Outcome.level_of_mem
  refine ⟨rfl, ?_, (outcomes.filterMap (Outcome.ruleOf? .cssException)).length, ?_⟩
  · change (_ ++ Merged.events _ (merged outcomes) ++ Compacted.events _ _).filter _ = _
    rw [List.filter_append, List.filter_append, Merged.filter_debug,
      List.filter_eq_self.mpr (by simpa using rejections)]
    simp [Compacted.events, Event.level]
  · change (_ ++ Merged.events _ (merged outcomes) ++ Compacted.events _ _).filter _ = _
    rw [List.filter_append, List.filter_append, Merged.filter_notDebug,
      List.filter_eq_nil_iff.mpr (by simpa using rejections)]
    rfl

end Groups

namespace Outcome

section Items

variable (parser : FilterRule.Parser) (sources : List Source)

/-- The diagnostics on single items are told as rejections. -/
theorem events_of_diagnostics :
    ((sources.map (ofSource parser)).filterMap diagnostic?).filterMap Event.ofDiagnostic? =
      (sources.map (ofSource parser)).filterMap event? := by
  rw [List.filterMap_filterMap, List.filterMap_map, List.filterMap_map]
  refine List.filterMap_congr fun source _ => ?_
  rw [Function.comp_apply, Function.comp_apply]
  cases outcome : ofSource parser source with
  | skipped => rfl
  | converted line rule => rfl
  | rejected line cause =>
      have ofRule := (isOfRule_of_rejected outcome).ne_conflict
      simp [diagnostic?, Event.ofDiagnostic?, event?, ofRule]

theorem countP_conflicts :
    ((sources.map (ofSource parser)).filterMap diagnostic?).countP
      (fun diagnostic => diagnostic.cause = .conflictAfterExceptions) = 0 := by
  rw [List.countP_eq_zero]
  intro diagnostic member
  rw [List.filterMap_map] at member
  obtain ⟨source, -, found⟩ := List.mem_filterMap.mp member
  rw [Function.comp_apply] at found
  cases outcome : ofSource parser source with
  | skipped => simp [outcome, diagnostic?] at found
  | converted line rule => simp [outcome, diagnostic?] at found
  | rejected line cause =>
      rw [outcome] at found
      obtain rfl := Option.some.inj found
      simpa using (isOfRule_of_rejected outcome).ne_conflict

theorem length_hidingRules :
    ((sources.map (ofSource parser)).filterMap hidingRule?).length =
      sources.countP (Source.hides parser) := by
  rw [List.filterMap_map, List.length_filterMap_eq_countP]
  exact congrArg (List.countP · sources) (funext (isSome_hidingRule? parser))

end Items

end Outcome

namespace Report

section Logs

variable {parser : FilterRule.Parser} {sources : List Source} {groups : Groups}

theorem events_ofGroups (sourceCount : Nat) (groups : Groups) :
    (ofGroups none sourceCount groups).events =
      .started sourceCount :: groups.events ++ [.grouped groups.counts] := rfl

theorem conflicts_ofGroups (sourceCount : Nat)
    (succeeded : Groups.ofOutcomes (sources.map (Outcome.ofSource parser)) = .ok groups) :
    (ofGroups none sourceCount groups).conflicts =
      (Groups.merged (sources.map (Outcome.ofSource parser))).conflicts.length := by
  obtain ⟨diagnostics, -, -⟩ := Groups.told_of_ofOutcomes succeeded
  change groups.diagnostics.countP _ = _
  rw [diagnostics, List.countP_append, Outcome.countP_conflicts, Nat.zero_add, Merged.diagnostics,
    List.countP_map]
  exact List.countP_eq_length.mpr fun _ _ => rfl

/-- Every diagnostic of a list is logged. -/
theorem debugEvents_ofGroups (sourceCount : Nat)
    (succeeded : Groups.ofOutcomes (sources.map (Outcome.ofSource parser)) = .ok groups) :
    ((ofGroups none sourceCount groups).events.filter fun event => event.level = .debug) =
      groups.diagnostics.filterMap Event.ofDiagnostic? := by
  obtain ⟨diagnostics, debug, -⟩ := Groups.told_of_ofOutcomes succeeded
  rw [events_ofGroups, List.filter_append, List.filter_cons_of_neg (by simp [Event.level]), debug,
    diagnostics, List.filterMap_append, Outcome.events_of_diagnostics, Merged.diagnostics,
    List.filterMap_map]
  simp [Event.level, Event.ofDiagnostic?, Function.comp_def]

theorem logged_ofGroups
    (succeeded : Groups.ofOutcomes (sources.map (Outcome.ofSource parser)) = .ok groups) :
    Logged parser sources (ofGroups none sources.length groups)
      (ofGroups none sources.length groups) := by
  let merged := Groups.merged (sources.map (Outcome.ofSource parser))
  have conflicts : (ofGroups none sources.length groups).conflicts = merged.conflicts.length :=
    conflicts_ofGroups sources.length succeeded
  obtain ⟨-, -, exceptionCount, counts⟩ := Groups.told_of_ofOutcomes succeeded
  have otherEvents : ((ofGroups none sources.length groups).events.filter
      fun event => event.level ≠ .debug) = [
        .started sources.length, .applyingExceptions exceptionCount,
        .exceptionsApplied merged.applied, .exceptionsFailed merged.conflicts.length,
        .compacting merged.kept.length,
        .compacted groups.wide.length groups.domainSensitive.length, .grouped groups.counts] := by
    rw [events_ofGroups, List.filter_append, List.filter_cons_of_pos (by simp [Event.level]),
      counts]
    rfl
  constructor
  case rules =>
    rw [debugEvents_ofGroups sources.length succeeded]
    exact Event.forall₂_tells groups.diagnostics
  case counts =>
    refine ⟨exceptionCount, merged.applied, merged.kept.length, groups.counts, ?_, ?_, ?_, rfl⟩
    · rw [Event.filter_level (by decide), otherEvents, conflicts]
      simp only [← Event.number_eq]
      rfl
    · rw [conflicts, ← Outcome.length_hidingRules]
      exact Merged.length_merge _ _
    · simp [ofGroups, convertedCount, Groups.rules, Groups.counts, Nat.add_assoc]
  case limit =>
    rw [Event.filter_level (by decide), otherEvents]
    rfl

/-- The cut of a report is logged once, and neither names a rule nor changes a count. -/
theorem Logged.truncate {full : Report} {bound : Nat} (logged : Logged parser sources full full)
    (complete : full.overLimit = false) (exceeded : bound < full.rules.length) :
    Logged parser sources full (full.truncate bound) := by
  have conflicts : (full.truncate bound).conflicts = full.conflicts := by
    simp [Report.conflicts, Report.truncate]
  have noError : (full.events.filter fun event => event.level = .error).map Event.message = [] := by
    rw [logged.limit, complete]
    rfl
  constructor
  case rules => simpa [Report.truncate, Event.level] using logged.rules
  case counts =>
    rw [conflicts]
    simpa [Report.truncate, Event.level] using logged.counts
  case limit =>
    change ((full.events ++ [Event.limitReached bound _]).filter _).map _ = _
    rw [truncate_convertedCount_of_exceeded exceeded, List.filter_append, List.map_append, noError]
    simp only [← Event.number_eq]
    rfl

/-- What is logged of a list with an item agrees with its report, under every limit. -/
theorem ofSources_logged (parser : FilterRule.Parser) (limit : Option Int) (first : Source)
    (rest : List Source) :
    ∃ full report, ofSources parser none (first :: rest) = .ok full ∧
      ofSources parser limit (first :: rest) = .ok report ∧
      Logged parser (first :: rest) full report := by
  obtain ⟨full, fates, succeeded, ledger⟩ := Ledger.exists_ofItems parser first rest
  obtain ⟨groups, grouped, same⟩ := map_eq_ok.mp succeeded
  have logged : Logged parser (first :: rest) full full := same ▸ logged_ofGroups grouped
  refine ⟨full, full.under limit, succeeded, ofSources_under_ok limit succeeded, ?_⟩
  rw [under]
  split
  case h_2 => exact logged
  case h_1 bound _ =>
    split
    case isTrue exceeded => exact logged.truncate ledger.complete exceeded
    case isFalse => exact logged

end Logs

end Report

end Blocklist
