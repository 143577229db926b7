/-
This file accounts for every item of a filter list: each item has one fate, and the report of the
list consists of what the fates contribute, in order. The main statement is that every list with
an item has such a ledger, and that a list without items is the only one that is refused.
-/

import Blocklist.Batch.Report
import Blocklist.Proofs.Batch.Compaction
import Blocklist.Proofs.Batch.Fate
import Blocklist.Proofs.Correspondence

namespace Blocklist

/-- The rule as it is emitted, with a star in front of each domain. -/
def ContentRule.widen (rule : ContentRule) : ContentRule :=
  { rule with trigger := rule.trigger.widen }

/-- The rules of the report are a rule for each portion of the selectors, which acts on all pages,
and behind these the rules that stand alone, with a star in front of each domain. -/
def Report.Emits (selectors : List Text) (alone : List ContentRule) (report : Report) : Prop :=
  ∃ portions, Compacted.Portions selectorsPerRule selectors portions ∧
    report.rules =
      (portions.map fun portion =>
        { trigger := {
            urlFilter := ".*".toList
            caseSensitive := none
            ifDomain := none
            unlessDomain := none
            resourceTypes := none
            loadTypes := none }
          action := .cssDisplayNone (", ".toList.intercalate portion) }) ++
      alone.map fun rule =>
        { trigger := {
            urlFilter := rule.trigger.urlFilter
            caseSensitive := rule.trigger.caseSensitive
            ifDomain := rule.trigger.ifDomain.map (List.map ('*' :: ·))
            unlessDomain := rule.trigger.unlessDomain.map (List.map ('*' :: ·))
            resourceTypes := rule.trigger.resourceTypes
            loadTypes := rule.trigger.loadTypes }
          action := rule.action }

/-- The report holds what the fates of the items contribute, each once and in order. -/
structure Ledger (parser : FilterRule.Parser) (sources : List Source) (fates : List Fate)
    (report : Report) : Prop where
  fateOfEach : List.Forall₂ (Fate.Of parser (fates.filterMap Fate.exception?)) sources fates
  diagnostics : report.diagnostics =
    fates.filterMap Fate.rejection? ++ fates.filterMap Fate.conflict?
  rules : report.Emits (fates.filterMap Fate.selector?)
    (fates.filterMap (Fate.ruleOf? .hide) ++ fates.filterMap (Fate.ruleOf? .pageException) ++
      fates.filterMap (Fate.ruleOf? .block) ++ fates.filterMap (Fate.ruleOf? .other))
  complete : report.overLimit = false

namespace Report

theorem emits_iff {selectors : List Text} {alone : List ContentRule} {report : Report} :
    report.Emits selectors alone ↔
      ∃ portions, Compacted.Portions selectorsPerRule selectors portions ∧
        report.rules = portions.map Compacted.pack ++ alone.map ContentRule.widen := Iff.rfl

/-- The rules are determined by what they are made of. -/
theorem Emits.rules_eq {selectors : List Text} {alone : List ContentRule} {report other : Report}
    (emits : report.Emits selectors alone) (otherEmits : other.Emits selectors alone) :
    report.rules = other.rules := by
  obtain ⟨portions, cut, rules⟩ := emits
  obtain ⟨otherPortions, otherCut, otherRules⟩ := otherEmits
  rw [rules, otherRules, cut.unique otherCut]

/-- Packed rules have no domains, so that no star is put into them. -/
theorem emits_ofGroups {selectors : List Text} {portions : List (List Text)} {groups : Groups}
    (cut : Compacted.Portions selectorsPerRule selectors portions)
    (wide : groups.wide = portions.map Compacted.pack) (sourceCount : Nat) :
    (ofGroups none sourceCount groups).Emits selectors
      (groups.domainSensitive ++ groups.pageExceptions ++ groups.blocking ++ groups.other) := by
  refine emits_iff.mpr ⟨portions, cut, ?_⟩
  have packed : (portions.map Compacted.pack).map ContentRule.widen =
      portions.map Compacted.pack := by
    rw [List.map_map]
    rfl
  change groups.rules.map ContentRule.widen = _
  rw [Groups.rules, wide]
  simp only [List.map_append, List.append_assoc, packed]

end Report

namespace Groups

theorem merge_kept (outcomes : List Outcome) (exceptions : List ContentRule) :
    (Merged.merge (outcomes.filterMap Outcome.hidingRule?) exceptions).kept =
      outcomes.filterMap (Outcome.keptRule? exceptions) := by
  rw [Merged.merge_kept, List.map_filterMap, List.filter_filterMap]
  rfl

theorem merge_diagnostics (outcomes : List Outcome) (exceptions : List ContentRule) :
    (Merged.merge (outcomes.filterMap Outcome.hidingRule?) exceptions).diagnostics =
      outcomes.filterMap (Outcome.conflict? exceptions) := by
  rw [Merged.diagnostics, Merged.merge_conflicts, List.map_map, List.filter_filterMap,
    List.map_filterMap]
  rfl

/-- Hiding rules have a selector, so that what is kept of them can be packed. -/
theorem packable_keptRules (outcomes : List Outcome) (exceptions : List ContentRule) :
    Compacted.Packable (outcomes.filterMap (Outcome.keptRule? exceptions)) := by
  intro rule member _
  obtain ⟨outcome, -, kept⟩ := List.mem_filterMap.mp member
  cases outcome with
  | skipped => cases kept
  | rejected line cause => cases kept
  | converted line content =>
      rw [Outcome.keptRule?_converted] at kept
      split at kept
      case isFalse => cases kept
      case isTrue hides =>
        obtain rfl := Option.some.inj kept
        obtain ⟨selector, action⟩ := ContentRule.exists_selector_of_role hides.1
        exact ⟨selector, action⟩

/-- The conversion of a list never fails once its items have been converted. -/
theorem ofOutcomes_eq_ok (outcomes : List Outcome) (exceptions : List ContentRule)
    (folded : outcomes.filterMap (Outcome.ruleOf? .cssException) = exceptions) :
    ∃ portions groups,
      Compacted.Portions selectorsPerRule
        (Compacted.openSelectors (outcomes.filterMap (Outcome.keptRule? exceptions))) portions ∧
      ofOutcomes outcomes = .ok groups ∧
      groups.wide = portions.map Compacted.pack ∧
      groups.domainSensitive = (outcomes.filterMap (Outcome.keptRule? exceptions)).filter
        (fun rule => rule.trigger.isRestricted) ∧
      groups.pageExceptions = outcomes.filterMap (Outcome.ruleOf? .pageException) ∧
      groups.blocking = outcomes.filterMap (Outcome.ruleOf? .block) ∧
      groups.other = outcomes.filterMap (Outcome.ruleOf? .other) ∧
      groups.diagnostics = outcomes.filterMap Outcome.diagnostic? ++
        outcomes.filterMap (Outcome.conflict? exceptions) := by
  subst folded
  let folded := outcomes.filterMap (Outcome.ruleOf? .cssException)
  let merged := Merged.merge (outcomes.filterMap Outcome.hidingRule?) folded
  have kept : merged.kept = outcomes.filterMap (Outcome.keptRule? folded) :=
    merge_kept outcomes folded
  obtain ⟨portions, cut, compacted⟩ :=
    Compacted.ofRules_eq_ok selectorsPerRule (packable_keptRules outcomes folded)
  rw [← kept] at compacted
  have succeeded : ofOutcomes outcomes = .ok {
      wide := portions.map Compacted.pack
      domainSensitive := merged.kept.filter fun rule => rule.trigger.isRestricted
      pageExceptions := outcomes.filterMap (Outcome.ruleOf? .pageException)
      blocking := outcomes.filterMap (Outcome.ruleOf? .block)
      other := outcomes.filterMap (Outcome.ruleOf? .other)
      diagnostics := outcomes.filterMap Outcome.diagnostic? ++ merged.diagnostics
      events := outcomes.filterMap Outcome.event? ++ merged.events folded.length ++
        Compacted.events merged.kept.length
          ⟨portions.map Compacted.pack, merged.kept.filter fun rule => rule.trigger.isRestricted⟩
      } := by
    unfold ofOutcomes
    dsimp only
    rw [compacted]
    rfl
  refine ⟨portions, _, cut, succeeded, rfl, ?_, rfl, rfl, rfl, ?_⟩
  · rw [← kept]
  · rw [← merge_diagnostics]

end Groups

namespace Ledger

/-- The exceptions are told by the items alone, so that the fates may refer to them. -/
theorem folded_eq {parser : FilterRule.Parser} {exceptions : List ContentRule}
    {sources : List Source} {fates : List Fate}
    (deserved : List.Forall₂ (Fate.Of parser exceptions) sources fates) :
    fates.filterMap Fate.exception? =
      (sources.map (Outcome.ofSource parser)).filterMap (Outcome.ruleOf? .cssException) := by
  rw [List.filterMap_map]
  symm
  exact filterMap_eq_of_forall₂ deserved fun _ _ pair => (Fate.contributes_of pair).exception

/-- The parts of the output agree with the fates when the items deserve these. -/
theorem ofFates {parser : FilterRule.Parser} {sources : List Source} {fates : List Fate}
    (deserved : List.Forall₂ (Fate.Of parser (fates.filterMap Fate.exception?)) sources fates) :
    ∃ report, (Groups.ofOutcomes (sources.map (Outcome.ofSource parser))).map
        (Report.ofGroups none sources.length) = .ok report ∧
      Ledger parser sources fates report := by
  let exceptions := fates.filterMap Fate.exception?
  let outcomes := sources.map (Outcome.ofSource parser)
  have contributes : List.Forall₂ (Fate.Contributes exceptions) outcomes fates :=
    List.forall₂_map_left_iff.mpr (deserved.imp fun _ _ => Fate.contributes_of)
  have rejections := filterMap_eq_of_forall₂ contributes fun _ _ pair => pair.rejection
  have conflicts := filterMap_eq_of_forall₂ contributes fun _ _ pair => pair.conflict
  have selectors := filterMap_eq_of_forall₂ contributes fun _ _ pair => pair.selector
  have sensitive := filterMap_eq_of_forall₂ contributes fun _ _ pair => pair.sensitive
  have others : ∀ role, role ≠ .hide → role ≠ .cssException →
      outcomes.filterMap (Outcome.ruleOf? role) = fates.filterMap (Fate.ruleOf? role) :=
    fun role notHide notException => filterMap_eq_of_forall₂ contributes
      fun _ _ pair => pair.others role notHide notException
  obtain ⟨portions, groups, cut, succeeded, wide, domainSensitive, pageExceptions, blocking, other,
    diagnostics⟩ := Groups.ofOutcomes_eq_ok outcomes exceptions (folded_eq deserved).symm
  rw [Compacted.openSelectors, List.filterMap_filterMap, selectors] at cut
  rw [List.filter_filterMap, sensitive] at domainSensitive
  rw [rejections, conflicts] at diagnostics
  rw [others .pageException (by decide) (by decide)] at pageExceptions
  rw [others .block (by decide) (by decide)] at blocking
  rw [others .other (by decide) (by decide)] at other
  refine ⟨Report.ofGroups none sources.length groups, by rw [succeeded]; rfl, ?_⟩
  constructor
  case fateOfEach => exact deserved
  case diagnostics => exact diagnostics
  case rules =>
    rw [← domainSensitive, ← pageExceptions, ← blocking, ← other]
    exact Report.emits_ofGroups cut wide sources.length
  case complete => rfl

theorem exists_ofItems (parser : FilterRule.Parser) (first : Source) (rest : List Source) :
    ∃ report fates, Report.ofSources parser none (first :: rest) = .ok report ∧
      Ledger parser (first :: rest) fates report := by
  let sources := first :: rest
  let exceptions :=
    (sources.map (Outcome.ofSource parser)).filterMap (Outcome.ruleOf? .cssException)
  obtain ⟨fates, deserved⟩ := Fate.exists_ofEach parser exceptions sources
  have folded : fates.filterMap Fate.exception? = exceptions := folded_eq deserved
  rw [← folded] at deserved
  obtain ⟨report, succeeded, ledger⟩ := ofFates deserved
  exact ⟨report, fates, succeeded, ledger⟩

/-- Every report that no limit cuts has a ledger. -/
theorem exists_ofReport {parser : FilterRule.Parser} {sources : List Source} {report : Report}
    (succeeded : Report.ofSources parser none sources = .ok report) :
    ∃ fates, Ledger parser sources fates report := by
  cases sources with
  | nil => cases succeeded
  | cons first rest =>
      obtain ⟨same, fates, succeededToo, ledger⟩ := exists_ofItems parser first rest
      rw [succeededToo] at succeeded
      exact ⟨fates, Except.ok.inj succeeded ▸ ledger⟩

theorem exists_fate {parser : FilterRule.Parser} {sources : List Source} {fates : List Fate}
    {report : Report} (ledger : Ledger parser sources fates report) {source : Source}
    (member : source ∈ sources) :
    ∃ fate ∈ fates, Fate.Of parser (fates.filterMap Fate.exception?) source fate :=
  exists_image_of_forall₂ ledger.fateOfEach member

theorem exists_source {parser : FilterRule.Parser} {sources : List Source} {fates : List Fate}
    {report : Report} (ledger : Ledger parser sources fates report) {fate : Fate}
    (member : fate ∈ fates) :
    ∃ source ∈ sources, Fate.Of parser (fates.filterMap Fate.exception?) source fate :=
  exists_image_of_forall₂ ledger.fateOfEach.flip member

/-- A rule of the report applies to all pages, or an item is emitted as it. -/
theorem exists_emitted {parser : FilterRule.Parser} {sources : List Source} {fates : List Fate}
    {report : Report} (ledger : Ledger parser sources fates report) {rule : ContentRule}
    (member : rule ∈ report.rules) :
    ∃ narrow, narrow.widen = rule ∧
      (narrow.trigger = Trigger.anyUrl ∨ Fate.emitted narrow ∈ fates) := by
  obtain ⟨portions, -, rules⟩ := Report.emits_iff.mp ledger.rules
  have ofRole : ∀ role narrow, narrow ∈ fates.filterMap (Fate.ruleOf? role) →
      Fate.emitted narrow ∈ fates := by
    intro role narrow among
    obtain ⟨fate, inFates, played⟩ := List.mem_filterMap.mp among
    exact (Fate.eq_emitted_of_ruleOf? played).1 ▸ inFates
  rw [rules] at member
  rcases List.mem_append.mp member with packed | alone
  · obtain ⟨portion, -, rfl⟩ := List.mem_map.mp packed
    exact ⟨Compacted.pack portion, rfl, .inl rfl⟩
  · obtain ⟨narrow, present, widened⟩ := List.mem_map.mp alone
    refine ⟨narrow, widened, .inr ?_⟩
    simp only [List.mem_append] at present
    rcases present with ((hide | pageException) | block) | other
    · exact ofRole .hide narrow hide
    · exact ofRole .pageException narrow pageException
    · exact ofRole .block narrow block
    · exact ofRole .other narrow other

/-- The fates are determined by the items. -/
theorem fates_unique {parser : FilterRule.Parser} {sources : List Source}
    {fates sameFates : List Fate} {report : Report} (first : Ledger parser sources fates report)
    (second : Ledger parser sources sameFates report) : sameFates = fates := by
  have deserved := second.fateOfEach
  rw [folded_eq second.fateOfEach, ← folded_eq first.fateOfEach] at deserved
  have unique : Relator.RightUnique (Fate.Of parser (fates.filterMap Fate.exception?)) :=
    fun _ _ _ => Fate.of_unique
  exact List.right_unique_forall₂' unique deserved first.fateOfEach

/-- A list without items is refused, and every other list has a report in which each item is
accounted for by exactly one fate. -/
theorem ofSources_accounts (parser : FilterRule.Parser) :
    Report.ofSources parser none [] = .error .emptyInput ∧
      ∀ first rest, ∃ report, Report.ofSources parser none (first :: rest) = .ok report ∧
        ∃! fates, Ledger parser (first :: rest) fates report := by
  constructor
  · rfl
  · intro first rest
    obtain ⟨report, fates, succeeded, ledger⟩ := exists_ofItems parser first rest
    exact ⟨report, succeeded, fates, ledger, fun _ sameLedger => fates_unique ledger sameLedger⟩

end Ledger

end Blocklist
