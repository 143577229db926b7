/-
This file shows that a list may hold lines or the rules that these are read as. Where a line gives
way to its rule, the output stays the same, and the diagnostics stay the same but for the text that
names the line: a rule keeps its line without the blanks around it.
-/

import Blocklist.Proofs.Batch.Exceptions
import Blocklist.Proofs.Filter.CosmeticRule
import Blocklist.Proofs.Filter.UrlRule
import Blocklist.Proofs.Text.Blank

namespace Blocklist

namespace FilterRule

theorem parse_trim (line : Text) : parse (Text.trim line) = parse line := by
  unfold parse
  rw [Text.trim_trim]

/-- A rule keeps the line that it is read from, without the blanks around it. -/
theorem parse_line {line : Text} {rule : FilterRule} (read : parse line = .ok rule) :
    rule.line = Text.trim line := by
  unfold parse at read
  dsimp only at read
  split at read
  case isTrue => cases read
  case isFalse =>
    split at read
    case h_1 =>
      obtain ⟨urlRule, parsed, rfl⟩ := map_eq_ok.mp read
      obtain ⟨_, _, _, -, -, -, rfl⟩ := UrlRule.parse_eq_ok parsed
      rfl
    case h_2 =>
      obtain ⟨cosmeticRule, parsed, rfl⟩ := map_eq_ok.mp read
      exact CosmeticRule.line_of_parse parsed
    case h_3 =>
      obtain rfl := Except.ok.inj read
      rfl
    case h_4 => cases read
    case h_5 => cases read

end FilterRule

/-- An item that stays, or a line that gives way to the rule that it is read as. -/
inductive Reading where
  | stays (source : Source)
  | ahead (line : Text) (rule : FilterRule) (noComment : isComment line = false)
      (parsed : FilterRule.parse line = .ok rule)

namespace Reading

/-- The item before lines give way to rules. -/
def before : Reading → Source
  | stays source => source
  | ahead line _ _ _ => .written line

/-- The item after lines have given way to rules. -/
def after : Reading → Source
  | stays source => source
  | ahead _ rule _ _ => .parsed rule

/-- The line of the item without the blanks around it where it gives way to its rule. -/
def name : Reading → Text
  | stays source => source.text
  | ahead line _ _ _ => Text.trim line

end Reading

namespace Source

/-- The reason why an item fails by itself. -/
def failure? (parser : FilterRule.Parser) (source : Source) : Option ConversionError :=
  (Outcome.ofSource parser source).diagnostic?.map Diagnostic.cause

theorem diagnostic?_eq (parser : FilterRule.Parser) (source : Source) :
    (Outcome.ofSource parser source).diagnostic? =
      (source.failure? parser).map fun cause => ⟨some source.text, cause⟩ := by
  unfold failure? Outcome.ofSource
  dsimp only
  split <;> rfl

end Source

namespace Reading

theorem after_text (reading : Reading) : reading.after.text = reading.name := by
  cases reading with
  | stays source => rfl
  | ahead line rule noComment parsed => exact FilterRule.parse_line parsed

/-- A line and its rule are converted in the same way. -/
theorem outcome_eq (reading : Reading) :
    reading.after.content? FilterRule.parse = reading.before.content? FilterRule.parse ∧
      reading.after.failure? FilterRule.parse = reading.before.failure? FilterRule.parse := by
  cases reading with
  | stays source => exact ⟨rfl, rfl⟩
  | ahead line rule noComment parsed =>
      have written : (Source.written line).rule? FilterRule.parse = some rule := by
        simp [Source.rule?, noComment, FilterRule.parse_trim, parsed, Except.toOption]
      have given : (Source.parsed rule).rule? FilterRule.parse = some rule := rfl
      unfold before after Source.content? Source.failure?
      dsimp only
      rw [Outcome.ofSource_of_read written, Outcome.ofSource_of_read given]
      cases rule.convert <;> exact ⟨rfl, rfl⟩

/-- The diagnostics on the items of a list, given a text that names each item: first on those that
fail by themselves, then on those that an exception takes away. -/
def diagnosed (name : Reading → Text) (readings : List Reading) : List Diagnostic :=
  (readings.filterMap fun reading =>
    (reading.before.failure? FilterRule.parse).map fun cause => ⟨some (name reading), cause⟩) ++
  (readings.filter fun reading =>
    reading.before.isLost FilterRule.parse (readings.map before)).map fun reading =>
      ⟨some (name reading), .conflictAfterExceptions⟩

theorem map_cause_diagnosed (name other : Reading → Text) (readings : List Reading) :
    (diagnosed name readings).map Diagnostic.cause =
      (diagnosed other readings).map Diagnostic.cause := by
  simp [diagnosed, List.map_filterMap, Function.comp_def]

/-- The exceptions of a list spare the same domains, be they lines or rules. -/
theorem exceptionDomains_eq (readings : List Reading) :
    Source.exceptionDomains FilterRule.parse (readings.map after) =
      Source.exceptionDomains FilterRule.parse (readings.map before) := by
  funext selector
  simp [Source.exceptionDomains, List.filterMap_map, outcome_eq]

theorem keptRule?_eq (readings : List Reading) (reading : Reading) :
    reading.after.keptRule? FilterRule.parse (readings.map after) =
      reading.before.keptRule? FilterRule.parse (readings.map before) := by
  rw [Source.keptRule?, Source.keptRule?, exceptionDomains_eq, reading.outcome_eq.1]

theorem isLost_eq (readings : List Reading) (reading : Reading) :
    reading.after.isLost FilterRule.parse (readings.map after) =
      reading.before.isLost FilterRule.parse (readings.map before) := by
  rw [Source.isLost, Source.isLost, exceptionDomains_eq, reading.outcome_eq.1]

theorem filterMap_keptRule? (readings : List Reading) :
    (readings.map after).filterMap (Source.keptRule? FilterRule.parse (readings.map after)) =
      (readings.map before).filterMap
        (Source.keptRule? FilterRule.parse (readings.map before)) := by
  simp [List.filterMap_map, keptRule?_eq]

theorem rulesOf_eq (readings : List Reading) (role : Role) :
    Source.rulesOf FilterRule.parse (readings.map after) role =
      Source.rulesOf FilterRule.parse (readings.map before) role := by
  have sameRule : ∀ reading : Reading,
      (Outcome.ofSource FilterRule.parse reading.after).ruleOf? role =
        (Outcome.ofSource FilterRule.parse reading.before).ruleOf? role :=
    fun reading => congrArg (Option.filter _) reading.outcome_eq.1
  simp [Source.rulesOf, List.filterMap_map, sameRule]

/-- Items that fail and are lost like those before are diagnosed under their own texts. -/
theorem diagnosed_eq {item : Reading → Source} (readings : List Reading)
    (sameFailure : ∀ reading : Reading,
      (item reading).failure? FilterRule.parse = reading.before.failure? FilterRule.parse)
    (sameLost : ∀ reading : Reading,
      (item reading).isLost FilterRule.parse (readings.map item) =
        reading.before.isLost FilterRule.parse (readings.map before)) :
    Source.failures FilterRule.parse (readings.map item) ++
        Source.losses FilterRule.parse (readings.map item) =
      diagnosed (fun reading => (item reading).text) readings := by
  simp [diagnosed, Source.failures, Source.losses, Source.diagnostic?_eq, List.filterMap_map,
    List.filter_map, Function.comp_def, sameFailure, sameLost]

theorem diagnosed_before (readings : List Reading) :
    Source.failures FilterRule.parse (readings.map before) ++
        Source.losses FilterRule.parse (readings.map before) =
      diagnosed (fun reading => reading.before.text) readings :=
  diagnosed_eq readings (fun _ => rfl) fun _ => rfl

theorem diagnosed_after (readings : List Reading) :
    Source.failures FilterRule.parse (readings.map after) ++
        Source.losses FilterRule.parse (readings.map after) =
      diagnosed name readings := by
  rw [diagnosed_eq readings (fun reading => reading.outcome_eq.2) (isLost_eq readings)]
  congr 1
  funext reading
  exact reading.after_text

end Reading

/-- The second report names the items that gave way to rules by their trimmed lines, and tells the
same as the first one otherwise. -/
structure Report.SameButNames (readings : List Reading) (report other : Report) : Prop where
  rules : report.rules = other.rules
  convertedCount : report.convertedCount = other.convertedCount
  errorsCount : report.errorsCount = other.errorsCount
  overLimit : report.overLimit = other.overLimit
  causes : report.diagnostics.map Diagnostic.cause = other.diagnostics.map Diagnostic.cause
  names : ∃ overall : List Diagnostic, (∀ diagnostic ∈ overall, diagnostic.rule = none) ∧
    report.diagnostics = Reading.diagnosed (fun reading => reading.before.text) readings ++ overall ∧
    other.diagnostics = Reading.diagnosed Reading.name readings ++ overall

namespace Report

/-- A limit does not tell the reports apart. -/
theorem SameButNames.under {readings : List Reading} {report other : Report}
    (same : SameButNames readings report other) (limit : Option Int) :
    SameButNames readings (report.under limit) (other.under limit) := by
  rcases under_together same.rules limit with ⟨whole, otherWhole⟩ | ⟨bound, cut, otherCut⟩
  · rw [whole, otherWhole]
    exact same
  · rw [cut, otherCut]
    obtain ⟨overall, unnamed, diagnostics, otherDiagnostics⟩ := same.names
    constructor
    case rules => exact congrArg (List.take bound) same.rules
    case convertedCount => simp only [truncate_convertedCount, same.convertedCount]
    case errorsCount => simp only [truncate_errorsCount, same.errorsCount]
    case overLimit => rfl
    case causes => simp [truncate, same.causes]
    case names =>
      refine ⟨overall ++ [⟨none, .overLimit bound⟩], ?_, ?_, ?_⟩
      · intro diagnostic member
        rcases List.mem_append.mp member with early | last
        · exact unnamed diagnostic early
        · rw [List.mem_singleton.mp last]
      · rw [truncate, diagnostics, List.append_assoc]
      · rw [truncate, otherDiagnostics, List.append_assoc]

theorem exists_sameButNames {readings : List Reading} (some : readings ≠ []) :
    ∃ report other, ofSources FilterRule.parse none (readings.map Reading.before) = .ok report ∧
      ofSources FilterRule.parse none (readings.map Reading.after) = .ok other ∧
      SameButNames readings report other := by
  have someBefore : readings.map Reading.before ≠ [] := by simpa using some
  have someAfter : readings.map Reading.after ≠ [] := by simpa using some
  obtain ⟨report, succeeded, spares⟩ := exists_spares FilterRule.parse someBefore
  obtain ⟨other, otherSucceeded, otherSpares⟩ := exists_spares FilterRule.parse someAfter
  have diagnostics := spares.diagnostics
  have otherDiagnostics := otherSpares.diagnostics
  rw [Reading.diagnosed_before] at diagnostics
  rw [Reading.diagnosed_after] at otherDiagnostics
  have rules : other.rules = report.rules :=
    otherSpares.rules_eq spares (Reading.filterMap_keptRule? readings)
      fun role _ => Reading.rulesOf_eq readings role
  have causes : report.diagnostics.map Diagnostic.cause =
      other.diagnostics.map Diagnostic.cause := by
    rw [diagnostics, otherDiagnostics]
    exact Reading.map_cause_diagnosed _ _ readings
  refine ⟨report, other, succeeded, otherSucceeded, ?_⟩
  constructor
  case rules => exact rules.symm
  case convertedCount => exact congrArg List.length rules.symm
  case errorsCount => simpa [errorsCount] using congrArg List.length causes
  case overLimit => rw [spares.complete, otherSpares.complete]
  case causes => exact causes
  case names =>
    refine ⟨[], by simp, ?_, ?_⟩
    · rw [diagnostics, List.append_nil]
    · rw [otherDiagnostics, List.append_nil]

/-- Lines may give way to the rules that they are read as in every list and under every limit. The
output stays the same, and so do the diagnostics but for the blanks around these lines. -/
theorem ofSources_readAhead (limit : Option Int) (readings : List Reading) :
    (readings = [] ∧
      ofSources FilterRule.parse limit (readings.map Reading.before) = .error .emptyInput ∧
      ofSources FilterRule.parse limit (readings.map Reading.after) = .error .emptyInput) ∨
    ∃ report other,
      ofSources FilterRule.parse limit (readings.map Reading.before) = .ok report ∧
      ofSources FilterRule.parse limit (readings.map Reading.after) = .ok other ∧
      report.converted = other.converted ∧ SameButNames readings report other := by
  by_cases none : readings = []
  · subst none
    exact .inl ⟨rfl, rfl, rfl⟩
  · obtain ⟨report, other, succeeded, otherSucceeded, same⟩ := exists_sameButNames none
    have cut := same.under limit
    exact .inr ⟨_, _, ofSources_under_ok limit succeeded, ofSources_under_ok limit otherSucceeded,
      congrArg ContentRule.writeAll cut.rules, cut⟩

/-- A hiding rule between blanks that an exception takes away, and two lines that stay, one of
them without a rule. -/
def blankedList : List Reading := [
  .ahead "\texample.com##.ad ".toList
    (.cosmetic {
      selector := ".ad".toList
      includedDomains := ["example.com".toList]
      excludedDomains := []
      isException := false
      isInjected := false
      line := "example.com##.ad".toList })
    (by decide +kernel) (by decide +kernel),
  .stays (.written "example.com#@#.ad ".toList),
  .stays (.written "## ".toList)]

theorem ofSources_readAhead_blanked :
    ∃ report other,
      ofSources FilterRule.parse (some 2) (blankedList.map Reading.before) = .ok report ∧
      ofSources FilterRule.parse (some 2) (blankedList.map Reading.after) = .ok other ∧
      report.converted = other.converted ∧ SameButNames blankedList report other ∧
      Reading.diagnosed (fun reading => reading.before.text) blankedList =
        [⟨some "## ".toList, .unreadable .emptySelector⟩,
          ⟨some "\texample.com##.ad ".toList, .conflictAfterExceptions⟩] ∧
      Reading.diagnosed Reading.name blankedList =
        [⟨some "## ".toList, .unreadable .emptySelector⟩,
          ⟨some "example.com##.ad".toList, .conflictAfterExceptions⟩] := by
  obtain ⟨report, other, succeeded, otherSucceeded, converted, same⟩ :=
    (ofSources_readAhead (some 2) blankedList).resolve_left fun refused => by cases refused.1
  exact ⟨report, other, succeeded, otherSucceeded, converted, same, by decide +kernel,
    by decide +kernel⟩

end Report

end Blocklist
