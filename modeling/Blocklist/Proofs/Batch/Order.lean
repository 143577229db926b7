/-
This file says where the rules of a report stand: the roles follow each other in a fixed order, so
that an exception for requests stands behind all rules that block, unless it is for frames alone.
-/

import Blocklist.Proofs.Batch.Ledger

namespace Blocklist

/-- The place of a role in the output. -/
def Role.place : Role → Nat
  | .hide => 0
  | .cssException => 1
  | .pageException => 2
  | .block => 3
  | .other => 4

namespace ContentRule

@[simp] theorem widen_role (rule : ContentRule) : rule.widen.role = rule.role := rfl

theorem role_eq_block_iff {rule : ContentRule} : rule.role = .block ↔ rule.action = .block := by
  cases action : rule.action with
  | block => simp [role, action]
  | cssDisplayNone selector => simp [role, action]
  | ignorePreviousRules selector =>
      rw [role, action]
      dsimp only
      split
      · simp
      · split <;> simp

/-- The rules stand in the order of their roles, and none comes behind a given role. -/
structure OrderedUpTo (last : Role) (rules : List ContentRule) : Prop where
  ordered : rules.Pairwise fun first second => first.role.place ≤ second.role.place
  bounded : ∀ rule ∈ rules, rule.role.place ≤ last.place

namespace OrderedUpTo

theorem ofRole {role : Role} {rules : List ContentRule}
    (played : ∀ rule ∈ rules, rule.role = role) : OrderedUpTo role rules := by
  constructor
  · apply List.pairwise_of_forall_mem_list
    intro first firstMember second secondMember
    exact Nat.le_of_eq (by rw [played first firstMember, played second secondMember])
  · intro rule member
    exact Nat.le_of_eq (by rw [played rule member])

/-- A group of a later role may follow. -/
theorem append {last next : Role} {rules group : List ContentRule}
    (before : OrderedUpTo last rules) (behind : last.place ≤ next.place)
    (played : ∀ rule ∈ group, rule.role = next) : OrderedUpTo next (rules ++ group) := by
  have after := ofRole played
  constructor
  · refine List.pairwise_append.mpr ⟨before.ordered, after.ordered, ?_⟩
    intro first firstMember second secondMember
    rw [played second secondMember]
    exact Nat.le_trans (before.bounded first firstMember) behind
  · intro rule member
    rcases List.mem_append.mp member with earlier | later
    · exact Nat.le_trans (before.bounded rule earlier) behind
    · exact after.bounded rule later

end OrderedUpTo

end ContentRule

theorem Fate.role_of_mem (fates : List Fate) (role : Role) {rule : ContentRule}
    (member : rule ∈ (fates.filterMap (Fate.ruleOf? role)).map ContentRule.widen) :
    rule.role = role := by
  obtain ⟨narrow, among, rfl⟩ := List.mem_map.mp member
  obtain ⟨fate, -, found⟩ := List.mem_filterMap.mp among
  exact (Fate.eq_emitted_of_ruleOf? found).2

/-- The rules of a report stand in the order of their roles. -/
theorem Ledger.rules_ordered {parser : FilterRule.Parser} {sources : List Source}
    {fates : List Fate} {report : Report} (ledger : Ledger parser sources fates report) :
    report.rules.Pairwise fun first second => first.role.place ≤ second.role.place := by
  obtain ⟨portions, -, rules⟩ := Report.emits_iff.mp ledger.rules
  have packed : ∀ rule ∈ portions.map Compacted.pack, rule.role = .hide := by
    intro rule member
    obtain ⟨portion, -, rfl⟩ := List.mem_map.mp member
    rfl
  have emitted : ∀ role, ∀ rule ∈ (fates.filterMap (Fate.ruleOf? role)).map ContentRule.widen,
      rule.role = role := fun role _ => Fate.role_of_mem fates role
  have wide := ContentRule.OrderedUpTo.ofRole packed
  have hide := wide.append (Nat.le_refl _) (emitted .hide)
  have pageException := hide.append (by decide) (emitted .pageException)
  have block := pageException.append (by decide) (emitted .block)
  have other := block.append (by decide) (emitted .other)
  rw [rules]
  simpa only [List.map_append, List.append_assoc] using other.ordered

/-- A rule that plays its role alone is part of the report. -/
theorem Ledger.mem_rules_of_emitted {parser : FilterRule.Parser} {sources : List Source}
    {fates : List Fate} {report : Report} (ledger : Ledger parser sources fates report)
    {rule : ContentRule} (member : .emitted rule ∈ fates) (notFolded : rule.role ≠ .cssException) :
    rule.widen ∈ report.rules := by
  obtain ⟨portions, -, rules⟩ := Report.emits_iff.mp ledger.rules
  have found : rule ∈ fates.filterMap (Fate.ruleOf? rule.role) := by
    refine List.mem_filterMap.mpr ⟨.emitted rule, member, ?_⟩
    rw [Fate.ruleOf?_emitted, if_pos rfl]
  rw [rules]
  apply List.mem_append_right
  apply List.mem_map_of_mem
  cases role : rule.role with
  | cssException => exact absurd role notFolded
  | _ =>
      rw [role] at found
      simp [found]

/-- The exception stands among those for pages when it is for frames alone. -/
theorem UrlRule.role_of_exception {rule : UrlRule} {content : ContentRule}
    (converted : rule.convert = .ok content) (isException : rule.isException = true)
    (requests : rule.types.contains .elemHide = false) :
    content.role = if rule.types = .subdocument then .pageException else .other := by
  obtain ⟨urlFilter, resourceTypes, scope, -, mapped, -, exempts, action⟩ :=
    convert_eq_ok converted
  have ignores : content.action = .ignorePreviousRules none := by
    rw [action, Action.forRule, if_pos isException]
    rfl
  have first : (content.trigger.resourceTypes.getD []).head? = some .document ↔
      rule.types = .subdocument := by
    generalize content.trigger = exempted at exempts
    cases exempts with
    | unchanged => exact ResourceType.head_ofMask mapped
    | pinned _ exemptsPages =>
        constructor
        · intro none
          cases none
        · intro frames
          rw [UrlRule.exemptsPages, frames] at exemptsPages
          exact absurd exemptsPages (by decide)
    | documents _ _ hides =>
        rw [requests] at hides
        cases hides
  rw [ContentRule.role, ignores]
  simp only [first, Option.isSome_none, Bool.false_eq_true, if_false]

/-- The rule is emitted, and no rule that blocks stands behind it. -/
def Report.AfterBlocking (report : Report) (rule : ContentRule) : Prop :=
  rule ∈ report.rules ∧
    ∀ before after, report.rules = before ++ rule :: after →
      ∀ later ∈ after, later.action ≠ .block

namespace Ledger

/-- Where a rule that does not block stands follows from its role. -/
theorem afterBlocking_iff {parser : FilterRule.Parser} {sources : List Source}
    {fates : List Fate} {report : Report} (ledger : Ledger parser sources fates report)
    {rule : ContentRule} (member : rule ∈ report.rules) (notBlock : rule.role ≠ .block) :
    report.AfterBlocking rule ↔
      rule.role = .other ∨ ∀ blocking ∈ report.rules, blocking.action ≠ .block := by
  constructor
  · rintro ⟨-, last⟩
    by_cases isOther : rule.role = .other
    · exact .inl isOther
    · right
      intro blocking present blocks
      have early : rule.role.place < Role.block.place := by
        cases role : rule.role <;> simp_all [Role.place]
      obtain ⟨before, after, split⟩ := List.append_of_mem member
      have ordered := ledger.rules_ordered
      rw [split, List.pairwise_append] at ordered
      rw [split, List.mem_append, List.mem_cons] at present
      rcases present with earlier | rfl | later
      · have reversed := ordered.2.2 blocking earlier rule List.mem_cons_self
        rw [ContentRule.role_eq_block_iff.mpr blocks] at reversed
        omega
      · exact notBlock (ContentRule.role_eq_block_iff.mpr blocks)
      · exact last before after split blocking later blocks
  · intro allowed
    refine ⟨member, ?_⟩
    intro before after split later present blocks
    rcases allowed with isOther | noBlocking
    · have ordered := ledger.rules_ordered
      rw [split, List.pairwise_append, List.pairwise_cons] at ordered
      have reversed := ordered.2.1.1 later present
      rw [isOther, ContentRule.role_eq_block_iff.mpr blocks] at reversed
      exact absurd reversed (by decide)
    · have emitted : later ∈ report.rules := by simp [split, present]
      exact noBlocking later emitted blocks

/-- An exception for requests stands behind all rules that block, unless it is for frames alone
and some rule blocks. -/
theorem requestException_afterBlocking {parser : FilterRule.Parser} {sources : List Source}
    {report : Report} (succeeded : Report.ofSources parser none sources = .ok report)
    {source : Source} (member : source ∈ sources) {rule : UrlRule}
    (read : source.rule? parser = some (.url rule)) (isException : rule.isException = true)
    (requests : rule.types.contains .elemHide = false) {content : ContentRule}
    (converted : rule.convert = .ok content) :
    report.AfterBlocking content.widen ↔
      rule.types ≠ .subdocument ∨ ∀ blocking ∈ report.rules, blocking.action ≠ .block := by
  obtain ⟨fates, ledger⟩ := exists_ofReport succeeded
  obtain ⟨fate, present, deserved⟩ := ledger.exists_fate member
  obtain rfl : fate = .emitted content :=
    Fate.of_unique deserved (.unselected read converted (UrlRule.convert_unselected converted))
  have role := UrlRule.role_of_exception converted isException requests
  have emitted : content.widen ∈ report.rules := by
    apply ledger.mem_rules_of_emitted present
    rw [role]
    split <;> decide
  have notBlock : content.widen.role ≠ .block := by
    rw [ContentRule.widen_role, role]
    split <;> decide
  have isOther : content.widen.role = .other ↔ rule.types ≠ .subdocument := by
    rw [ContentRule.widen_role, role]
    split
    case isTrue frames => simp [frames]
    case isFalse noFrames => simp [noFrames]
  rw [ledger.afterBlocking_iff emitted notBlock, isOther]

/-- The exception for a host, as it is read from its line. -/
def hostException (types : TypeMask) (line : Text) : UrlRule :=
  { pattern := {
      regex := none
      derived := some "^[^:]+:(//)?([^/]+\\.)?example\\.com([^a-zA-Z0-9_.%-]|$)".toList
      raw := "||example.com^".toList }
    types
    isException := true
    thirdParty := none
    matchCase := false
    includedDomains := []
    excludedDomains := []
    line }

/-- The exception for a host, as it is converted. -/
def hostExceptionContent (resourceTypes : Option (List ResourceType)) : ContentRule :=
  { trigger := {
      Trigger.ofUrlFilter "^[^:]+:(//)?([^/]+\\.)?example\\.com([^a-zA-Z0-9_.%-])".toList with
      resourceTypes }
    action := .ignorePreviousRules none }

theorem requestException_afterBlocking_host :
    ∃ report, Report.ofSources FilterRule.parse none
        [.written "||ads.com^".toList, .written "@@||example.com^".toList] = .ok report ∧
      report.AfterBlocking (hostExceptionContent none).widen := by
  obtain ⟨report, -, succeeded, -⟩ := exists_ofItems FilterRule.parse
    (.written "||ads.com^".toList) [.written "@@||example.com^".toList]
  have read : (Source.written "@@||example.com^".toList).rule? FilterRule.parse =
      some (.url (hostException .all "@@||example.com^".toList)) := by decide +kernel
  have converted : (hostException .all "@@||example.com^".toList).convert =
      .ok (hostExceptionContent none) := by decide +kernel
  refine ⟨report, succeeded, ?_⟩
  refine (requestException_afterBlocking succeeded ?_ read rfl ?_ converted).mpr (.inl ?_)
  · simp
  · decide
  · decide

/-- An exception for the frames of a host stands in front of the rule that blocks another host. -/
theorem frameException_beforeBlocking :
    ∃ rule content report,
      (Source.written "@@||example.com^$subdocument".toList).rule? FilterRule.parse =
        some (.url rule) ∧
      rule.isException = true ∧ rule.types.contains .elemHide = false ∧
      rule.convert = .ok content ∧
      Report.ofSources FilterRule.parse none
        [.written "||ads.com^".toList, .written "@@||example.com^$subdocument".toList] =
          .ok report ∧
      ¬ report.AfterBlocking content.widen := by
  let blocking : ContentRule :=
    ⟨.ofUrlFilter "^[^:]+:(//)?([^/]+\\.)?ads\\.com([^a-zA-Z0-9_.%-])".toList, .block⟩
  let exception := hostExceptionContent (some [.document])
  have rules : (Report.ofSources FilterRule.parse none
      [.written "||ads.com^".toList, .written "@@||example.com^$subdocument".toList]).map
        Report.rules = .ok [exception.widen, blocking] := by decide +kernel
  obtain ⟨report, succeeded, emitted⟩ := map_eq_ok.mp rules
  refine ⟨hostException .subdocument "@@||example.com^$subdocument".toList, exception, report,
    by decide +kernel, rfl, by decide, by decide +kernel, succeeded, ?_⟩
  rintro ⟨-, last⟩
  exact last [] [blocking] emitted blocking List.mem_cons_self rfl

end Ledger

end Blocklist
