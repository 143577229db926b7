/-
This file shows that all rules of a report have well-formed conditions. Exceptions add domains to
hiding rules and keep the lists in order, and a rule whose lists would no longer exclude each other
is dropped. The stars in front of the domains and the limit change nothing about that.
-/

import Blocklist.Proofs.Batch.Output
import Blocklist.Proofs.Content.WellFormed

namespace Blocklist

namespace Trigger

theorem exclude_hasLists {isName : Text → Prop} {trigger : Trigger} {domain : Text}
    (lists : trigger.HasLists isName) (fits : isName domain) :
    (trigger.exclude domain).HasLists isName := by
  rw [exclude_eq]
  split
  case isTrue =>
    constructor
    · exact lists.required
    · intro names present
      obtain rfl : joinName (trigger.unlessDomain.getD []) domain = names :=
        Option.some.inj present
      have old : NameList isName (trigger.unlessDomain.getD []) := by
        cases excluded : trigger.unlessDomain with
        | none => exact NameList.nil isName
        | some names => exact (lists.excluded names excluded).2
      exact ⟨joinName_ne_nil _ domain, old.join fits⟩
    · exact lists.resourceTypes
    · exact lists.loadTypes
  case isFalse => exact lists

theorem foldl_exclude_hasLists {isName : Text → Prop} {domains : List Text}
    (fit : ∀ domain ∈ domains, isName domain) {trigger : Trigger}
    (lists : trigger.HasLists isName) : (domains.foldl exclude trigger).HasLists isName := by
  induction domains generalizing trigger with
  | nil => exact lists
  | cons domain domains inductionHypothesis =>
      have othersFit : ∀ other ∈ domains, isName other := fun other member =>
        fit other (List.mem_cons_of_mem domain member)
      exact inductionHypothesis othersFit (exclude_hasLists lists (fit domain List.mem_cons_self))

/-- Without a conflict, the lists of domains exclude each other. -/
theorem HasLists.wellFormed {isName : Text → Prop} {trigger : Trigger}
    (lists : trigger.HasLists isName) (agrees : trigger.hasConflict = false) :
    trigger.WellFormed isName := by
  refine ⟨lists, ?_⟩
  cases required : trigger.ifDomain with
  | none => exact .inl rfl
  | some names =>
      right
      cases excluded : trigger.unlessDomain with
      | none => rfl
      | some others =>
          have someNames := (lists.required names required).1
          have someOthers := (lists.excluded others excluded).1
          simp [hasConflict, required, excluded, someNames, someOthers] at agrees

/-- The name has a star in front, and the rest is in ASCII without capital letters. -/
def IsStarred (name : Text) : Prop :=
  ∃ domain, name = '*' :: domain ∧ Hostname.IsAsciiName domain

theorem widen_wellFormed {trigger : Trigger}
    (wellFormed : trigger.WellFormed Hostname.IsAsciiName) :
    trigger.widen.WellFormed IsStarred := by
  have star : ∀ names : List Text,
      names ≠ [] ∧ NameList Hostname.IsAsciiName names →
        names.map ('*' :: ·) ≠ [] ∧ NameList IsStarred (names.map ('*' :: ·)) := by
    rintro names ⟨some, list⟩
    refine ⟨by simpa using some, list.map (List.cons_injective) ?_⟩
    intro name small
    exact ⟨name, rfl, small⟩
  constructor
  · constructor
    · intro starred present
      obtain ⟨names, required, rfl⟩ := Option.map_eq_some_iff.mp present
      exact star names (wellFormed.required names required)
    · intro starred present
      obtain ⟨names, excluded, rfl⟩ := Option.map_eq_some_iff.mp present
      exact star names (wellFormed.excluded names excluded)
    · exact wellFormed.resourceTypes
    · exact wellFormed.loadTypes
  · rcases wellFormed.exclusive with noneRequired | noneExcluded
    · exact .inl (by simp [widen, noneRequired])
    · exact .inr (by simp [widen, noneExcluded])

end Trigger

namespace Fate

/-- The domains of a folded exception are well-formed like those of every converted rule. -/
theorem Of.folded_wellFormed {parser : FilterRule.Parser} {exceptions : List ContentRule}
    {source : Source} {exception : ContentRule}
    (deserved : Of parser exceptions source (.folded exception)) :
    exception.trigger.WellFormed Hostname.IsAsciiName := by
  cases deserved with
  | exception _ converted _ => exact FilterRule.convert_wellFormed converted

theorem Of.emitted_wellFormed {parser : FilterRule.Parser} {exceptions : List ContentRule}
    (wellFormed : ∀ exception ∈ exceptions, exception.trigger.WellFormed Hostname.IsAsciiName)
    {source : Source} {rule : ContentRule}
    (deserved : Of parser exceptions source (.emitted rule)) :
    rule.trigger.WellFormed Hostname.IsAsciiName := by
  cases deserved with
  | @somewhere _ _ content _ _ converted _ agrees _ =>
      have small : ∀ domain ∈ content.exceptionDomains exceptions, Hostname.IsAsciiName domain := by
        intro domain member
        obtain ⟨exception, present, -, -, listed⟩ := ContentRule.mem_exceptionDomains.mp member
        cases required : exception.trigger.ifDomain with
        | none => simp [required] at listed
        | some names =>
            rw [required, Option.getD_some] at listed
            exact ((wellFormed exception present).required names required).2.named domain listed
      have lists := (FilterRule.convert_wellFormed converted).toHasLists
      exact (Trigger.foldl_exclude_hasLists small lists).wellFormed agrees
  | unselected _ converted _ => exact FilterRule.convert_wellFormed converted

end Fate

theorem Ledger.rules_wellFormed {parser : FilterRule.Parser} {sources : List Source}
    {fates : List Fate} {report : Report} (ledger : Ledger parser sources fates report) :
    ∀ rule ∈ report.rules, rule.trigger.WellFormed Trigger.IsStarred := by
  have exceptions : ∀ exception ∈ fates.filterMap Fate.exception?,
      exception.trigger.WellFormed Hostname.IsAsciiName := by
    intro exception member
    obtain ⟨fate, present, folded⟩ := List.mem_filterMap.mp member
    obtain rfl := Fate.eq_folded_of_exception? folded
    obtain ⟨source, -, deserved⟩ := ledger.exists_source present
    exact deserved.folded_wellFormed
  intro rule member
  obtain ⟨narrow, rfl, everywhere | emitted⟩ := ledger.exists_emitted member
  · apply Trigger.widen_wellFormed
    rw [everywhere]
    exact Trigger.wellFormed_anyUrl _
  · obtain ⟨source, -, deserved⟩ := ledger.exists_source emitted
    exact Trigger.widen_wellFormed (deserved.emitted_wellFormed exceptions)

namespace Report

/-- Every list with an item is converted under every limit, and the rules that are read from the
text of the report have well-formed conditions. -/
theorem converted_wellFormed (parser : FilterRule.Parser) (limit : Option Int) (first : Source)
    (rest : List Source) :
    ∃ report rules, ofSources parser limit (first :: rest) = .ok report ∧
      ContentRule.readAll? report.converted = some rules ∧
      ∀ rule ∈ rules, rule.trigger.WellFormed Trigger.IsStarred := by
  obtain ⟨full, fates, succeeded, ledger⟩ := Ledger.exists_ofItems parser first rest
  obtain ⟨report, succeededToo, rules⟩ := ofSources_prefix parser limit (first :: rest) succeeded
  refine ⟨report, report.rules, succeededToo, ContentRule.readAll?_writeAll report.rules, ?_⟩
  intro rule member
  exact ledger.rules_wellFormed rule (rules.subset member)

end Report

end Blocklist
