/-
This file says what the exceptions do to a hiding rule: its excluded domains grow by the domains
of the exceptions with its selector that it is reached by, and nothing else changes.
-/

import Blocklist.Batch.Merging
import Blocklist.Proofs.Content.NameList

namespace Blocklist

namespace Trigger

theorem exclude_eq (trigger : Trigger) (domain : Text) :
    trigger.exclude domain =
      if trigger.reaches domain then
        { trigger with unlessDomain := some (joinName (trigger.unlessDomain.getD []) domain) }
      else trigger := rfl

/-- An exclusion changes the excluded domains only. -/
theorem exclude_frame (trigger : Trigger) (domain : Text) :
    trigger.exclude domain =
      { trigger with unlessDomain := (trigger.exclude domain).unlessDomain } := by
  rw [exclude_eq]
  split <;> rfl

theorem foldl_exclude_frame (domains : List Text) (trigger : Trigger) :
    domains.foldl exclude trigger =
      { trigger with unlessDomain := (domains.foldl exclude trigger).unlessDomain } := by
  induction domains generalizing trigger with
  | nil => rfl
  | cons domain domains inductionHypothesis =>
      rw [List.foldl_cons, inductionHypothesis, exclude_frame]

@[simp] theorem foldl_exclude_ifDomain (domains : List Text) (trigger : Trigger) :
    (domains.foldl exclude trigger).ifDomain = trigger.ifDomain := by
  rw [foldl_exclude_frame]

theorem reaches_exclude (trigger : Trigger) (domain other : Text) :
    (trigger.exclude domain).reaches other = trigger.reaches other := by
  rw [exclude_frame]
  rfl

theorem mem_exclude {trigger : Trigger} {domain name : Text} :
    name ∈ (trigger.exclude domain).unlessDomain.getD [] ↔
      name ∈ trigger.unlessDomain.getD [] ∨ (name = domain ∧ trigger.reaches domain) := by
  rw [exclude_eq]
  split
  case isTrue reached => simp [mem_joinName, reached]
  case isFalse unreached => simp [unreached]

/-- The excluded domains are the old ones, and those that the trigger is reached by. -/
theorem mem_foldl_exclude {domains : List Text} {trigger : Trigger} {name : Text} :
    name ∈ (domains.foldl exclude trigger).unlessDomain.getD [] ↔
      name ∈ trigger.unlessDomain.getD [] ∨ (name ∈ domains ∧ trigger.reaches name) := by
  induction domains generalizing trigger with
  | nil => simp
  | cons domain domains inductionHypothesis =>
      rw [List.foldl_cons, inductionHypothesis, mem_exclude, reaches_exclude, List.mem_cons]
      constructor
      · rintro ((old | ⟨rfl, reached⟩) | ⟨member, reached⟩)
        · exact .inl old
        · exact .inr ⟨.inl rfl, reached⟩
        · exact .inr ⟨.inr member, reached⟩
      · rintro (old | ⟨rfl | member, reached⟩)
        · exact .inl (.inl old)
        · exact .inl (.inr ⟨rfl, reached⟩)
        · exact .inr ⟨member, reached⟩

end Trigger

namespace ContentRule

/-- The domains of all exceptions that spare what the rule hides, in order. -/
def exceptionDomains (exceptions : List ContentRule) (rule : ContentRule) : List Text :=
  (rule.exceptionsFor exceptions).flatMap fun exception => exception.ifDomain.getD []

theorem mem_exceptionDomains {exceptions : List ContentRule} {rule : ContentRule} {domain : Text} :
    domain ∈ rule.exceptionDomains exceptions ↔
      ∃ exception ∈ exceptions, exception.action.selector?.isSome ∧
        exception.action.selector? = rule.action.selector? ∧
        domain ∈ exception.trigger.ifDomain.getD [] := by
  simp [exceptionDomains, exceptionsFor, and_assoc]

/-- The rule after the exceptions. -/
def spared (exceptions : List ContentRule) (rule : ContentRule) : ContentRule :=
  { rule with trigger := (rule.exceptionDomains exceptions).foldl Trigger.exclude rule.trigger }

theorem spared_eq_foldl_spare (exceptions : List ContentRule) (rule : ContentRule) :
    rule.spared exceptions =
      { rule with
        trigger := (rule.exceptionsFor exceptions).foldl Trigger.spare rule.trigger } := by
  rw [spared, exceptionDomains, List.foldl_flatMap]
  rfl

end ContentRule

theorem HidingRule.merge_fst (exceptions : List ContentRule) (hidden : HidingRule) :
    (hidden.merge exceptions).1 = { hidden with rule := hidden.rule.spared exceptions } := by
  rw [ContentRule.spared_eq_foldl_spare]
  rfl

namespace Merged

/-- The rules that remain are those that the exceptions leave without a conflict. -/
theorem merge_kept (hidden : List HidingRule) (exceptions : List ContentRule) :
    (merge hidden exceptions).kept =
      (hidden.map fun entry => entry.rule.spared exceptions).filter
        fun rule => !rule.trigger.hasConflict := by
  simp only [merge, List.map_map, Function.comp_def, HidingRule.merge_fst]
  rw [List.filter_map, List.filter_map, List.map_map]
  rfl

theorem merge_conflicts (hidden : List HidingRule) (exceptions : List ContentRule) :
    (merge hidden exceptions).conflicts =
      (hidden.filter fun entry => (entry.rule.spared exceptions).trigger.hasConflict).map
        HidingRule.line := by
  simp only [merge, List.map_map, Function.comp_def, HidingRule.merge_fst]
  rw [List.filter_map, List.map_map]
  rfl

end Merged

end Blocklist
