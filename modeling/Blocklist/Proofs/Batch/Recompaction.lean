/-
This file says that compaction can be undone and done again: where no selector holds the mark that
stands between packed selectors, the wide rules fall into the selectors that they were packed from,
and these are packed to the same rules.
-/

import Blocklist.Proofs.Batch.Compaction
import Blocklist.Proofs.Text.Pair

namespace Blocklist.Compacted

/-- The rules hide what the selectors match, one for each, and on every page. -/
structure Hide (rules : List ContentRule) (selectors : List Text) : Prop where
  actions : rules.map ContentRule.action = selectors.map .cssDisplayNone
  everywhere : ∀ rule ∈ rules, rule.trigger.isRestricted = false

namespace Hide

variable {rules : List ContentRule} {selectors : List Text} (hide : Hide rules selectors)
include hide

theorem packable : Packable rules := by
  intro rule member _
  have action : rule.action ∈ selectors.map .cssDisplayNone := by
    rw [← hide.actions]
    exact List.mem_map_of_mem member
  obtain ⟨selector, -, same⟩ := List.mem_map.mp action
  exact ⟨selector, same.symm⟩

theorem filter_isRestricted : (rules.filter fun rule => rule.trigger.isRestricted) = [] := by
  rw [List.filter_eq_nil_iff]
  intro rule member
  simp [hide.everywhere rule member]

theorem openSelectors_eq : openSelectors rules = selectors := by
  have all : (rules.filter fun rule => !rule.trigger.isRestricted) = rules := by
    rw [List.filter_eq_self]
    intro rule member
    simp [hide.everywhere rule member]
  have actions := map_action_of_packable hide.packable
  rw [all, hide.actions, List.map_inj_right fun _ _ => Action.cssDisplayNone.inj] at actions
  exact actions.symm

theorem ofRules_eq (capacity : Nat) :
    ∃ portions, Portions (max capacity 1) selectors portions ∧
      ofRules capacity rules = .ok ⟨portions.map pack, []⟩ := by
  obtain ⟨portions, cut, compacted⟩ := ofRules_eq_ok capacity hide.packable
  rw [hide.openSelectors_eq] at cut
  rw [hide.filter_isRestricted] at compacted
  exact ⟨portions, cut, compacted⟩

end Hide

/-- The selectors of the wide rules, taken apart where selectors are joined. -/
def pieces (compacted : Compacted) : List Text :=
  (compacted.wide.filterMap fun rule => rule.action.selector?).flatMap
    (Text.piecesBetween ',' ' ')

theorem pieces_map_pack {capacity : Nat} {selectors : List Text} {portions : List (List Text)}
    (cut : Portions capacity selectors portions)
    (separate : ∀ selector ∈ selectors, ¬", ".toList <:+: selector)
    (domainSensitive : List ContentRule) :
    pieces ⟨portions.map pack, domainSensitive⟩ = selectors := by
  have taken : ∀ portion ∈ portions,
      Text.piecesBetween ',' ' ' (", ".toList.intercalate portion) = portion := by
    intro portion member
    apply Text.piecesBetween_intercalate (by decide)
    · exact List.length_pos_iff.mp (cut.filled portion member).1
    · intro selector inPortion
      apply separate
      rw [← cut.flatten]
      exact List.mem_flatten_of_mem member inPortion
  rw [pieces, List.filterMap_map]
  change (portions.filterMap fun portion =>
    some (", ".toList.intercalate portion)).flatMap _ = _
  rw [List.filterMap_eq_map', List.flatMap_map, ← cut.flatten, List.flatMap_def]
  rw [List.map_congr_left taken, List.map_id']

/-- The rules that packed selectors are taken apart into are packed to the same rules again. -/
theorem ofRules_pieces (capacity : Nat) {rules : List ContentRule} {selectors : List Text}
    (hide : Hide rules selectors)
    (separate : ∀ selector ∈ selectors, ¬", ".toList <:+: selector) :
    ∃ compacted, ofRules capacity rules = .ok compacted ∧ compacted.domainSensitive = [] ∧
      compacted.pieces = selectors ∧
      ∀ again, Hide again compacted.pieces → ofRules capacity again = .ok compacted := by
  obtain ⟨portions, cut, succeeded⟩ := hide.ofRules_eq capacity
  have taken := pieces_map_pack cut separate []
  refine ⟨_, succeeded, rfl, taken, ?_⟩
  intro again hideAgain
  rw [taken] at hideAgain
  obtain ⟨portionsAgain, cutAgain, succeededAgain⟩ := hideAgain.ofRules_eq capacity
  rw [succeededAgain, cutAgain.unique cut]

/-- A selector that is packed alone gives a rule that hides what it matches. -/
theorem hide_map_pack (selectors : List Text) :
    Hide (selectors.map fun selector => pack [selector]) selectors := by
  constructor
  case actions =>
    rw [List.map_map]
    apply List.map_congr_left
    intro selector _
    exact congrArg Action.cssDisplayNone List.intercalate_singleton
  case everywhere =>
    intro rule member
    obtain ⟨selector, -, rfl⟩ := List.mem_map.mp member
    rfl

/-- Selectors that end or begin next to the mark between packed selectors like a part of it. -/
def commaSelectors : List Text := [".ad,".toList, " .box".toList, [], ",".toList, " ".toList]

theorem ofRules_pieces_commas :
    ∃ compacted, ofRules 3 (commaSelectors.map fun selector => pack [selector]) = .ok compacted ∧
      compacted.pieces = commaSelectors ∧
      ofRules 3 (compacted.pieces.map fun piece => pack [piece]) = .ok compacted := by
  have separate : ∀ selector ∈ commaSelectors, ¬", ".toList <:+: selector := by
    intro selector member
    rw [← Text.holds_iff]
    revert selector
    decide
  obtain ⟨compacted, succeeded, -, taken, again⟩ :=
    ofRules_pieces 3 (hide_map_pack commaSelectors) separate
  exact ⟨compacted, succeeded, taken, again _ (hide_map_pack _)⟩

end Blocklist.Compacted
