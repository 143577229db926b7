/-
This file says how hiding rules are packed: the rules with domains stay as they are, and the
selectors of the others are cut into full portions, in order, with a rule for each portion. Only a
rule without domains that hides nothing makes compaction fail.
-/

import Blocklist.Batch.Compaction

namespace Blocklist.Compacted

/-- Selectors are cut into portions of one size, and only the last portion may be smaller. -/
structure Portions (capacity : Nat) (selectors : List Text) (portions : List (List Text)) :
    Prop where
  flatten : portions.flatten = selectors
  full : ∀ portion ∈ portions.dropLast, portion.length = capacity
  filled : ∀ portion ∈ portions, 0 < portion.length ∧ portion.length ≤ capacity

theorem portionsNil (capacity : Nat) : Portions capacity [] [] := by
  constructor <;> simp

theorem portionsSingle {capacity : Nat} {selectors : List Text} (some : selectors ≠ [])
    (fits : selectors.length ≤ capacity) : Portions capacity selectors [selectors] := by
  constructor
  · simp
  · simp
  · simpa using ⟨List.length_pos_iff.mpr some, fits⟩

theorem portionsCons {capacity : Nat} {first rest : List Text} {portions : List (List Text)}
    (positive : 0 < capacity) (full : first.length = capacity)
    (others : Portions capacity rest portions) :
    Portions capacity (first ++ rest) (first :: portions) := by
  constructor
  · rw [List.flatten_cons, others.flatten]
  · intro portion member
    cases portions with
    | nil => simp at member
    | cons second portions =>
        rw [List.dropLast_cons_cons, List.mem_cons] at member
        rcases member with rfl | member
        · exact full
        · exact others.full portion member
  · intro portion member
    rcases List.mem_cons.mp member with rfl | member
    · omega
    · exact others.filled portion member

namespace Portions

variable {capacity : Nat} {selectors portion : List Text} {portions others : List (List Text)}

theorem eq_nil (cut : Portions capacity [] portions) : portions = [] := by
  cases portions with
  | nil => rfl
  | cons portion portions =>
      have positive := (cut.filled portion List.mem_cons_self).1
      have empty : portion = [] := (List.append_eq_nil_iff.mp cut.flatten).1
      simp [empty] at positive

theorem tail (cut : Portions capacity selectors (portion :: portions)) :
    Portions capacity portions.flatten portions := by
  constructor
  · rfl
  · intro other member
    cases portions with
    | nil => cases member
    | cons second portions =>
        exact cut.full other (List.mem_cons_of_mem portion member)
  · intro other member
    exact cut.filled other (List.mem_cons_of_mem portion member)

theorem length_add (cut : Portions capacity selectors (portion :: portions)) :
    portion.length + portions.flatten.length = selectors.length := by
  rw [← cut.flatten, List.flatten_cons, List.length_append]

theorem length_first (cut : Portions capacity selectors (portion :: portions)) :
    portion.length = min capacity selectors.length := by
  have total := cut.length_add
  cases portions with
  | nil =>
      have fits := (cut.filled portion List.mem_cons_self).2
      rw [List.flatten_nil, List.length_nil] at total
      omega
  | cons second portions =>
      have full := cut.full portion List.mem_cons_self
      omega

/-- There is one way to cut selectors into portions. -/
theorem unique (cut : Portions capacity selectors portions)
    (alsoCut : Portions capacity selectors others) : portions = others := by
  induction portions generalizing selectors others with
  | nil =>
      obtain rfl : [] = selectors := cut.flatten
      exact alsoCut.eq_nil.symm
  | cons portion portions inductionHypothesis =>
      cases others with
      | nil =>
          obtain rfl : [] = selectors := alsoCut.flatten
          exact cut.eq_nil
      | cons other others =>
          have sameLength : portion.length = other.length := by
            rw [cut.length_first, alsoCut.length_first]
          have sameText : portion ++ portions.flatten = other ++ others.flatten :=
            cut.flatten.trans alsoCut.flatten.symm
          obtain ⟨rfl, sameRest⟩ := List.append_inj sameText sameLength
          rw [inductionHypothesis cut.tail (sameRest ▸ alsoCut.tail)]

/-- There is a portion for each capacity that the selectors fill or begin. -/
theorem length_eq (cut : Portions capacity selectors portions) (positive : 0 < capacity) :
    portions.length = (selectors.length + capacity - 1) / capacity := by
  induction portions generalizing selectors with
  | nil =>
      obtain rfl : [] = selectors := cut.flatten
      exact (Nat.div_eq_of_lt (by simp; omega)).symm
  | cons portion portions inductionHypothesis =>
      have later := inductionHypothesis cut.tail
      have first := cut.length_first
      have total := cut.length_add
      have filled := (cut.filled portion List.mem_cons_self).1
      have shifted : selectors.length + capacity - 1 = selectors.length - 1 + capacity := by omega
      rw [List.length_cons, later, shifted, Nat.add_div_right _ positive, Nat.succ_inj]
      by_cases last : portions.flatten.length = 0
      · rw [Nat.div_eq_of_lt (by omega), Nat.div_eq_of_lt (by omega)]
      · congr 1
        omega

end Portions

/-- The selectors of the rules without domains. -/
def openSelectors (rules : List ContentRule) : List Text :=
  rules.filterMap fun rule =>
    if rule.trigger.isRestricted then none else rule.action.selector?

/-- Rules without domains hide something, so that they can be packed. -/
def Packable (rules : List ContentRule) : Prop :=
  ∀ rule ∈ rules, rule.trigger.isRestricted = false →
    ∃ selector, rule.action = .cssDisplayNone selector

theorem closePortions {capacity : Nat} {pending : List Text} (room : pending.length < capacity) :
    ∃ portions, Portions capacity pending portions ∧ close pending = portions.map pack := by
  by_cases empty : pending = []
  · exact ⟨[], empty ▸ portionsNil capacity, by simp [close, empty]⟩
  · refine ⟨[pending], portionsSingle empty (Nat.le_of_lt room), ?_⟩
    simp [close, empty]

/-- The induction is on the rules, for all selectors that wait to be packed. -/
theorem gather_eq_ok {capacity : Nat} {rules : List ContentRule} (packable : Packable rules) :
    ∀ pending : List Text, pending.length < capacity →
      ∃ portions, Portions capacity (pending ++ openSelectors rules) portions ∧
        gather capacity pending rules =
          .ok ⟨portions.map pack, rules.filter fun rule => rule.trigger.isRestricted⟩ := by
  induction rules with
  | nil =>
      intro pending room
      obtain ⟨portions, cut, closed⟩ := closePortions room
      exact ⟨portions, by simpa [openSelectors] using cut, by simp [gather, closed]⟩
  | cons rule rules inductionHypothesis =>
      intro pending room
      have later : Packable rules := fun other member =>
        packable other (List.mem_cons_of_mem rule member)
      cases restricted : rule.trigger.isRestricted with
      | true =>
          obtain ⟨portions, cut, gathered⟩ := inductionHypothesis later pending room
          refine ⟨portions, by simpa [openSelectors, restricted] using cut, ?_⟩
          simp [gather, restricted, gathered, Except.map, addDomainSensitive]
      | false =>
          obtain ⟨selector, hides⟩ := packable rule List.mem_cons_self restricted
          have selectors : openSelectors (rule :: rules) = selector :: openSelectors rules := by
            simp [openSelectors, restricted, hides, Action.selector?]
          by_cases isFull : capacity ≤ (pending ++ [selector]).length
          · obtain ⟨portions, cut, gathered⟩ := inductionHypothesis later [] (by simp; omega)
            refine ⟨(pending ++ [selector]) :: portions, ?_, ?_⟩
            · rw [selectors, List.append_cons]
              exact portionsCons (by omega) (by simp at isFull ⊢; omega) cut
            · have closed : close (pending ++ [selector]) = [pack (pending ++ [selector])] := by
                simp [close]
              simp only [gather, restricted, hides, if_pos isFull, gathered, Except.map, addWide,
                closed]
              simp [restricted]
          · obtain ⟨portions, cut, gathered⟩ :=
              inductionHypothesis later (pending ++ [selector]) (by omega)
            refine ⟨portions, by rw [selectors, List.append_cons]; exact cut, ?_⟩
            simp only [gather, restricted, hides, if_neg isFull, gathered]
            simp [restricted]

/-- Compaction succeeds on rules that can be packed, and keeps every rule once. -/
theorem ofRules_eq_ok {rules : List ContentRule} (capacity : Nat) (packable : Packable rules) :
    ∃ portions, Portions (max capacity 1) (openSelectors rules) portions ∧
      ofRules capacity rules =
        .ok ⟨portions.map pack, rules.filter fun rule => rule.trigger.isRestricted⟩ :=
  gather_eq_ok packable [] (Nat.le_max_right capacity 1)

/-- The rule acts on every page, and does something else than to hide elements. -/
def IsForeign (rule : ContentRule) : Prop :=
  rule.trigger.isRestricted = false ∧ ∀ selector, rule.action ≠ .cssDisplayNone selector

/-- A foreign rule stops the gathering of selectors, wherever it stands. -/
theorem gather_eq_error {capacity : Nat} {rules : List ContentRule} {rule : ContentRule}
    (member : rule ∈ rules) (foreign : IsForeign rule) :
    ∀ pending, gather capacity pending rules = .error .foreignAction := by
  induction rules with
  | nil => cases member
  | cons first rules inductionHypothesis =>
      intro pending
      rcases List.mem_cons.mp member with rfl | later
      · rw [gather, foreign.1, if_neg Bool.false_ne_true]
        split
        case h_1 selector hides => exact absurd hides (foreign.2 selector)
        case h_2 => rfl
      · have stopped := inductionHypothesis later
        rw [gather]
        split
        case isTrue => rw [stopped, Except.map]
        case isFalse =>
          split
          case h_1 =>
            dsimp only
            rw [stopped, stopped, Except.map, ite_self]
          case h_2 => rfl

/-- The selectors that are packed are those of the actions of the rules without domains. -/
theorem map_action_of_packable {rules : List ContentRule} (packable : Packable rules) :
    (rules.filter fun rule => !rule.trigger.isRestricted).map ContentRule.action =
      (openSelectors rules).map .cssDisplayNone := by
  induction rules with
  | nil => rfl
  | cons rule rules inductionHypothesis =>
      have later := inductionHypothesis fun other member =>
        packable other (List.mem_cons_of_mem rule member)
      cases restricted : rule.trigger.isRestricted with
      | true => simpa [openSelectors, restricted] using later
      | false =>
          obtain ⟨selector, hides⟩ := packable rule List.mem_cons_self restricted
          simpa [openSelectors, restricted, hides, Action.selector?] using later

theorem packable_iff {rules : List ContentRule} :
    Packable rules ↔ ¬∃ rule ∈ rules, IsForeign rule := by
  simp [Packable, IsForeign]

theorem ofRules_eq_error_iff (capacity : Nat) {rules : List ContentRule} :
    (∃ cause, ofRules capacity rules = .error cause) ↔ ∃ rule ∈ rules, IsForeign rule := by
  constructor
  · rintro ⟨cause, failed⟩
    apply Classical.byContradiction
    intro noneForeign
    obtain ⟨portions, -, succeeded⟩ := ofRules_eq_ok capacity (packable_iff.mpr noneForeign)
    rw [succeeded] at failed
    cases failed
  · rintro ⟨rule, member, foreign⟩
    exact ⟨.foreignAction, gather_eq_error member foreign []⟩

/-- What compaction makes of rules: those with a list of domains stay as they are, and the selectors
of the others are cut into portions, with a rule for each portion. -/
structure Parts (capacity : Nat) (rules : List ContentRule) (compacted : Compacted)
    (selectors : List Text) (portions : List (List Text)) : Prop where
  domainSensitive : compacted.domainSensitive =
    rules.filter fun rule => rule.trigger.ifDomain.isSome || rule.trigger.unlessDomain.isSome
  hidden : (rules.filter fun rule =>
      rule.trigger.ifDomain.isNone && rule.trigger.unlessDomain.isNone).map ContentRule.action =
    selectors.map .cssDisplayNone
  cut : Portions capacity selectors portions
  wide : compacted.wide = portions.map fun portion =>
    { trigger := {
        urlFilter := ".*".toList
        caseSensitive := none
        ifDomain := none
        unlessDomain := none
        resourceTypes := none
        loadTypes := none }
      action := .cssDisplayNone (", ".toList.intercalate portion) }
  wideCount : compacted.wide.length = (selectors.length + capacity - 1) / capacity

/-- Compaction fails for a rule without domains that hides nothing, and parts all other rules; it
packs one selector at a time if no capacity is given. -/
theorem ofRules_parts (capacity : Nat) (rules : List ContentRule) :
    ((∃ cause, ofRules capacity rules = .error cause) ↔ ∃ rule ∈ rules, IsForeign rule) ∧
      ∀ compacted, ofRules capacity rules = .ok compacted →
        ∃ selectors portions, Parts (max capacity 1) rules compacted selectors portions := by
  refine ⟨ofRules_eq_error_iff capacity, ?_⟩
  intro compacted succeeded
  have packable : Packable rules := by
    rw [packable_iff, ← ofRules_eq_error_iff capacity, succeeded]
    simp
  obtain ⟨portions, cut, parted⟩ := ofRules_eq_ok capacity packable
  obtain rfl := Except.ok.inj (succeeded.symm.trans parted)
  refine ⟨openSelectors rules, portions, ?_⟩
  constructor
  case domainSensitive => rfl
  case hidden => simpa [Trigger.isRestricted] using map_action_of_packable packable
  case cut => exact cut
  case wide => rfl
  case wideCount => rw [List.length_map, cut.length_eq (by omega)]

/-- A rule that hides a box on one site. -/
def siteRule : ContentRule :=
  { trigger := { Trigger.anyUrl with ifDomain := some ["example.com".toList] }
    action := .cssDisplayNone ".box".toList }

/-- Rules for all pages, one of them with an empty selector, around one for some pages. -/
def mixedRules : List ContentRule :=
  [pack [".ad".toList], siteRule, pack [[]], pack ["#top".toList]]

/-- The mixed rules with two selectors in a rule. -/
def mixedPacked : Compacted := ⟨[pack [".ad".toList, []], pack ["#top".toList]], [siteRule]⟩

theorem ofRules_parts_mixed : ofRules 2 mixedRules = .ok mixedPacked ∧
    ∃ selectors portions, Parts 2 mixedRules mixedPacked selectors portions := by
  have succeeded : ofRules 2 mixedRules = .ok mixedPacked := rfl
  exact ⟨succeeded, (ofRules_parts 2 mixedRules).2 mixedPacked succeeded⟩

end Blocklist.Compacted
