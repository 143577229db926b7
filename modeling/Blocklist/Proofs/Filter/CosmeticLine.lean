/-
This file says that a cosmetic rule is read from its line as it was written: with the domains in
their order, the selector, and what the marker between them tells.
-/

import Blocklist.Proofs.Filter.DomainList
import Blocklist.Proofs.Filter.PseudoClass

namespace Blocklist

open Text

namespace CosmeticRule

/-- The marker as it stands in front of the selector. -/
def Marker.text : Marker → Text
  | ⟨false, false⟩ => "##".toList
  | ⟨true, false⟩ => "#@#".toList
  | ⟨false, true⟩ => "#$#".toList
  | ⟨true, true⟩ => "#@$#".toList

theorem Marker.mem_text_iff (marker : Marker) :
    ('@' ∈ marker.text ↔ marker.isException = true) ∧
      ('$' ∈ marker.text ↔ marker.isInjected = true) := by
  obtain ⟨isException, isInjected⟩ := marker
  cases isException <;> cases isInjected <;> decide

/-- The marker as it is continued behind its first number sign, and the marker told from that. -/
theorem Marker.exists_text_eq (marker : Marker) (selector : Text) :
    ∃ suffix, marker.text ++ selector = '#' :: suffix ∧
      Marker.ofSuffix? suffix = some (marker, selector) := by
  obtain ⟨isException, isInjected⟩ := marker
  cases isException with
  | false =>
      cases isInjected with
      | false => exact ⟨'#' :: selector, rfl, rfl⟩
      | true => exact ⟨'$' :: '#' :: selector, rfl, rfl⟩
  | true =>
      cases isInjected with
      | false => exact ⟨'@' :: '#' :: selector, rfl, rfl⟩
      | true => exact ⟨'@' :: '$' :: '#' :: selector, rfl, rfl⟩

/-- The first number sign is that of the marker, and no marker is taken for another one. -/
theorem Marker.cutFirst?_text {front : Text} (absent : '#' ∉ front) (marker : Marker)
    (selector : Text) : ∃ suffix, cutFirst? '#' (front ++ marker.text ++ selector) =
      some (front, suffix) ∧ Marker.ofSuffix? suffix = some (marker, selector) := by
  obtain ⟨suffix, continued, told⟩ := marker.exists_text_eq selector
  refine ⟨suffix, ?_, told⟩
  rw [cutFirst?_eq_some_iff, List.append_assoc, continued]
  exact ⟨rfl, absent⟩

/-- No colon at the top level of the selector is followed by a style or by a procedure. -/
def Declarable (selector : Text) : Prop :=
  ∀ before pseudoClass, selector = before ++ ':' :: pseudoClass → Selector.Whole false before →
    Selector.isStyle pseudoClass = false ∧ Selector.isProcedural pseudoClass = false

theorem declarable_iff {selector : Text} :
    Declarable selector ↔ ∀ pseudoClass ∈ Selector.pseudoClasses selector,
      Selector.isStyle pseudoClass = false ∧ Selector.isProcedural pseudoClass = false := by
  constructor
  · intro declarable pseudoClass member
    obtain ⟨before, cut, whole⟩ := Selector.mem_pseudoClasses_iff.mp member
    exact declarable before pseudoClass cut whole
  · intro plain before pseudoClass cut whole
    exact plain pseudoClass (Selector.mem_pseudoClasses_iff.mpr ⟨before, cut, whole⟩)

instance (selector : Text) : Decidable (Declarable selector) :=
  decidable_of_iff _ declarable_iff.symm

theorem injects_eq_ok_false {selector : Text} {pseudoClasses : List Text}
    (plain : ∀ pseudoClass ∈ pseudoClasses,
      Selector.isStyle pseudoClass = false ∧ Selector.isProcedural pseudoClass = false) :
    injects selector pseudoClasses = .ok false := by
  induction pseudoClasses with
  | nil => rfl
  | cons pseudoClass rest inductionHypothesis =>
      have here := plain pseudoClass List.mem_cons_self
      rw [injects, here.1, here.2]
      exact inductionHypothesis fun other member =>
        plain other (List.mem_cons_of_mem pseudoClass member)

theorem isInjectedBy_of_declarable {marker : Marker} {selector : Text}
    (declarable : marker.isInjected = false → Declarable selector) :
    isInjectedBy marker selector = .ok marker.isInjected := by
  rw [isInjectedBy]
  split
  case isTrue injected => rw [injected]
  case isFalse plain =>
    have noInjection : marker.isInjected = false := by simpa using plain
    rw [noInjection]
    exact injects_eq_ok_false (declarable_iff.mp (declarable noInjection))

/-- The line that lists domains in front of a marker, and has a selector behind it. -/
def lineOf (fields : List DomainField) (marker : Marker) (selector : Text) : Text :=
  DomainField.listed fields ++ marker.text ++ selector

/-- The rule that such a line writes. -/
def written (fields : List DomainField) (marker : Marker) (selector : Text) : CosmeticRule where
  selector
  includedDomains := DomainEntry.included (fields.filterMap DomainField.entry)
  excludedDomains := DomainEntry.excludedNames (fields.filterMap DomainField.entry)
  isException := marker.isException
  isInjected := marker.isInjected
  line := lineOf fields marker selector

/-- Reading undoes writing, for every marker, every selector that has no blanks around it and can be
declared, and every list of domains, with blanks around its entries or instead of them. -/
theorem parse_lineOf {fields : List DomainField} {marker : Marker} {selector : Text}
    (regular : ∀ field ∈ fields, field.Regular) (some : selector ≠ [])
    (trimmed : trim selector = selector)
    (declarable : marker.isInjected = false → Declarable selector) :
    parse (lineOf fields marker selector) = .ok (written fields marker selector) ∧
      ((written fields marker selector).isException = true ↔ '@' ∈ marker.text) ∧
      ((written fields marker selector).isInjected = true ↔ '$' ∈ marker.text) := by
  refine ⟨?_, marker.mem_text_iff.1.symm, marker.mem_text_iff.2.symm⟩
  obtain ⟨suffix, cut, found⟩ :=
    Marker.cutFirst?_text (DomainField.not_mem_listed regular) marker selector
  have told := isInjectedBy_of_declarable declarable
  rw [← trimmed] at some told
  have read := parse_of_parts cut found (DomainField.supportedDomains_listed regular) some told
  rwa [trimmed] at read

/-- Two entries with blanks alone between them, where the name that is excluded has a tilde
itself. -/
def shopFields : List DomainField :=
  [⟨[], some ⟨"shop.com".toList, false⟩, [' ']⟩, ⟨[' ', '\t'], none, []⟩,
    ⟨[' '], some ⟨"~m.shop.com".toList, true⟩, []⟩]

/-- A selector with marks of markers and of lists in it, and with colons in a string and in front of
pseudo-classes that can be declared. -/
def shopSelector : Text := "a#top[href*=\":has(##,$@)\"]:not(.b):hover".toList

theorem parse_lineOf_shop :
    parse (lineOf shopFields ⟨true, false⟩ shopSelector) =
        .ok (written shopFields ⟨true, false⟩ shopSelector) ∧
      (written shopFields ⟨true, false⟩ shopSelector).includedDomains = ["shop.com".toList] ∧
      (written shopFields ⟨true, false⟩ shopSelector).excludedDomains = ["~m.shop.com".toList] := by
  have regular : ∀ field ∈ shopFields, field.Regular := by decide
  have declarable : Declarable shopSelector := by decide
  obtain ⟨read, -, -⟩ := parse_lineOf regular (by decide) (by decide) fun _ => declarable
  exact ⟨read, rfl, rfl⟩

end CosmeticRule

end Blocklist
