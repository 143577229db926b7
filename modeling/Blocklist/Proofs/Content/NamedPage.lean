/-
This file says what is taken for the address of a page in the body of a rule. The mark of a domain
is looked for in the whole body, so that it is found in the pattern first, and then in the first
option that has it. Without a mark, the address is the pattern without its scheme.
-/

import Blocklist.Content.Exemption
import Blocklist.Proofs.Filter.OptionMark
import Blocklist.Proofs.Hostname.Mark

namespace Blocklist

open Text

namespace NamedPage

section Behind

variable {mark : Text}

theorem behind?_nil (someMark : mark ≠ []) : behind? mark [] = none := by
  rw [behind?, if_neg (by simpa using someMark)]

theorem behind?_eq_none_iff (someMark : mark ≠ []) {text : Text} :
    behind? mark text = none ↔ text.holds mark = false := by
  induction text with
  | nil => cases mark <;> simp_all [behind?, holds]
  | cons c rest inductionHypothesis =>
      rw [behind?, Option.or_eq_none_iff, ← startsWith_eq_false_iff, inductionHypothesis, holds,
        Bool.or_eq_false_iff, startsWith]

theorem exists_before_of_behind? {text behind : Text} (found : behind? mark text = some behind) :
    ∃ before, text = before ++ mark ++ behind := by
  induction text with
  | nil =>
      unfold behind? at found
      split at found
      case isTrue empty =>
        obtain rfl := Option.some.inj found
        exact ⟨[], by simpa using empty.symm⟩
      case isFalse => cases found
  | cons c rest inductionHypothesis =>
      rw [behind?, Option.or_eq_some_iff] at found
      rcases found with now | ⟨-, later⟩
      · exact ⟨[], after?_eq_some_iff.mp now⟩
      · obtain ⟨before, same⟩ := inductionHypothesis later
        exact ⟨c :: before, congrArg (c :: ·) same⟩

variable {separator : Char}

/-- A mark without the separator is found in front of it, or else behind it. -/
theorem behind?_append_cons (someMark : mark ≠ []) (absent : separator ∉ mark)
    (front back : Text) : behind? mark (front ++ separator :: back) =
      ((behind? mark front).map (· ++ separator :: back)).or (behind? mark back) := by
  induction front with
  | nil =>
      have noneHere : after? (separator :: back) mark = none := by
        cases mark with
        | nil => exact absurd rfl someMark
        | cons wanted mark =>
            rw [List.mem_cons, not_or] at absent
            exact if_neg absent.1
      rw [List.nil_append, behind?_nil someMark, behind?, noneHere]
      rfl
  | cons c front inductionHypothesis =>
      rw [List.cons_append, behind?, ← List.cons_append, after?_append_cons absent,
        inductionHypothesis, behind?, Option.map_or, Option.or_assoc]

/-- Up to the next separator, what stands behind a mark is what stands behind it in the first part
that has the mark. -/
theorem behind?_intercalate (someMark : mark ≠ []) (absent : separator ∉ mark) {parts : List Text}
    (apart : ∀ part ∈ parts, separator ∉ part) :
    (behind? mark ([separator].intercalate parts)).map (·.takeWhile (· ≠ separator)) =
      (parts.find? (·.holds mark)).bind (behind? mark) := by
  induction parts with
  | nil => exact congrArg (Option.map _) (behind?_nil someMark)
  | cons part parts inductionHypothesis =>
      have later := inductionHypothesis fun other member =>
        apart other (List.mem_cons_of_mem part member)
      cases found : behind? mark part with
      | none =>
          have unmarked : Text.holds part mark = false := (behind?_eq_none_iff someMark).mp found
          rw [List.find?_cons_of_neg (p := fun part : Text => part.holds mark) (by simp [unmarked]),
            ← later]
          cases parts with
          | nil =>
              rw [List.intercalate_singleton, found, List.intercalate_nil, behind?_nil someMark]
          | cons next parts =>
              rw [List.intercalate_cons_cons, List.append_assoc, List.singleton_append,
                behind?_append_cons someMark absent, found]
              rfl
      | some behind =>
          have marked : Text.holds part mark = true := by
            by_contra unmarked
            rw [Bool.not_eq_true] at unmarked
            rw [(behind?_eq_none_iff someMark).mpr unmarked] at found
            cases found
          obtain ⟨before, same⟩ := exists_before_of_behind? found
          have noSeparator : ∀ c ∈ behind, c ≠ separator := by
            intro c member isSeparator
            apply apart part List.mem_cons_self
            rw [same, ← isSeparator]
            exact List.mem_append_right _ member
          rw [List.find?_cons_of_pos (p := fun part : Text => part.holds mark) marked,
            Option.bind_some, found]
          cases parts with
          | nil =>
              rw [List.intercalate_singleton, found, Option.map_some,
                List.takeWhile_eq_self_iff.mpr (by simpa using noSeparator)]
          | cons next parts =>
              rw [List.intercalate_cons_cons, List.append_assoc, List.singleton_append,
                behind?_append_cons someMark absent, found, Option.map_some, Option.some_or,
                Option.map_some, List.takeWhile_append_of_pos (by simpa using noSeparator)]
              simp

end Behind

/-- The mark of a domain, which is looked for in the whole body of a rule. -/
def domainMark : Text := "domain=".toList

/-- The part of an address that is taken for a name. -/
def leading (address : Text) : Text := address.takeWhile fun c => !endsDomain c

/-- An address consists of a name, whose normal form is the domain, and perhaps of a separator or a
slash behind it. -/
structure NamesDomain (address domain : Text) : Prop where
  whole : (address.dropWhile fun c => !endsDomain c) ∈ [[], ['^'], ['/']]
  normal : Hostname.normalize? (leading address) = some domain
  valid : Hostname.isValid domain = true

theorem namesDomain_of_ofText {text domain : Text} (whole : (ofText text).isWhole = true)
    (named : (ofText text).domain = some domain) : NamesDomain (address text) domain := by
  obtain ⟨normal, valid⟩ := Option.filter_eq_some_iff.mp named
  refine ⟨?_, normal, valid⟩
  simpa [isWhole, ofText, or_assoc] using whole

namespace NamesDomain

variable {address domain : Text} (names : NamesDomain address domain)
include names

theorem not_mem (mark : Char) (isMark : mark ∈ Hostname.optionMarks) : mark ∉ address := by
  rw [← List.takeWhile_append_dropWhile (p := fun c => !endsDomain c) (l := address),
    List.mem_append, not_or]
  refine ⟨Hostname.not_mem_of_isValid isMark names.normal names.valid, fun behind => ?_⟩
  have noEnding : ∀ ending ∈ [[], ['^'], ['/']], mark ∉ ending := by
    simp only [Hostname.optionMarks, List.mem_cons, List.not_mem_nil, or_false] at isMark
    rcases isMark with rfl | rfl | rfl <;> simp
  exact noEnding _ names.whole behind

/-- An address without a slash and a separator is a name. -/
theorem normalize?_eq (noEnding : address.any endsDomain = false) :
    Hostname.normalize? address = some domain := by
  have same : leading address = address :=
    List.takeWhile_eq_self_iff.mpr (by simpa using noEnding)
  rw [← same]
  exact names.normal

end NamesDomain

theorem dropScheme_append_cons (raw written : Text) :
    dropScheme (raw ++ '$' :: written) = dropScheme raw ++ '$' :: written := by
  have noMark : (schemes.all fun scheme => !scheme.toList.contains '$') = true := by decide
  have found : (schemes.findSome? fun scheme => after? (raw ++ '$' :: written) scheme.toList) =
      (schemes.findSome? fun scheme => after? raw scheme.toList).map (· ++ '$' :: written) := by
    generalize schemes = list at noMark
    induction list with
    | nil => rfl
    | cons scheme list inductionHypothesis =>
        rw [List.all_cons, Bool.and_eq_true] at noMark
        rw [List.findSome?_cons, List.findSome?_cons, inductionHypothesis noMark.2,
          after?_append_cons (by simpa using noMark.1)]
        cases after? raw scheme.toList <;> rfl
  rw [dropScheme, found, dropScheme]
  cases schemes.findSome? fun scheme => after? raw scheme.toList <;> rfl

section Address

variable {raw written : Text}

theorem behind?_body (raw written : Text) : behind? domainMark (raw ++ '$' :: written) =
    ((behind? domainMark raw).map (· ++ '$' :: written)).or (behind? domainMark written) :=
  behind?_append_cons (by decide) (by decide) raw written

theorem behind?_fields (written : Text) :
    (behind? domainMark written).map (·.takeWhile (· ≠ ',')) =
      ((fields ',' written).find? (·.holds domainMark)).bind (behind? domainMark) := by
  conv_lhs => rw [← intercalate_fields ',' written]
  exact behind?_intercalate (by decide) (by decide) fun _ => not_mem_of_mem_fields

theorem address_of_behind? {behind : Text}
    (found : behind? domainMark (raw ++ '$' :: written) = some behind) :
    address (raw ++ '$' :: written) = behind.takeWhile (· ≠ ',') := by
  have hasOptions : (raw ++ '$' :: written).contains '$' = true := by simp
  change behind? "domain=".toList (raw ++ '$' :: written) = some behind at found
  rw [address, if_pos hasOptions, found]

/-- A mark in the pattern gives the text behind it, up to a comma that is in the pattern too. -/
theorem exists_rest_of_pattern {behind domain : Text}
    (found : behind? domainMark raw = some behind)
    (names : NamesDomain (address (raw ++ '$' :: written)) domain) :
    ∃ rest, behind = address (raw ++ '$' :: written) ++ ',' :: rest := by
  have taken : address (raw ++ '$' :: written) =
      (behind ++ '$' :: written).takeWhile (· ≠ ',') := by
    apply address_of_behind?
    rw [behind?_body, found]
    rfl
  have comma : ',' ∈ behind := by
    by_contra absent
    apply names.not_mem '$' (by decide)
    have kept : ∀ c ∈ behind, decide (c ≠ ',') = true := fun c member =>
      decide_eq_true fun same => absent (same ▸ member)
    rw [taken, List.takeWhile_append_of_pos kept, List.takeWhile_cons_of_pos (by decide)]
    simp
  obtain ⟨value, rest, rfl, noComma⟩ := List.eq_append_cons_of_mem comma
  have kept : ∀ c ∈ value, decide (c ≠ ',') = true := fun c member =>
    decide_eq_true fun same => noComma (same ▸ member)
  refine ⟨rest, ?_⟩
  rw [taken, List.append_assoc, List.takeWhile_append_of_pos kept, List.cons_append,
    List.takeWhile_cons_of_neg (by decide), List.append_nil]

variable (unmarked : behind? domainMark raw = none)
include unmarked

/-- Otherwise the first option with the mark gives the text behind it. -/
theorem address_of_option {field value : Text}
    (first : (fields ',' written).find? (·.holds domainMark) = some field)
    (found : behind? domainMark field = some value) :
    address (raw ++ '$' :: written) = value := by
  have parts := behind?_fields written
  rw [first, Option.bind_some, found, Option.map_eq_some_iff] at parts
  obtain ⟨behind, foundBehind, rfl⟩ := parts
  apply address_of_behind?
  rw [behind?_body, unmarked, foundBehind]
  rfl

/-- Without a mark, the pattern without its scheme is the address. -/
theorem address_of_unmarked {domain : Text}
    (noOption : (fields ',' written).find? (·.holds domainMark) = none)
    (names : NamesDomain (address (raw ++ '$' :: written)) domain) :
    address (raw ++ '$' :: written) = dropScheme raw := by
  have parts := behind?_fields written
  rw [noOption, Option.bind_none, Option.map_eq_none_iff] at parts
  have hasOptions : (raw ++ '$' :: written).contains '$' = true := by simp
  have noMark : behind? "domain=".toList (raw ++ '$' :: written) = none := by
    change behind? domainMark _ = none
    rw [behind?_body, unmarked, parts]
    rfl
  have cutAddress {before behind : Text}
      (cut : cutLast? '$' (dropScheme raw ++ '$' :: written) = some (before, behind)) :
      address (raw ++ '$' :: written) = before := by
    rw [address, if_pos hasOptions, noMark]
    dsimp only
    rw [dropScheme_append_cons, cut]
  by_cases another : '$' ∈ written
  · -- Then a dollar sign is left in the address, which names no domain.
    obtain ⟨before, behind, cut⟩ := exists_cutLast? another
    obtain ⟨rfl, last⟩ := cutLast?_eq_some_iff.mp cut
    have left : address _ = dropScheme raw ++ '$' :: before :=
      cutAddress (cutLast?_eq_some_iff.mpr ⟨by simp, last⟩)
    have member : '$' ∈ address (raw ++ '$' :: (before ++ '$' :: behind)) := by simp [left]
    exact absurd member (names.not_mem '$' (by decide))
  · exact cutAddress (cutLast?Append '$' (dropScheme raw) another)

end Address

/-- A mark is not found in front of the character that it begins with. -/
theorem behind?_append_of_forall {mark front : Text} (back : Text)
    (apart : ∀ c ∈ front, mark.head? ≠ some c) (someMark : mark ≠ []) :
    behind? mark (front ++ back) = behind? mark back := by
  induction front with
  | nil => rfl
  | cons c front inductionHypothesis =>
      have absent : after? (c :: (front ++ back)) mark = none := by
        cases mark with
        | nil => exact absurd rfl someMark
        | cons wanted mark =>
            exact if_neg fun same => apart c List.mem_cons_self (congrArg some same.symm)
      rw [List.cons_append, behind?, absent, Option.none_or,
        inductionHypothesis fun d member => apart d (List.mem_cons_of_mem c member)]

end NamedPage

end Blocklist
