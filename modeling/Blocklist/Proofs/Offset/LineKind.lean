/-
This file tells the lines of a filter list apart by slices of them, and shows that every slice
exists and that the kinds are those that the characters tell.
-/

import Blocklist.Filter.LineKind
import Blocklist.Proofs.Except
import Blocklist.Proofs.Filter.OptionMark
import Blocklist.Proofs.Offset.Search

namespace Blocklist

open Text

theorem Text.size_eq_one (text : Text) : (text.size == 1) = (text.length == 1 && text.isAscii) := by
  rcases text with - | ⟨c, - | ⟨next, rest⟩⟩
  · rfl
  · by_cases small : c.toNat < 128
    · simp [isAscii, small, utf8Size_of_small small]
    · have noByte : c.utf8Size ≠ 1 := by
        intro one
        have bound := UInt32.le_iff_toNat_le.mp (Char.utf8Size_eq_one_iff.mp one)
        exact small (Nat.lt_succ_of_le bound)
      simp [isAscii, small, noByte]
  · have first := c.utf8Size_pos
    have second := next.utf8Size_pos
    have large : c.utf8Size + (next.utf8Size + size rest) ≠ 1 := by omega
    simp [large]

/-- A text that does not begin with a character does not begin with more than the character. -/
theorem Text.startsWith_cons_of_not {text : Text} {c : Char} (plain : text.startsWith [c] = false)
    (marker : Text) : text.startsWith (c :: marker) = false := by
  refine Bool.eq_false_iff.mpr fun begins => ?_
  obtain ⟨rest, rfl⟩ := List.isPrefixOf_iff_prefix.mp begins
  have begun : startsWith (c :: marker ++ rest) [c] = true :=
    startsWith_single.mpr ⟨marker ++ rest, rfl⟩
  exact absurd (plain.symm.trans begun) Bool.false_ne_true

namespace LineKind

section Slices

variable {C : Type}

/-- A number sign in front of a blank makes a comment. -/
def isRemark : Text → Bool
  | '#' :: c :: _ => isBlank c
  | _ => false

def isRemarkAt (line : Text) : Except (Failure C) Bool := do
  if line.startsWith ['#'] then
    let behind ← sliceFrom line 1
    return behind.head?.any isBlank
  else return false

/-- A single byte, a comment and a heading hold no rule. -/
def holdsNoRuleAt (line : Text) : Except (Failure C) Bool := do
  if line.size == 1 || line.startsWith ['!'] then return true
  else if ← isRemarkAt line then return true
  else return line.startsWith "[Adblock".toList

/-- The kind that the text behind the first number sign tells. -/
def ofSuffixAt (suffix : Text) : Except (Failure C) LineKind := do
  let startsWithAny := fun (marks : List String) =>
    marks.any fun mark => suffix.startsWith mark.toList
  if startsWithAny ["%#", "@%#"] then return .script
  else if startsWithAny ["?#", "@?#", "$?#", "@$?#"] then
    return .unsupported UnsupportedKind.extendedCss
  else if suffix.startsWith ['#'] then
    let behind ← sliceFrom suffix 1
    if behind.startsWith "+js(".toList || behind.startsWith "script:inject(".toList then
      return .script
    else return .cosmetic
  else if startsWithAny ["@#", "$#", "@$#"] then return .cosmetic
  else return .network

/-- The kind of a line, the text behind its first number sign found by its offset. -/
def ofLineAt (line : Text) : Except (Failure C) LineKind := do
  if ← holdsNoRuleAt line then return .noRule
  else if line.startsWith ['|'] || line.startsWith "@@|".toList then return .network
  else if line.holds "$$".toList || line.holds "$@$".toList then
    return .unsupported UnsupportedKind.htmlFiltering
  else
    match offsetOf? (· == '#') line with
    | some index => ofSuffixAt (← sliceFrom line (index + 1))
    | none => return .network

theorem isRemarkAt_eq (line : Text) :
    (isRemarkAt line : Except (Failure C) Bool) = .ok (isRemark line) := by
  unfold isRemarkAt isRemark
  split
  case isTrue begins =>
    obtain ⟨rest, rfl⟩ := startsWith_single.mp begins
    rw [sliceFrom_one (by decide), ok_bind]
    cases rest <;> rfl
  case isFalse plain =>
    split
    case h_1 c rest => exact absurd (startsWith_single.mpr ⟨c :: rest, rfl⟩) plain
    case h_2 => rfl

theorem holdsNoRuleAt_eq (line : Text) :
    (holdsNoRuleAt line : Except (Failure C) Bool) = .ok (holdsNoRule line) := by
  change _ = Except.ok (((line.length == 1 && line.isAscii) || line.startsWith ['!'] ||
    isRemark line) || line.startsWith "[Adblock".toList)
  rw [holdsNoRuleAt, isRemarkAt_eq, size_eq_one, ok_bind]
  cases line.length == 1 && line.isAscii || line.startsWith ['!'] with
  | true => rfl
  | false => cases isRemark line <;> rfl

theorem ofSuffixAt_eq (suffix : Text) :
    (ofSuffixAt suffix : Except (Failure C) LineKind) = .ok (ofSuffix suffix) := by
  unfold ofSuffixAt ofSuffix
  dsimp only
  split
  case isTrue => rfl
  split
  case isTrue => rfl
  split
  case isTrue begins =>
    obtain ⟨rest, rfl⟩ := startsWith_single.mp begins
    have injects : (["#+js(", "#script:inject("].any fun mark =>
        startsWith ('#' :: rest) mark.toList) =
          (startsWith rest "+js(".toList || startsWith rest "script:inject(".toList) := by
      simp [startsWith]
    rw [sliceFrom_one (by decide), ok_bind]
    simp only [injects]
    split <;> rfl
  case isFalse plain =>
    have noMore := startsWith_cons_of_not (Bool.eq_false_iff.mpr plain)
    have injectsNot : (["#+js(", "#script:inject("].any fun mark =>
        suffix.startsWith mark.toList) = false := by simp [noMore]
    have others : (["#", "@#", "$#", "@$#"].any fun mark => suffix.startsWith mark.toList) =
        ["@#", "$#", "@$#"].any fun mark => suffix.startsWith mark.toList := by simp [noMore]
    simp only [injectsNot, others]
    split <;> rfl

theorem ofLineAt_eq (line : Text) :
    (ofLineAt line : Except (Failure C) LineKind) = .ok (ofLine line) := by
  rw [ofLineAt, ofLine, holdsNoRuleAt_eq, ok_bind, offsetOf?_single]
  split
  case isTrue => rfl
  split
  case isTrue => rfl
  split
  case isTrue => rfl
  cases found : cutFirst? '#' line with
  | none => rfl
  | some cut =>
      obtain ⟨front, suffix⟩ := cut
      rw [(cutFirst?_eq_some_iff.mp found).1]
      dsimp only [Option.map_some]
      rw [sliceFrom_behind (by decide), ok_bind, ofSuffixAt_eq]

end Slices

end LineKind

end Blocklist
