/-
This file says what does not depend on the case of ASCII letters: where a text is cut at characters
that are no letters, its small letters, and the normal form of a hostname.
-/

import Blocklist.Proofs.Hostname.SmallAscii

namespace Blocklist

section Letters

variable {c mark : Char}

theorem toLower_of_noLetter (noLetter : c.isAlpha = false) : c.toLower = c := by
  apply Char.toLower_eq_of_not_isUpper
  intro upper
  rw [Char.isAlpha, upper] at noLetter
  cases noLetter

/-- Only a letter has another case. -/
theorem toLower_eq_iff (noLetter : mark.isAlpha = false) : c.toLower = mark ↔ c = mark := by
  constructor
  · rintro rfl
    rw [Char.isAlpha_toLower_eq_isAlpha] at noLetter
    exact (toLower_of_noLetter noLetter).symm
  · rintro rfl
    exact toLower_of_noLetter noLetter

theorem ne_of_isAlpha (noLetter : mark.isAlpha = false) (letter : c.isAlpha = true) : c ≠ mark := by
  rintro rfl
  rw [noLetter] at letter
  cases letter

/-- A class that all letters are in, or none, does not depend on their case. -/
theorem inClass_toLower {inClass : Char → Bool} {value : Bool}
    (letters : ∀ c, c.isAlpha = true → inClass c = value) (c : Char) :
    inClass c.toLower = inClass c := by
  cases letter : c.isAlpha with
  | true =>
      have lowerLetter : c.toLower.isAlpha = true := by
        rw [Char.isAlpha_toLower_eq_isAlpha, letter]
      rw [letters c letter, letters c.toLower lowerLetter]
  | false => rw [toLower_of_noLetter letter]

theorem isAlpha_iff : c.isAlpha = true ↔
    65 ≤ c.toNat ∧ c.toNat ≤ 90 ∨ 97 ≤ c.toNat ∧ c.toNat ≤ 122 := by
  simp [Char.isAlpha, Char.isUpper, Char.isLower, UInt32.le_iff_toNat_le]

end Letters

namespace Text

/-- The text without the case of its ASCII letters. -/
def uncased (text : Text) : Text := text.map Char.toLower

section Uncased

variable {mark : Char} {text : Text}

@[simp] theorem uncased_append (first second : Text) :
    uncased (first ++ second) = uncased first ++ uncased second :=
  List.map_append

@[simp] theorem uncased_cons (c : Char) (text : Text) :
    uncased (c :: text) = c.toLower :: uncased text := rfl

@[simp] theorem length_uncased (text : Text) : (uncased text).length = text.length :=
  List.length_map _

/-- A text without letters has no other case. -/
theorem uncased_eq_iff {marks : Text} (noLetters : marks.any Char.isAlpha = false) :
    uncased text = marks ↔ text = marks := by
  induction marks generalizing text with
  | nil => exact List.map_eq_nil_iff
  | cons mark marks inductionHypothesis =>
      rw [List.any_cons, Bool.or_eq_false_iff] at noLetters
      cases text with
      | nil => exact ⟨nofun, nofun⟩
      | cons c text =>
          rw [uncased_cons, List.cons.injEq, List.cons.injEq, toLower_eq_iff noLetters.1,
            inductionHypothesis noLetters.2]

theorem startsWith_uncased {marks : Text} (noLetters : marks.any Char.isAlpha = false)
    (text : Text) : startsWith (uncased text) marks = startsWith text marks := by
  induction marks generalizing text with
  | nil => rfl
  | cons mark marks inductionHypothesis =>
      rw [List.any_cons, Bool.or_eq_false_iff] at noLetters
      cases text with
      | nil => rfl
      | cons c text =>
          have same : (mark == c.toLower) = (mark == c) := by
            rw [Bool.eq_iff_iff, beq_iff_eq, beq_iff_eq, eq_comm, toLower_eq_iff noLetters.1,
              eq_comm]
          change (mark == c.toLower && startsWith (uncased text) marks) =
            (mark == c && startsWith text marks)
          rw [same, inductionHypothesis noLetters.2]

theorem endsWith_uncased {marks : Text} (noLetters : marks.any Char.isAlpha = false)
    (text : Text) : endsWith (uncased text) marks = endsWith text marks := by
  have reversed : (uncased text).reverse = uncased text.reverse := List.map_reverse.symm
  change startsWith (uncased text).reverse marks.reverse = startsWith text.reverse marks.reverse
  rw [reversed, startsWith_uncased (List.any_reverse.trans noLetters)]

section Class

variable {inClass : Char → Bool} {value : Bool}
  (letters : ∀ c, c.isAlpha = true → inClass c = value)
include letters

theorem takeWhile_uncased (text : Text) :
    (uncased text).takeWhile inClass = uncased (text.takeWhile inClass) := by
  have same : inClass ∘ Char.toLower = inClass := funext (inClass_toLower letters)
  rw [uncased, List.takeWhile_map, same]
  rfl

theorem dropWhile_uncased (text : Text) :
    (uncased text).dropWhile inClass = uncased (text.dropWhile inClass) := by
  have same : inClass ∘ Char.toLower = inClass := funext (inClass_toLower letters)
  rw [uncased, List.dropWhile_map, same]
  rfl

theorem dropTrailing_uncased (text : Text) :
    dropTrailing inClass (uncased text) = uncased (dropTrailing inClass text) := by
  have reversed : (uncased text).reverse = uncased text.reverse := List.map_reverse.symm
  rw [dropTrailing, dropTrailing, reversed, dropWhile_uncased letters, uncased, uncased,
    List.map_reverse]

end Class

variable (noLetter : mark.isAlpha = false)
include noLetter

theorem cutFirst?_uncased (text : Text) :
    cutFirst? mark (uncased text) = (cutFirst? mark text).map (Prod.map uncased uncased) := by
  induction text with
  | nil => rfl
  | cons c text inductionHypothesis =>
      rw [uncased_cons, cutFirst?, cutFirst?, inductionHypothesis]
      by_cases same : c = mark
      · rw [if_pos same, if_pos ((toLower_eq_iff noLetter).mpr same)]
        rfl
      · rw [if_neg same, if_neg fun lower => same ((toLower_eq_iff noLetter).mp lower)]
        cases cutFirst? mark text <;> rfl

theorem cutLast?_uncased (text : Text) :
    cutLast? mark (uncased text) = (cutLast? mark text).map (Prod.map uncased uncased) := by
  induction text with
  | nil => rfl
  | cons c text inductionHypothesis =>
      rw [uncased_cons, cutLast?, cutLast?, inductionHypothesis]
      cases cutLast? mark text with
      | some pieces => rfl
      | none =>
          by_cases same : c = mark
          · simp only [Option.map_none, if_pos same, if_pos ((toLower_eq_iff noLetter).mpr same)]
            rfl
          · simp only [Option.map_none, if_neg same,
              if_neg fun lower => same ((toLower_eq_iff noLetter).mp lower)]

end Uncased

end Text

namespace LetterCase

theorem isIgnorable_of_isAlpha {c : Char} (letter : c.isAlpha = true) : isIgnorable c = false := by
  have ascii : c.toNat < 128 := by
    have bounds := isAlpha_iff.mp letter
    omega
  have noLetters : ∀ mark ∈ ['\x27', '.', ':', '^', '\x60'], mark.isAlpha = false := by
    simp only [List.mem_cons, List.not_mem_nil, or_false]
    rintro mark (rfl | rfl | rfl | rfl | rfl) <;> decide
  rw [isIgnorable, if_pos ascii, Bool.eq_false_iff, ne_eq, List.contains_iff_mem]
  exact fun member => ne_of_isAlpha (noLetters c member) letter rfl

theorem nextIsCased_uncased (text : Text) :
    nextIsCased (Text.uncased text) = nextIsCased text := by
  have cased : ∀ c, c.isAlpha = true → isCased c = true := fun c letter => by
    rw [isCased, letter, Bool.true_or]
  rw [nextIsCased, nextIsCased, Text.dropWhile_uncased fun _ => isIgnorable_of_isAlpha]
  cases text.dropWhile isIgnorable with
  | nil => rfl
  | cons c rest => exact inClass_toLower cased c

theorem smallLetters_toLower (c : Char) : smallLetters c.toLower = smallLetters c := by
  cases letter : c.isAlpha with
  | true =>
      have bounds := isAlpha_iff.mp letter
      have lowerLetter : c.toLower.isAlpha = true := by
        rw [Char.isAlpha_toLower_eq_isAlpha, letter]
      have lowerBounds := isAlpha_iff.mp lowerLetter
      rw [smallLettersOfAscii (by omega), smallLettersOfAscii (by omega),
        Char.toLower_toLower_eq_toLower]
  | false => rw [toLower_of_noLetter letter]

theorem lowerFrom_uncased (reversedBefore text : Text) :
    lowerFrom (Text.uncased reversedBefore) (Text.uncased text) =
      lowerFrom reversedBefore text := by
  induction text generalizing reversedBefore with
  | nil => rfl
  | cons c text inductionHypothesis =>
      have sigma : c.toLower = capitalSigma ↔ c = capitalSigma := toLower_eq_iff (by decide)
      rw [Text.uncased_cons, lowerFrom, lowerFrom, nextIsCased_uncased, nextIsCased_uncased,
        smallLetters_toLower, ← Text.uncased_cons, inductionHypothesis]
      simp only [sigma]

end LetterCase

/-- The small letters of a text do not depend on the case of its ASCII letters. -/
theorem Text.lowercase_uncased (text : Text) : text.uncased.lowercase = text.lowercase :=
  LetterCase.lowerFrom_uncased [] text

theorem Text.isBlank_of_isAlpha {c : Char} (letter : c.isAlpha = true) : isBlank c = false := by
  have bounds := isAlpha_iff.mp letter
  simp only [isBlank, Bool.or_eq_false_iff, Bool.and_eq_false_iff, decide_eq_false_iff_not,
    beq_eq_false_iff_ne]
  omega

theorem Hostname.normalize?_uncased (name : Text) :
    normalize? name.uncased = normalize? name := by
  have trimmed : Text.trim name.uncased = (Text.trim name).uncased := by
    rw [Text.trim, Text.dropWhile_uncased fun _ => Text.isBlank_of_isAlpha,
      Text.dropTrailing_uncased fun _ => Text.isBlank_of_isAlpha]
    rfl
  rw [normalize?, trimmed, Text.lowercase_uncased, normalize?]

end Blocklist
