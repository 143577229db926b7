/-
This file says which texts stay as they are when their letters are turned into small ones. No letter
is dropped, so that such a text consists of characters that are their own small letters, and the
parts of it are such texts too.
-/

import Blocklist.Text.LetterCase

namespace Blocklist

namespace LetterCase

theorem smallLetters_ne_nil (c : Char) : smallLetters c ≠ [] := by
  unfold smallLetters
  dsimp only
  -- The look-ups are named before the split, since a search through a table must not be run.
  generalize capitalRuns.run? c.toNat = run
  generalize capitalPairs.offset? c.toNat = pair
  split
  · exact List.cons_ne_nil _ _
  split
  · exact List.cons_ne_nil _ _
  cases run with
  | some run => exact List.cons_ne_nil _ _
  | none =>
      cases pair with
      | none => exact List.cons_ne_nil _ _
      | some offset =>
          dsimp only
          split <;> exact List.cons_ne_nil _ _

/-- The character is its own small letter, wherever it stands. -/
def IsSmall (c : Char) : Prop := c ≠ capitalSigma ∧ smallLetters c = [c]

theorem isSmall_of_ascii {c : Char} (ascii : c.toNat < 128) (noCapital : c.isUpper = false) :
    IsSmall c := by
  constructor
  · rintro rfl
    exact absurd ascii (by decide)
  · have itself : c.toLower = c := dif_neg (of_decide_eq_false noCapital)
    rw [smallLettersOfAscii ascii, itself]

/-- The small letters of a text begin with those of its first character. -/
theorem exists_front_of_lowerFrom (reversedBefore : Text) (c : Char) (rest : Text) :
    ∃ front, front ≠ [] ∧ (front = [c] → IsSmall c) ∧ (IsSmall c → front = [c]) ∧
      lowerFrom reversedBefore (c :: rest) = front ++ lowerFrom (c :: reversedBefore) rest := by
  rw [lowerFrom]
  refine ⟨_, ?_, ?_, ?_, rfl⟩
  · split
    case isTrue => split <;> exact List.cons_ne_nil _ _
    case isFalse => exact smallLetters_ne_nil c
  · intro same
    split at same
    case isTrue sigma =>
      subst sigma
      split at same <;> exact absurd same (by decide)
    case isFalse noSigma => exact ⟨noSigma, same⟩
  · intro small
    rw [if_neg small.1, small.2]

theorem length_le_lowerFrom (reversedBefore text : Text) :
    text.length ≤ (lowerFrom reversedBefore text).length := by
  induction text generalizing reversedBefore with
  | nil => exact Nat.zero_le _
  | cons c rest inductionHypothesis =>
      obtain ⟨front, some, -, -, split⟩ := exists_front_of_lowerFrom reversedBefore c rest
      have later := inductionHypothesis (c :: reversedBefore)
      have positive := List.length_pos_iff.mpr some
      rw [split, List.length_append, List.length_cons]
      omega

theorem lowerFrom_eq_self_iff (reversedBefore text : Text) :
    lowerFrom reversedBefore text = text ↔ ∀ c ∈ text, IsSmall c := by
  induction text generalizing reversedBefore with
  | nil => simp [lowerFrom]
  | cons c rest inductionHypothesis =>
      obtain ⟨front, some, isSmall, ofSmall, split⟩ :=
        exists_front_of_lowerFrom reversedBefore c rest
      rw [split, List.forall_mem_cons, ← inductionHypothesis (c :: reversedBefore)]
      constructor
      · intro same
        -- Since nothing gets shorter, the first character stands for itself alone.
        have length := congrArg List.length same
        have later := length_le_lowerFrom (c :: reversedBefore) rest
        have positive := List.length_pos_iff.mpr some
        rw [List.length_append, List.length_cons] at length
        obtain ⟨first, rfl⟩ := List.length_eq_one_iff.mp (by omega : front.length = 1)
        obtain ⟨rfl, restSame⟩ := List.cons.inj same
        exact ⟨isSmall rfl, restSame⟩
      · rintro ⟨small, same⟩
        rw [ofSmall small, same]
        rfl

end LetterCase

namespace Text

/-- A text stays as it is exactly when each of its characters does. -/
theorem lowercase_eq_self_iff {text : Text} :
    text.lowercase = text ↔ ∀ c ∈ text, LetterCase.IsSmall c :=
  LetterCase.lowerFrom_eq_self_iff [] text

theorem lowercase_ne_nil {text : Text} (some : text ≠ []) : text.lowercase ≠ [] := by
  intro empty
  have length := LetterCase.length_le_lowerFrom [] text
  have positive := List.length_pos_iff.mpr some
  change text.length ≤ (text.lowercase).length at length
  rw [empty, List.length_nil] at length
  omega

theorem lowercase_append {first second : Text} (firstSmall : first.lowercase = first)
    (secondSmall : second.lowercase = second) : (first ++ second).lowercase = first ++ second := by
  rw [lowercase_eq_self_iff] at firstSmall secondSmall ⊢
  intro c member
  rcases List.mem_append.mp member with early | late
  · exact firstSmall c early
  · exact secondSmall c late

theorem lowercase_of_subset {part text : Text} (small : text.lowercase = text)
    (subset : part ⊆ text) : part.lowercase = part := by
  rw [lowercase_eq_self_iff] at small ⊢
  exact fun c member => small c (subset member)

end Text

end Blocklist
