/-
This file says what the replacement of two neighbouring characters does at the end of a text, and
when nothing is replaced or nothing is left. A text that is joined by such a pair falls into the
joined texts again where the pair occurs.
-/

import Blocklist.Text

namespace Blocklist.Text

section Replacement

variable {first second : Char} {image : Text}

theorem getLast?_cons_of_some {c last : Char} {text : Text} (found : text.getLast? = some last) :
    (c :: text).getLast? = some last := by
  rw [List.getLast?_cons, found]
  rfl

/-- A character in front of a text stays unless it begins a pair. -/
theorem replacePair_cons {text : Text} {c : Char}
    (noPair : ¬(c = first ∧ text.head? = some second)) :
    replacePair first second image (c :: text) = c :: replacePair first second image text := by
  cases text with
  | nil => rfl
  | cons next rest => rw [replacePair, if_neg fun pair => noPair ⟨pair.1, by rw [pair.2]; rfl⟩]

/-- The replacement of a pair by its second character brings no other character to the front. -/
theorem head?_replacePair_ne {text : Text} {c : Char} (other : c ≠ second)
    (absent : text.head? ≠ some c) :
    (replacePair first second [second] text).head? ≠ some c := by
  cases text with
  | nil => exact absent
  | cons begin text =>
      cases text with
      | nil => exact absent
      | cons next rest =>
          rw [replacePair]
          split
          case isTrue => exact fun same => other (Option.some.inj same).symm
          case isFalse => exact absent

/-- A character behind a text stays unless it completes a pair. -/
theorem replacePair_append_single {text : Text} {c : Char}
    (noPair : ¬(text.getLast? = some first ∧ c = second)) :
    replacePair first second image (text ++ [c]) =
      replacePair first second image text ++ [c] := by
  fun_induction replacePair first second image text with
  | case1 => rfl
  | case2 last =>
      change replacePair first second image [last, c] = [last, c]
      rw [replacePair, if_neg (by simpa using noPair)]
      rfl
  | case3 last next rest pair inductionHypothesis =>
      rw [List.cons_append, List.cons_append, replacePair, if_pos pair, inductionHypothesis,
        List.append_assoc]
      rintro ⟨found, completes⟩
      exact noPair ⟨getLast?_cons_of_some (getLast?_cons_of_some found), completes⟩
  | case4 last next rest noPairHere inductionHypothesis =>
      rw [List.cons_append, List.cons_append, replacePair, if_neg noPairHere,
        ← List.cons_append, inductionHypothesis, List.cons_append]
      rintro ⟨found, completes⟩
      exact noPair ⟨getLast?_cons_of_some found, completes⟩

/-- A pair behind a text is replaced, as the text cannot take its first character away. -/
theorem replacePair_append_pair (apart : first ≠ second) (text : Text) :
    replacePair first second image (text ++ [first, second]) =
      replacePair first second image text ++ image := by
  fun_induction replacePair first second image text with
  | case1 => simp [replacePair]
  | case2 last =>
      change replacePair first second image [last, first, second] = [last] ++ image
      rw [replacePair, if_neg fun pair => apart pair.2]
      simp [replacePair]
  | case3 last next rest pair inductionHypothesis =>
      rw [List.cons_append, List.cons_append, replacePair, if_pos pair, inductionHypothesis,
        List.append_assoc]
  | case4 last next rest noPair inductionHypothesis =>
      rw [List.cons_append, List.cons_append, replacePair, if_neg noPair, ← List.cons_append,
        inductionHypothesis, List.cons_append]

/-- No pair is completed by a part that does not have its second character. -/
theorem replacePair_append_part {text part : Text} (absent : second ∉ part) :
    replacePair first second image (text ++ part) =
      replacePair first second image text ++ part := by
  induction part generalizing text with
  | nil => simp
  | cons c part inductionHypothesis =>
      rw [List.mem_cons, not_or] at absent
      rw [List.append_cons, inductionHypothesis absent.2,
        replacePair_append_single fun pair => absent.1 pair.2.symm, ← List.append_cons]

/-- The replacement of a pair by its second character keeps the end of a text. -/
theorem getLast?_replacePair (text : Text) :
    (replacePair first second [second] text).getLast? = text.getLast? := by
  fun_induction replacePair first second [second] text with
  | case1 => rfl
  | case2 last => rfl
  | case3 last next rest pair inductionHypothesis =>
      obtain ⟨rfl, rfl⟩ := pair
      simp [List.getLast?_cons, inductionHypothesis]
  | case4 last next rest noPair inductionHypothesis =>
      rw [List.getLast?_cons, inductionHypothesis, ← List.getLast?_cons]

/-- Without the first character of a pair there is no pair. -/
theorem replacePair_eq_self {text : Text} (absent : first ∉ text) :
    replacePair first second image text = text := by
  fun_induction replacePair first second image text with
  | case1 => rfl
  | case2 last => rfl
  | case3 last next rest pair inductionHypothesis => simp [pair.1] at absent
  | case4 last next rest noPair inductionHypothesis =>
      rw [inductionHypothesis fun member => absent (List.mem_cons_of_mem last member)]

/-- Where the second character of the pairs is missing afterwards, there was no pair. -/
theorem eq_of_not_mem_replacePair {text : Text}
    (absent : second ∉ replacePair first second [second] text) :
    replacePair first second [second] text = text := by
  fun_induction replacePair first second [second] text with
  | case1 => rfl
  | case2 last => rfl
  | case3 last next rest pair inductionHypothesis => simp at absent
  | case4 last next rest noPair inductionHypothesis =>
      rw [inductionHypothesis fun member => absent (List.mem_cons_of_mem last member)]

/-- Only repeated pairs leave nothing when they are deleted. -/
theorem deletePair_eq_nil_iff {text : Text} : replacePair first second [] text = [] ↔
    ∃ count, text = (List.replicate count [first, second]).flatten := by
  constructor
  · intro empty
    fun_induction replacePair first second [] text with
    | case1 => exact ⟨0, rfl⟩
    | case2 last => cases empty
    | case3 last next rest pair inductionHypothesis =>
        obtain ⟨rfl, rfl⟩ := pair
        obtain ⟨count, rfl⟩ := inductionHypothesis empty
        exact ⟨count + 1, rfl⟩
    | case4 last next rest noPair inductionHypothesis => cases empty
  · rintro ⟨count, rfl⟩
    induction count with
    | zero => rfl
    | succ count inductionHypothesis =>
        rw [List.replicate_succ, List.flatten_cons, List.cons_append, List.cons_append,
          replacePair, if_pos ⟨rfl, rfl⟩]
        exact inductionHypothesis

end Replacement

/-- The pieces of a text between the occurrences of two neighbouring characters, which are found
from left to right. -/
def piecesBetween (first second : Char) : Text → List Text
  | [] => [[]]
  | [c] => [[c]]
  | c :: next :: rest =>
      if c = first ∧ next = second then [] :: piecesBetween first second rest
      else
        match piecesBetween first second (next :: rest) with
        | [] => [[c]]
        | piece :: pieces => (c :: piece) :: pieces

section Pieces

variable {first second : Char}

/-- A text without the pair is its only piece. -/
theorem piecesBetween_of_noPair {piece : Text} (noPair : ¬[first, second] <:+: piece) :
    piecesBetween first second piece = [piece] := by
  fun_induction piecesBetween first second piece with
  | case1 => rfl
  | case2 => rfl
  | case3 c next rest pair => exact absurd ⟨[], rest, by simp [pair]⟩ noPair
  | case4 c next rest _ split inductionHypothesis =>
      rw [List.infix_cons_iff, not_or] at noPair
      rw [inductionHypothesis noPair.2] at split
      cases split
  | case5 c next rest _ piece pieces split inductionHypothesis =>
      rw [List.infix_cons_iff, not_or] at noPair
      rw [inductionHypothesis noPair.2] at split
      cases split
      rfl

/-- The first pair behind a text without the pair ends its piece, as two different characters do not
overlap themselves. -/
theorem piecesBetween_append (apart : first ≠ second) {piece : Text}
    (noPair : ¬[first, second] <:+: piece) (rest : Text) :
    piecesBetween first second (piece ++ first :: second :: rest) =
      piece :: piecesBetween first second rest := by
  induction piece with
  | nil => simp [piecesBetween]
  | cons c piece inductionHypothesis =>
      rw [List.infix_cons_iff, not_or] at noPair
      have later := inductionHypothesis noPair.2
      cases piece with
      | nil =>
          change piecesBetween first second (c :: first :: second :: rest) = _
          rw [piecesBetween, if_neg fun pair => apart pair.2]
          rw [List.nil_append] at later
          rw [later]
      | cons next piece =>
          have noPairHere : ¬(c = first ∧ next = second) := by
            rintro ⟨rfl, rfl⟩
            exact noPair.1 ⟨piece, rfl⟩
          rw [List.cons_append, List.cons_append, piecesBetween, if_neg noPairHere,
            ← List.cons_append, later]

/-- The pieces of a joined text are the texts that were joined. -/
theorem piecesBetween_intercalate (apart : first ≠ second) {parts : List Text} (some : parts ≠ [])
    (noPair : ∀ part ∈ parts, ¬[first, second] <:+: part) :
    piecesBetween first second ([first, second].intercalate parts) = parts := by
  induction parts with
  | nil => exact absurd rfl some
  | cons part parts inductionHypothesis =>
      cases parts with
      | nil =>
          rw [List.intercalate_singleton]
          exact piecesBetween_of_noPair (noPair part List.mem_cons_self)
      | cons next parts =>
          have later := inductionHypothesis (List.cons_ne_nil next parts) fun other member =>
            noPair other (List.mem_cons_of_mem part member)
          rw [List.intercalate_cons_cons, List.append_assoc, List.cons_append, List.cons_append,
            List.nil_append, piecesBetween_append apart (noPair part List.mem_cons_self), later]

end Pieces

end Blocklist.Text
