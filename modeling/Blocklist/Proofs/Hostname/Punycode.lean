/-
This file says which characters the code of a label has. The encoder puts digits behind the ASCII
characters of the label and changes nothing that is written already, and the decoder reads nothing
but digits behind the last hyphen.
-/

import Blocklist.Hostname.Punycode
import Mathlib.Data.List.InsertIdx

namespace Blocklist.Hostname.Punycode

open Text

/-- The character is written for a digit. -/
def IsDigit (c : Char) : Prop := ∃ digit < 36, c = digitChar digit

theorem IsDigit.value {c : Char} (isDigit : IsDigit c) :
    ∃ digit, digitValue? c = some digit := by
  obtain ⟨digit, inRange, rfl⟩ := isDigit
  exact ⟨digit, digitValue?DigitChar inRange⟩

theorem not_isDigit {c : Char} (noDigit : digitValue? c = none) : ¬IsDigit c := by
  intro isDigit
  obtain ⟨digit, value⟩ := isDigit.value
  rw [noDigit] at value
  cases value

section Encoding

theorem isDigit_of_mem_distanceDigits {fuel bias position distance : Nat} {c : Char}
    (member : c ∈ distanceDigits fuel bias position distance) : IsDigit c := by
  induction fuel generalizing position distance with
  | zero => cases member
  | succ fuel inductionHypothesis =>
      have bounds := thresholdBounds position bias
      unfold distanceDigits at member
      dsimp only at member
      split at member
      case isTrue last =>
        exact ⟨distance, by omega, List.mem_singleton.mp member⟩
      case isFalse more =>
        have remainder : (distance - threshold position bias) % (36 - threshold position bias) <
            36 - threshold position bias := Nat.mod_lt _ (by omega)
        rcases List.mem_cons.mp member with first | later
        · exact ⟨_, by omega, first⟩
        · exact inductionHypothesis later

/-- The text is the first one with digits behind it. -/
def Extends (first text : Text) : Prop :=
  ∃ digits, (∀ c ∈ digits, IsDigit c) ∧ text = first ++ digits

theorem Extends.refl (text : Text) : Extends text text := ⟨[], by simp, by simp⟩

theorem Extends.trans {first second third : Text} (start : Extends first second)
    (finish : Extends second third) : Extends first third := by
  obtain ⟨digits, areDigits, rfl⟩ := start
  obtain ⟨others, areDigitsToo, rfl⟩ := finish
  refine ⟨digits ++ others, ?_, List.append_assoc first digits others⟩
  intro c member
  rcases List.mem_append.mp member with early | late
  · exact areDigits c early
  · exact areDigitsToo c late

theorem extends_visit (basicCount code : Nat) (encoder : Encoder) (c : Char) :
    Extends encoder.output (encoder.visit basicCount code c).output := by
  unfold Encoder.visit
  split
  case isTrue => exact Extends.refl _
  split
  case isTrue => exact ⟨_, fun _ => isDigit_of_mem_distanceDigits, rfl⟩
  case isFalse => exact Extends.refl _

theorem extends_foldl_visit (basicCount code : Nat) (text : Text) (encoder : Encoder) :
    Extends encoder.output (text.foldl (Encoder.visit basicCount code) encoder).output := by
  induction text generalizing encoder with
  | nil => exact Extends.refl _
  | cons c text inductionHypothesis =>
      exact (extends_visit basicCount code encoder c).trans (inductionHypothesis _)

theorem extends_encodeCodes {text written : Text} {basicCount reached : Nat} {encoder : Encoder}
    {codes : List Nat}
    (encoded : encodeCodes text basicCount reached encoder codes = some written) :
    Extends encoder.output written := by
  induction codes generalizing reached encoder with
  | nil =>
      obtain rfl := Option.some.inj encoded
      exact Extends.refl _
  | cons code codes inductionHypothesis =>
      unfold encodeCodes at encoded
      split at encoded
      case isTrue => cases encoded
      case isFalse =>
        have continued := inductionHypothesis encoded
        exact Extends.trans (extends_foldl_visit basicCount code text
          { encoder with distance := encoder.distance + (code - reached) * (encoder.done + 1) })
          continued

/-- What is written in front of the digits: the ASCII characters with a hyphen, if there are any. -/
def basicFront (text : Text) : Text :=
  let basic := text.filter isBasic
  if basic.isEmpty then [] else basic ++ ['-']

theorem extends_encode? {text written : Text} (encoded : encode? text = some written) :
    Extends (basicFront text) written :=
  extends_encodeCodes encoded

/-- The ASCII characters of a label are written as they are. -/
theorem mem_encode? {c : Char} {text written : Text} (ascii : c.toNat < 128)
    (encoded : encode? text = some written) (member : c ∈ text) : c ∈ written := by
  have basic : c ∈ text.filter isBasic := List.mem_filter.mpr ⟨member, decide_eq_true ascii⟩
  obtain ⟨digits, -, rfl⟩ := extends_encode? encoded
  apply List.mem_append_left
  rw [basicFront]
  split
  case isTrue empty =>
    rw [List.isEmpty_iff.mp empty] at basic
    cases basic
  case isFalse => exact List.mem_append_left _ basic

end Encoding

section Decoding

variable {c : Char} (noDigit : digitValue? c = none)
include noDigit

/-- A distance ends in front of a character that is no digit. -/
theorem mem_of_readDistance? {bias total weight position : Nat} {text : Text} {sum : Nat}
    {rest : Text} (read : readDistance? bias total weight position text = some (sum, rest))
    (member : c ∈ text) : c ∈ rest := by
  induction text generalizing total weight position with
  | nil => cases member
  | cons first text inductionHypothesis =>
      rw [readDistance?] at read
      cases value : digitValue? first with
      | none =>
          rw [value] at read
          cases read
      | some digit =>
          rw [value] at read
          dsimp only at read
          have later : c ∈ text := by
            rcases List.mem_cons.mp member with rfl | later
            · rw [noDigit] at value
              cases value
            · exact later
          split at read
          case isTrue => cases read
          split at read
          case isTrue =>
            obtain ⟨-, rfl⟩ := Prod.mk.inj (Option.some.inj read)
            exact later
          split at read
          case isTrue => cases read
          case isFalse => exact inductionHypothesis read later

/-- Nothing but digits is decoded. -/
theorem not_mem_of_decodeDistances? {fuel : Nat} {decoder : Decoder} {text decoded : Text}
    (found : decodeDistances? fuel decoder text = some decoded) : c ∉ text := by
  induction fuel generalizing decoder text with
  | zero =>
      cases text with
      | nil => exact List.not_mem_nil
      | cons => cases found
  | succ fuel inductionHypothesis =>
      cases text with
      | nil => exact List.not_mem_nil
      | cons first text =>
          obtain ⟨⟨sum, rest⟩, read, afterReading⟩ := Option.bind_eq_some_iff.mp found
          obtain ⟨advanced, -, decodedRest⟩ := Option.bind_eq_some_iff.mp afterReading
          intro member
          exact inductionHypothesis decodedRest (mem_of_readDistance? noDigit read member)

end Decoding

theorem mem_output_of_insert? {c : Char} {decoder advanced : Decoder} {sum : Nat}
    (inserted : decoder.insert? sum = some advanced) (member : c ∈ decoder.output) :
    c ∈ advanced.output := by
  unfold Decoder.insert? at inserted
  dsimp only at inserted
  split at inserted
  case isTrue => cases inserted
  split at inserted
  case isTrue =>
    have place : sum % (decoder.output.length + 1) < decoder.output.length + 1 :=
      Nat.mod_lt _ (by omega)
    obtain rfl := Option.some.inj inserted
    exact (List.mem_insertIdx (by omega)).mpr (.inr member)
  case isFalse => cases inserted

/-- What is decoded has the characters in front. -/
theorem mem_decodeDistances? {c : Char} {fuel : Nat} {decoder : Decoder} {text decoded : Text}
    (found : decodeDistances? fuel decoder text = some decoded) (member : c ∈ decoder.output) :
    c ∈ decoded := by
  induction fuel generalizing decoder text with
  | zero =>
      cases text with
      | nil => exact Option.some.inj found ▸ member
      | cons => cases found
  | succ fuel inductionHypothesis =>
      cases text with
      | nil => exact Option.some.inj found ▸ member
      | cons first text =>
          obtain ⟨⟨sum, rest⟩, -, afterReading⟩ := Option.bind_eq_some_iff.mp found
          obtain ⟨advanced, inserted, decodedRest⟩ := Option.bind_eq_some_iff.mp afterReading
          exact inductionHypothesis decodedRest (mem_output_of_insert? inserted member)

/-- The ASCII characters in front and the digits behind are the whole text but the hyphen. -/
theorem exists_digits_of_decode? {text decoded : Text} (found : decode? text = some decoded) :
    ∃ basic digits, (basic = [] ∧ text = digits ∨ text = basic ++ '-' :: digits) ∧
      decodeDistances? digits.length ⟨basic, 0, 128, 72⟩ digits = some decoded := by
  unfold decode? at found
  cases cut : cutLast? '-' text with
  | none =>
      rw [cut] at found
      exact ⟨[], text, .inl ⟨rfl, rfl⟩, found⟩
  | some pieces =>
      obtain ⟨basic, digits⟩ := pieces
      rw [cut] at found
      cases empty : basic.isEmpty with
      | true =>
          simp only [empty, if_true] at found
          exact ⟨[], text, .inl ⟨rfl, rfl⟩, found⟩
      | false =>
          simp only [empty, Bool.false_eq_true, if_false] at found
          split at found
          case isTrue => exact ⟨basic, digits, .inr (cutLast?_eq_some_iff.mp cut).1, found⟩
          case isFalse => cases found

/-- A character that is no digit cannot be decoded behind the last hyphen. -/
theorem decode?_eq_none {front back : Text} {c : Char} (noDigit : digitValue? c = none)
    (noHyphen : '-' ∉ c :: back) : decode? (front ++ c :: back) = none := by
  cases found : decode? (front ++ c :: back) with
  | none => rfl
  | some decoded =>
      obtain ⟨basic, digits, whole, read⟩ := exists_digits_of_decode? found
      have absent : c ∉ digits := not_mem_of_decodeDistances? noDigit read
      rcases whole with ⟨-, whole⟩ | whole
      · exact absurd (by simp [← whole]) absent
      · exfalso
        rcases List.append_eq_append_iff.mp whole with
          ⟨between, -, behind⟩ | ⟨between, -, behind⟩
        · exact noHyphen (by simp [behind])
        · cases between with
          | nil =>
              obtain ⟨rfl, -⟩ := List.cons.inj behind
              exact noHyphen List.mem_cons_self
          | cons hyphen between =>
              obtain ⟨-, rfl⟩ := List.cons.inj behind
              exact absent (by simp)

/-- The digits of a code stand behind all ASCII characters of the label. -/
theorem encode?_ne {label written digits : Text} {c : Char} (noDigit : digitValue? c = none)
    (noHyphen : c ≠ '-') (basic : ∀ other ∈ c :: digits, isBasic other = true)
    (absent : c ∉ digits) :
    encode? (label ++ c :: digits) ≠ some (written ++ c :: digits) := by
  intro encoded
  obtain ⟨code, areDigits, whole⟩ := extends_encode? encoded
  have front : basicFront (label ++ c :: digits) =
      label.filter isBasic ++ c :: (digits ++ ['-']) := by
    have kept : (c :: digits).filter isBasic = c :: digits := List.filter_eq_self.mpr basic
    simp [basicFront, kept]
  -- The text is cut at the last of these characters, once as it is and once as it is written.
  have cut : cutLast? c (written ++ c :: digits) = some (written, digits) :=
    cutLast?_eq_some_iff.mpr ⟨rfl, absent⟩
  have cutWritten : cutLast? c (written ++ c :: digits) =
      some (label.filter isBasic, digits ++ '-' :: code) := by
    apply cutLast?_eq_some_iff.mpr
    refine ⟨by rw [whole, front]; simp, ?_⟩
    rw [List.mem_append, List.mem_cons, not_or, not_or]
    exact ⟨absent, noHyphen, fun inCode => not_isDigit noDigit (areDigits c inCode)⟩
  rw [cut] at cutWritten
  simp at cutWritten

end Blocklist.Hostname.Punycode
