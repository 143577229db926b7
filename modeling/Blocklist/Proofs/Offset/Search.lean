/-
This file finds characters in a text by their offset. A search for a byte looks at the bytes of all
characters, and finds an ASCII character at its offset, because the other characters have none but
bytes beyond ASCII.
-/

import Blocklist.Proofs.Offset.Slice

namespace Blocklist.Text

section Bytes

/-- An ASCII character is one byte. -/
theorem utf8EncodeChar_of_small {c : Char} (small : c.toNat < 128) :
    String.utf8EncodeChar c = [c.toUInt8] := by
  have bound : c.val ≤ 127 := UInt32.le_iff_toNat_le.mpr (Nat.le_of_lt_succ small)
  exact String.utf8EncodeChar_eq_singleton (Char.utf8Size_eq_one_iff.mpr bound)

theorem utf8Size_of_small {c : Char} (small : c.toNat < 128) : c.utf8Size = 1 := by
  rw [← String.length_utf8EncodeChar, utf8EncodeChar_of_small small]
  rfl

/-- The bytes of other characters are beyond ASCII. -/
theorem big_of_mem_utf8EncodeChar {c : Char} (big : 128 ≤ c.toNat) {byte : UInt8}
    (member : byte ∈ String.utf8EncodeChar c) : 128 ≤ byte.toNat := by
  have code : 128 ≤ c.val.toNat := big
  unfold String.utf8EncodeChar at member
  dsimp only at member
  split at member
  case isTrue => omega
  split at member
  case isTrue =>
    simp only [List.mem_cons, List.not_mem_nil, or_false] at member
    rcases member with rfl | rfl <;> rw [UInt8.toNat_ofNat'] <;> omega
  split at member
  case isTrue =>
    simp only [List.mem_cons, List.not_mem_nil, or_false] at member
    rcases member with rfl | rfl | rfl <;> rw [UInt8.toNat_ofNat'] <;> omega
  case isFalse =>
    simp only [List.mem_cons, List.not_mem_nil, or_false] at member
    rcases member with rfl | rfl | rfl | rfl <;> rw [UInt8.toNat_ofNat'] <;> omega

/-- A slice behind an ASCII character is what follows the character. -/
theorem sliceFrom_behind {C : Type} {mark : Char} (small : mark.toNat < 128) (front back : Text) :
    (sliceFrom (front ++ mark :: back) (size front + 1) : Except (Failure C) Text) = .ok back := by
  have cut := sliceFrom_append (C := C) (front ++ [mark]) back
  rwa [size_append, size_cons, utf8Size_of_small small, size_nil, List.append_assoc] at cut

theorem sliceFrom_one {C : Type} {mark : Char} (small : mark.toNat < 128) (back : Text) :
    (sliceFrom (mark :: back) 1 : Except (Failure C) Text) = .ok back :=
  sliceFrom_behind small [] back

theorem toNat_toUInt8_of_small {c : Char} (small : c.toNat < 128) : c.toUInt8.toNat = c.toNat := by
  change c.toNat % 256 = c.toNat
  exact Nat.mod_eq_of_lt (by omega)

theorem not_mem_utf8EncodeChar {mark c : Char} (small : mark.toNat < 128) (other : c ≠ mark) :
    mark.toUInt8 ∉ String.utf8EncodeChar c := by
  intro member
  by_cases smallToo : c.toNat < 128
  · rw [utf8EncodeChar_of_small smallToo, List.mem_singleton] at member
    have same := congrArg UInt8.toNat member
    rw [toNat_toUInt8_of_small small, toNat_toUInt8_of_small smallToo] at same
    exact other (Char.toNat_inj.mp same.symm)
  · have big := big_of_mem_utf8EncodeChar (Nat.le_of_not_lt smallToo) member
    rw [toNat_toUInt8_of_small small] at big
    omega

end Bytes

/-- The offset of the first byte with a value. -/
def firstByte? (byte : UInt8) (text : Text) : Option Nat := text.bytes.findIdx? (· == byte)

/-- The place of the last byte with a value. -/
def lastIndexOf? (byte : UInt8) : List UInt8 → Option Nat
  | [] => none
  | first :: rest =>
      match lastIndexOf? byte rest with
      | some index => some (index + 1)
      | none => if first = byte then some 0 else none

/-- The offset of the last byte with a value. -/
def lastByte? (byte : UInt8) (text : Text) : Option Nat := lastIndexOf? byte text.bytes

/-- The offset of the first character of a class. -/
def offsetOf? (inClass : Char → Bool) : Text → Option Nat
  | [] => none
  | c :: rest => if inClass c then some 0 else (offsetOf? inClass rest).map (· + c.utf8Size)

/-- The offset of the last occurrence of a character. -/
def lastOffsetOf? (mark : Char) : Text → Option Nat
  | [] => none
  | c :: rest =>
      match lastOffsetOf? mark rest with
      | some offset => some (offset + c.utf8Size)
      | none => if c = mark then some 0 else none

/-- The offset of the first occurrence of a part. -/
def offsetOfPart? (part : Text) : Text → Option Nat
  | [] => if part.isEmpty then some 0 else none
  | c :: rest =>
      if startsWith (c :: rest) part then some 0
      else (offsetOfPart? part rest).map (· + c.utf8Size)

section Searches

variable {mark : Char}

theorem firstByte?_eq (small : mark.toNat < 128) (text : Text) :
    firstByte? mark.toUInt8 text = (cutFirst? mark text).map fun cut => size cut.1 := by
  unfold firstByte?
  induction text with
  | nil => rfl
  | cons c rest inductionHypothesis =>
      by_cases same : c = mark
      · subst same
        simp [cutFirst?, utf8EncodeChar_of_small small, List.findIdx?_cons]
      · have absent : (String.utf8EncodeChar c).findIdx? (· == mark.toUInt8) = none := by
          rw [List.findIdx?_eq_none_iff]
          rintro byte member
          exact beq_false_of_ne fun found =>
            not_mem_utf8EncodeChar small same (found ▸ member)
        rw [bytes_cons, cutFirst?, if_neg same, List.findIdx?_append, absent, Option.none_or,
          inductionHypothesis, String.length_utf8EncodeChar, Option.map_map, Option.map_map]
        simp [Function.comp_def, Nat.add_comm]

/-- What stands in front of the last mark does not matter, if it has none. -/
theorem cutLast?_append_of_absent {front : Text} (absent : mark ∉ front)
    (back : Text) : cutLast? mark (front ++ back) =
      (cutLast? mark back).map fun cut => (front ++ cut.1, cut.2) := by
  induction front with
  | nil => simp
  | cons c front inductionHypothesis =>
      rw [List.mem_cons, not_or] at absent
      rw [List.cons_append, cutLast?, inductionHypothesis absent.2]
      cases cutLast? mark back with
      | none => simp [Ne.symm absent.1]
      | some cut => rfl

theorem lastIndexOf?_append {byte : UInt8} {front back : List UInt8} (absent : byte ∉ front) :
    lastIndexOf? byte (front ++ back) = (lastIndexOf? byte back).map (· + front.length) := by
  induction front with
  | nil => simp
  | cons first front inductionHypothesis =>
      rw [List.mem_cons, not_or] at absent
      rw [List.cons_append, lastIndexOf?, inductionHypothesis absent.2]
      cases lastIndexOf? byte back with
      | none => simp [Ne.symm absent.1]
      | some index => simp [Nat.add_assoc]

theorem lastByte?_eq (small : mark.toNat < 128) (text : Text) :
    lastByte? mark.toUInt8 text = (cutLast? mark text).map fun cut => size cut.1 := by
  unfold lastByte?
  induction text with
  | nil => rfl
  | cons c rest inductionHypothesis =>
      by_cases same : c = mark
      · subst same
        rw [bytes_cons, utf8EncodeChar_of_small small, List.singleton_append, lastIndexOf?,
          inductionHypothesis, cutLast?]
        cases cutLast? c rest with
        | none => simp
        | some cut => simp [utf8Size_of_small small, Nat.add_comm]
      · rw [bytes_cons, lastIndexOf?_append (not_mem_utf8EncodeChar small same),
          inductionHypothesis, cutLast?]
        cases cutLast? mark rest with
        | none => simp [same]
        | some cut => simp [Nat.add_comm]

theorem offsetOf?_single (text : Text) :
    offsetOf? (· == mark) text = (cutFirst? mark text).map fun cut => size cut.1 := by
  induction text with
  | nil => rfl
  | cons c rest inductionHypothesis =>
      rw [offsetOf?, cutFirst?, inductionHypothesis]
      by_cases same : c = mark
      · simp [same]
      · simp [same, Function.comp_def, Nat.add_comm]

theorem lastOffsetOf?_eq (text : Text) :
    lastOffsetOf? mark text = (cutLast? mark text).map fun cut => size cut.1 := by
  induction text with
  | nil => rfl
  | cons c rest inductionHypothesis =>
      rw [lastOffsetOf?, cutLast?, inductionHypothesis]
      cases cutLast? mark rest with
      | none => by_cases same : c = mark <;> simp [same]
      | some cut => simp [Nat.add_comm]

/-- A class is first met behind the characters outside of it. -/
theorem offsetOf?_cases (inClass : Char → Bool) (text : Text) :
    (offsetOf? inClass text = none ∧ text.takeWhile (fun c => !inClass c) = text ∧
        text.dropWhile (fun c => !inClass c) = []) ∨
      offsetOf? inClass text = some (size (text.takeWhile fun c => !inClass c)) := by
  induction text with
  | nil => exact .inl ⟨rfl, rfl, rfl⟩
  | cons c rest inductionHypothesis =>
      cases member : inClass c with
      | true => exact .inr (by simp [offsetOf?, member])
      | false =>
          rcases inductionHypothesis with ⟨absent, all, none⟩ | found
          · exact .inl (by simp [offsetOf?, member, absent, all, none])
          · exact .inr (by simp [offsetOf?, member, found, Nat.add_comm])

end Searches

end Blocklist.Text
