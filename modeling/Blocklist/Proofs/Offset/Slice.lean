/-
This file cuts texts at offsets, which count the bytes of the characters. A slice exists where its
start is not behind its end and both fall between characters of the text. Every other slice fails.
-/

import Blocklist.Text

namespace Blocklist

/-- A computation fails for want of a slice, or what it is given is refused for a cause. -/
inductive Failure (C : Type) where
  | noSlice
  | refused (cause : C)
deriving DecidableEq, Repr

namespace Text

/-- The bytes of a text in UTF-8. -/
def bytes (text : Text) : List UInt8 := text.flatMap String.utf8EncodeChar

/-- The count of the bytes of a text. -/
def size (text : Text) : Nat := text.bytes.length

@[simp] theorem bytes_cons (c : Char) (text : Text) :
    bytes (c :: text) = String.utf8EncodeChar c ++ bytes text := rfl

@[simp] theorem size_nil : size [] = 0 := rfl

@[simp] theorem size_cons (c : Char) (text : Text) :
    size (c :: text) = c.utf8Size + size text := by
  rw [size, bytes_cons, List.length_append, String.length_utf8EncodeChar]
  rfl

@[simp] theorem size_append (front back : Text) :
    size (front ++ back) = size front + size back := by
  rw [size, bytes, List.flatMap_append, List.length_append]
  rfl

theorem size_pos {text : Text} (some : text ≠ []) : 0 < size text := by
  cases text with
  | nil => exact absurd rfl some
  | cons c text =>
      rw [size_cons]
      exact Nat.add_pos_left c.utf8Size_pos (size text)

/-- What stands in front of an offset and behind it, if it falls between characters of the text. -/
def splitAt? : Text → Nat → Option (Text × Text)
  | text, 0 => some ([], text)
  | [], _ + 1 => none
  | c :: rest, offset + 1 =>
      if c.utf8Size ≤ offset + 1 then
        (splitAt? rest (offset + 1 - c.utf8Size)).map fun (front, back) => (c :: front, back)
      else none

theorem splitAt?_append (front back : Text) :
    splitAt? (front ++ back) (size front) = some (front, back) := by
  induction front with
  | nil => rw [List.nil_append, size_nil, splitAt?]
  | cons c front inductionHypothesis =>
      have positive := c.utf8Size_pos
      obtain ⟨offset, offsetEq⟩ : ∃ offset, size (c :: front) = offset + 1 :=
        ⟨size (c :: front) - 1, by rw [size_cons]; omega⟩
      have fits : c.utf8Size ≤ offset + 1 := by rw [← offsetEq, size_cons]; omega
      have rest : offset + 1 - c.utf8Size = size front := by rw [← offsetEq, size_cons]; omega
      rw [offsetEq, List.cons_append, splitAt?, if_pos fits, rest, inductionHypothesis]
      rfl

theorem eq_append_of_splitAt? {text front back : Text} {offset : Nat}
    (split : splitAt? text offset = some (front, back)) :
    text = front ++ back ∧ size front = offset := by
  fun_induction splitAt? text offset generalizing front with
  | case1 text =>
      obtain ⟨rfl, rfl⟩ := Prod.mk.inj (Option.some.inj split)
      exact ⟨rfl, rfl⟩
  | case2 offset => cases split
  | case3 c rest offset fits inductionHypothesis =>
      obtain ⟨⟨inside, behind⟩, splitRest, same⟩ := Option.map_eq_some_iff.mp split
      obtain ⟨rfl, rfl⟩ := Prod.mk.inj same
      obtain ⟨rfl, restSize⟩ := inductionHypothesis splitRest
      exact ⟨rfl, by rw [size_cons, restSize]; omega⟩
  | case4 c rest offset tooShort => cases split

/-- The part of a text between two offsets. -/
def slice {C : Type} (text : Text) (start stop : Nat) : Except (Failure C) Text :=
  match splitAt? text stop with
  | none => .error .noSlice
  | some (whole, _) =>
      match splitAt? whole start with
      | none => .error .noSlice
      | some (_, part) => .ok part

/-- The part of a text behind an offset. -/
def sliceFrom {C : Type} (text : Text) (start : Nat) : Except (Failure C) Text :=
  slice text start text.size

/-- The part of a text in front of an offset. -/
def sliceTo {C : Type} (text : Text) (stop : Nat) : Except (Failure C) Text := slice text 0 stop

section Slices

variable {C : Type}

/-- A slice exists exactly where both offsets fall between characters, the start not behind the
end. -/
theorem slice_eq_ok_iff {text part : Text} {start stop : Nat} :
    (slice text start stop : Except (Failure C) Text) = .ok part ↔
      ∃ front back, text = front ++ part ++ back ∧ size front = start ∧
        size (front ++ part) = stop := by
  constructor
  · intro cut
    unfold slice at cut
    split at cut
    case h_1 => cases cut
    case h_2 whole back found =>
      split at cut
      case h_1 => cases cut
      case h_2 front inside foundInside =>
        obtain rfl := Except.ok.inj cut
        obtain ⟨rfl, stopEq⟩ := eq_append_of_splitAt? found
        obtain ⟨rfl, startEq⟩ := eq_append_of_splitAt? foundInside
        exact ⟨front, back, rfl, startEq, stopEq⟩
  · rintro ⟨front, back, rfl, rfl, rfl⟩
    rw [slice, splitAt?_append]
    dsimp only
    rw [splitAt?_append]

theorem slice_append (front part back : Text) {stop : Nat}
    (stopEq : stop = size front + size part) :
    (slice (front ++ part ++ back) (size front) stop : Except (Failure C) Text) = .ok part :=
  slice_eq_ok_iff.mpr ⟨front, back, rfl, rfl, by rw [size_append, stopEq]⟩

theorem sliceFrom_append (front back : Text) :
    (sliceFrom (front ++ back) (size front) : Except (Failure C) Text) = .ok back :=
  slice_eq_ok_iff.mpr ⟨front, [], by simp, rfl, rfl⟩

theorem sliceTo_append (front back : Text) :
    (sliceTo (front ++ back) (size front) : Except (Failure C) Text) = .ok front :=
  slice_eq_ok_iff.mpr ⟨[], back, rfl, rfl, rfl⟩

end Slices

example : (slice "aß".toList 1 3 : Except (Failure Unit) Text) = .ok "ß".toList ∧
    (slice "aß".toList 1 2 : Except (Failure Unit) Text) = .error .noSlice ∧
    (slice "ab".toList 2 1 : Except (Failure Unit) Text) = .error .noSlice :=
  ⟨rfl, rfl, rfl⟩

end Text

end Blocklist
