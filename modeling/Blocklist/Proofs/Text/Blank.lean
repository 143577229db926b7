/-
This file says which texts have no blanks around them: those that begin and end with no blank. The
removal of blanks leaves such a text, leaves it as it is, and undoes the addition of blanks.
-/

import Blocklist.Text.Blank
import Mathlib.Data.List.TakeWhile

namespace Blocklist.Text

theorem dropWhile_eq_self {inClass : Char → Bool} {text : Text}
    (first : ∀ c, text.head? = some c → inClass c = false) : text.dropWhile inClass = text := by
  cases text with
  | nil => rfl
  | cons c rest => exact List.dropWhile_cons_of_neg (by simp [first c rfl])

theorem dropTrailing_eq_self {inClass : Char → Bool} {text : Text}
    (last : ∀ c, text.getLast? = some c → inClass c = false) :
    dropTrailing inClass text = text := by
  have kept : text.reverse.dropWhile inClass = text.reverse :=
    dropWhile_eq_self fun c first => last c (by rwa [List.head?_reverse] at first)
  rw [dropTrailing, kept, List.reverse_reverse]

theorem trim_eq_self {text : Text} (first : ∀ c, text.head? = some c → isBlank c = false)
    (last : ∀ c, text.getLast? = some c → isBlank c = false) : trim text = text := by
  rw [trim, dropWhile_eq_self first, dropTrailing_eq_self last]

theorem isBlank_head_trim {text : Text} {c : Char} (first : (trim text).head? = some c) :
    isBlank c = false := by
  -- What is left begins like the text whose blanks in front are gone.
  obtain ⟨dropped, whole⟩ := dropTrailingPrefix isBlank (text.dropWhile isBlank)
  have front : (text.dropWhile isBlank).head? = some c := by
    rw [← whole, List.head?_append]
    exact congrArg (Option.or · dropped.head?) first
  have notBlank := List.head?_dropWhile_not isBlank text
  rw [front] at notBlank
  simpa using notBlank

theorem trim_trim (text : Text) : trim (trim text) = trim text :=
  trim_eq_self (fun _ => isBlank_head_trim) fun _ => dropTrailingGetLast?

theorem dropTrailing_append {inClass : Char → Bool} {behind : Text}
    (all : ∀ c ∈ behind, inClass c = true) (text : Text) :
    dropTrailing inClass (text ++ behind) = dropTrailing inClass text := by
  have dropped : ∀ c ∈ behind.reverse, inClass c = true := fun c member =>
    all c (List.mem_reverse.mp member)
  rw [dropTrailing, List.reverse_append, List.dropWhile_append_of_pos dropped, dropTrailing]

/-- Blanks around a text are removed with those of the text. -/
theorem trim_append {before behind : Text} (blankBefore : ∀ c ∈ before, isBlank c = true)
    (blankBehind : ∀ c ∈ behind, isBlank c = true) (text : Text) :
    trim (before ++ text ++ behind) = trim text := by
  rw [trim, List.append_assoc, List.dropWhile_append_of_pos blankBefore, List.dropWhile_append]
  split
  case isTrue allBlank =>
    rw [List.dropWhile_eq_nil_iff.mpr blankBehind, trim, List.isEmpty_iff.mp allBlank]
  case isFalse => exact dropTrailing_append blankBehind _

end Blocklist.Text
