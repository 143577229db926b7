/-
This file says which characters the fields of a text have, that the fields of joined texts are these
texts, and that a marker is found in front of a separator that it does not have, as if the text
ended there.
-/

import Blocklist.Text

namespace Blocklist.Text

/-- A text begins with a marker if there is a text behind it. -/
theorem startsWith_eq_isSome (text marker : Text) :
    text.startsWith marker = (text.after? marker).isSome := by
  rw [startsWith, Bool.eq_iff_iff, List.isPrefixOf_iff_prefix, Option.isSome_iff_exists]
  apply exists_congr
  intro rest
  rw [after?_eq_some_iff, eq_comm]

theorem startsWith_eq_false_iff {text marker : Text} :
    text.startsWith marker = false ↔ text.after? marker = none := by
  rw [startsWith_eq_isSome, Option.isSome_eq_false_iff, Option.isNone_iff_eq_none]

section Fields

variable {separator : Char}

theorem not_mem_of_mem_fields {text field : Text}
    (member : field ∈ fields separator text) : separator ∉ field := by
  induction text generalizing field with
  | nil =>
      rw [List.mem_singleton.mp member]
      exact List.not_mem_nil
  | cons c rest inductionHypothesis =>
      rw [fields] at member
      split at member
      case isTrue =>
        rcases List.mem_cons.mp member with rfl | later
        · exact List.not_mem_nil
        · exact inductionHypothesis later
      case isFalse apart =>
        split at member
        case h_1 empty => exact absurd empty (fields_ne_nil separator rest)
        case h_2 first others split =>
          rw [split] at inductionHypothesis
          rcases List.mem_cons.mp member with rfl | later
          · rw [List.mem_cons, not_or]
            exact ⟨Ne.symm apart, inductionHypothesis List.mem_cons_self⟩
          · exact inductionHypothesis (List.mem_cons_of_mem first later)

/-- A text without separators is its only field. -/
theorem fields_eq_singleton {text : Text} (absent : separator ∉ text) :
    fields separator text = [text] := by
  induction text with
  | nil => rfl
  | cons c rest inductionHypothesis =>
      rw [List.mem_cons, not_or] at absent
      rw [fields, if_neg (Ne.symm absent.1), inductionHypothesis absent.2]

/-- The first separator behind a text without separators ends its field. -/
theorem fields_append_cons {front : Text} (absent : separator ∉ front) (rest : Text) :
    fields separator (front ++ separator :: rest) = front :: fields separator rest := by
  induction front with
  | nil => simp [fields]
  | cons c front inductionHypothesis =>
      rw [List.mem_cons, not_or] at absent
      rw [List.cons_append, fields, if_neg (Ne.symm absent.1), inductionHypothesis absent.2]

/-- The fields of a joined text are the texts that were joined. -/
theorem fields_intercalate {parts : List Text} (some : parts ≠ [])
    (absent : ∀ part ∈ parts, separator ∉ part) :
    fields separator ([separator].intercalate parts) = parts := by
  induction parts with
  | nil => exact absurd rfl some
  | cons part parts inductionHypothesis =>
      have absentHere := absent part List.mem_cons_self
      cases parts with
      | nil =>
          rw [List.intercalate_singleton]
          exact fields_eq_singleton absentHere
      | cons next parts =>
          have later := inductionHypothesis (List.cons_ne_nil next parts) fun other member =>
            absent other (List.mem_cons_of_mem part member)
          rw [List.intercalate_cons_cons, List.append_assoc, List.cons_append, List.nil_append,
            fields_append_cons absentHere, later]

theorem exists_field_of_mem {c : Char} {text : Text} (apart : c ≠ separator)
    (member : c ∈ text) : ∃ field ∈ fields separator text, c ∈ field := by
  induction text with
  | nil => cases member
  | cons first rest inductionHypothesis =>
      rw [fields]
      split
      case isTrue same =>
        have later : c ∈ rest := by
          rcases List.mem_cons.mp member with isFirst | later
          · exact absurd (isFirst.trans same) apart
          · exact later
        obtain ⟨field, present, inField⟩ := inductionHypothesis later
        exact ⟨field, List.mem_cons_of_mem [] present, inField⟩
      case isFalse =>
        split
        case h_1 empty => exact absurd empty (fields_ne_nil separator rest)
        case h_2 field others split =>
          rcases List.mem_cons.mp member with rfl | later
          · exact ⟨_, List.mem_cons_self, List.mem_cons_self⟩
          · obtain ⟨found, present, inFound⟩ := inductionHypothesis later
            rw [split] at present
            rcases List.mem_cons.mp present with rfl | among
            · exact ⟨_, List.mem_cons_self, List.mem_cons_of_mem first inFound⟩
            · exact ⟨found, List.mem_cons_of_mem _ among, inFound⟩

theorem mem_intercalate_of_mem {c : Char} {labels : List Text} {label : Text}
    (present : label ∈ labels) (member : c ∈ label) :
    c ∈ [separator].intercalate labels := by
  induction labels with
  | nil => cases present
  | cons first labels inductionHypothesis =>
      cases labels with
      | nil =>
          rw [List.mem_singleton.mp present] at member
          rwa [List.intercalate_singleton]
      | cons second labels =>
          rw [List.intercalate_cons_cons, List.mem_append]
          rcases List.mem_cons.mp present with rfl | later
          · exact .inl (List.mem_append_left _ member)
          · exact .inr (inductionHypothesis later)

theorem exists_mem_of_mem_intercalate {c : Char} {parts : List Text} (apart : c ≠ separator)
    (member : c ∈ [separator].intercalate parts) : ∃ part ∈ parts, c ∈ part := by
  induction parts with
  | nil => cases member
  | cons part parts inductionHypothesis =>
      cases parts with
      | nil =>
          rw [List.intercalate_singleton] at member
          exact ⟨part, List.mem_cons_self, member⟩
      | cons next parts =>
          rw [List.intercalate_cons_cons, List.append_assoc, List.mem_append, List.cons_append,
            List.nil_append, List.mem_cons] at member
          rcases member with here | same | later
          · exact ⟨part, List.mem_cons_self, here⟩
          · exact absurd same apart
          · obtain ⟨found, present, inFound⟩ := inductionHypothesis later
            exact ⟨found, List.mem_cons_of_mem part present, inFound⟩

/-- A marker does not reach beyond a character that it does not have. -/
theorem after?_append_cons {front marker : Text} (absent : separator ∉ marker)
    (back : Text) : after? (front ++ separator :: back) marker =
      (after? front marker).map (· ++ separator :: back) := by
  induction marker generalizing front with
  | nil => simp [after?]
  | cons wanted marker inductionHypothesis =>
      rw [List.mem_cons, not_or] at absent
      cases front with
      | nil => exact if_neg absent.1
      | cons c front =>
          rw [List.cons_append, after?, after?, inductionHypothesis absent.2]
          split <;> rfl

end Fields

end Blocklist.Text
