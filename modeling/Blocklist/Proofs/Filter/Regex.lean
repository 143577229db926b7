/-
This file holds regular expressions and says what they match. A match stands in a context, because
the anchors look at the text in front of it and behind it; the text that is searched is the three
together.
-/

import Blocklist.Text

namespace Blocklist

/-- The characters in some ranges, or those outside of them. -/
structure CharSet where
  negated : Bool
  ranges : List (Char × Char)
deriving DecidableEq, Repr

namespace CharSet

def has (set : CharSet) (c : Char) : Bool :=
  (set.ranges.any fun range => decide (range.1 ≤ c) && decide (c ≤ range.2)) != set.negated

def all : CharSet := ⟨true, []⟩

def only (c : Char) : CharSet := ⟨false, [(c, c)]⟩

def except (c : Char) : CharSet := ⟨true, [(c, c)]⟩

theorem between_self {c other : Char} : c ≤ other ∧ other ≤ c ↔ other = c := by
  constructor
  · rintro ⟨least, greatest⟩
    exact Char.le_antisymm greatest least
  · rintro rfl
    exact ⟨Char.le_refl other, Char.le_refl other⟩

@[simp] theorem has_all (c : Char) : all.has c = true := rfl

@[simp] theorem has_only {c other : Char} : (only c).has other = true ↔ other = c := by
  simp only [has, only, List.any_cons, List.any_nil, Bool.or_false, bne_iff_ne, ne_eq,
    Bool.not_eq_false, Bool.and_eq_true, decide_eq_true_eq, between_self]

@[simp] theorem has_except {c other : Char} : (except c).has other = true ↔ other ≠ c := by
  simp only [has, except, List.any_cons, List.any_nil, Bool.or_false, bne_iff_ne, ne_eq,
    Bool.and_eq_true, decide_eq_true_eq, between_self]

end CharSet

inductive Regex where
  | empty
  | oneOf (set : CharSet)
  | start
  | finish
  | append (first second : Regex)
  | either (first second : Regex)
  | many (part : Regex)
deriving DecidableEq, Repr

namespace Regex

/-- The regular expression matches a part of a text, between what stands before and after it. -/
inductive Matches : Regex → Text → Text → Text → Prop
  | empty {before after : Text} : Matches .empty before [] after
  | oneOf {set : CharSet} {c : Char} {before after : Text} (member : set.has c = true) :
      Matches (.oneOf set) before [c] after
  | start {after : Text} : Matches .start [] [] after
  | finish {before : Text} : Matches .finish before [] []
  | append {first second : Regex} {before part rest after : Text}
      (matched : Matches first before part (rest ++ after))
      (matchedRest : Matches second (before ++ part) rest after) :
      Matches (.append first second) before (part ++ rest) after
  | first {first second : Regex} {before part after : Text}
      (matched : Matches first before part after) :
      Matches (.either first second) before part after
  | second {first second : Regex} {before part after : Text}
      (matched : Matches second before part after) :
      Matches (.either first second) before part after
  | none {repeated : Regex} {before after : Text} : Matches (.many repeated) before [] after
  | more {repeated : Regex} {before part rest after : Text}
      (matched : Matches repeated before part (rest ++ after))
      (matchedRest : Matches (.many repeated) (before ++ part) rest after) :
      Matches (.many repeated) before (part ++ rest) after

section Equations

variable {first second : Regex} {set : CharSet} {before part after : Text}

@[simp] theorem matches_empty_iff : Matches .empty before part after ↔ part = [] := by
  constructor
  · intro matched
    cases matched
    rfl
  · rintro rfl
    exact .empty

@[simp] theorem matches_oneOf_iff :
    Matches (.oneOf set) before part after ↔ ∃ c, part = [c] ∧ set.has c = true := by
  constructor
  · intro matched
    cases matched with
    | oneOf member => exact ⟨_, rfl, member⟩
  · rintro ⟨c, rfl, member⟩
    exact .oneOf member

@[simp] theorem matches_start_iff :
    Matches .start before part after ↔ before = [] ∧ part = [] := by
  constructor
  · intro matched
    cases matched
    exact ⟨rfl, rfl⟩
  · rintro ⟨rfl, rfl⟩
    exact .start

@[simp] theorem matches_finish_iff :
    Matches .finish before part after ↔ part = [] ∧ after = [] := by
  constructor
  · intro matched
    cases matched
    exact ⟨rfl, rfl⟩
  · rintro ⟨rfl, rfl⟩
    exact .finish

theorem matches_append_iff :
    Matches (.append first second) before part after ↔
      ∃ head tail, part = head ++ tail ∧ Matches first before head (tail ++ after) ∧
        Matches second (before ++ head) tail after := by
  constructor
  · intro matched
    cases matched with
    | append matchedHead matchedTail => exact ⟨_, _, rfl, matchedHead, matchedTail⟩
  · rintro ⟨head, tail, rfl, matchedHead, matchedTail⟩
    exact .append matchedHead matchedTail

@[simp] theorem matches_either_iff :
    Matches (.either first second) before part after ↔
      Matches first before part after ∨ Matches second before part after := by
  constructor
  · intro matched
    cases matched with
    | first matched => exact .inl matched
    | second matched => exact .inr matched
  · rintro (matched | matched)
    · exact .first matched
    · exact .second matched

/-- A repeated set matches the texts over it, in every context. -/
@[simp] theorem matches_many_oneOf_iff :
    Matches (.many (.oneOf set)) before part after ↔ ∀ c ∈ part, set.has c = true := by
  constructor
  · intro matched
    generalize repeated : Regex.many (.oneOf set) = regex at matched
    induction matched with
    | none => simp
    | more matched _ _ inductionHypothesis =>
        obtain rfl := Regex.many.inj repeated
        obtain ⟨c, rfl, member⟩ := matches_oneOf_iff.mp matched
        simpa [member] using inductionHypothesis repeated
    | _ => cases repeated
  · intro members
    induction part generalizing before with
    | nil => exact .none
    | cons c part inductionHypothesis =>
        rw [List.forall_mem_cons] at members
        exact .more (.oneOf members.1) (inductionHypothesis members.2)

end Equations

def oneOrMore (part : Regex) : Regex := .append part (.many part)

def optional (part : Regex) : Regex := .either part .empty

@[simp] theorem matches_oneOrMore_oneOf_iff {set : CharSet} {before part after : Text} :
    (oneOrMore (.oneOf set)).Matches before part after ↔
      part ≠ [] ∧ ∀ c ∈ part, set.has c = true := by
  rw [oneOrMore, matches_append_iff]
  constructor
  · rintro ⟨head, tail, rfl, matched, matchedTail⟩
    obtain ⟨c, rfl, member⟩ := matches_oneOf_iff.mp matched
    have members := matches_many_oneOf_iff.mp matchedTail
    simpa [member] using members
  · rintro ⟨some, members⟩
    obtain ⟨c, tail, rfl⟩ := List.exists_cons_of_ne_nil some
    rw [List.forall_mem_cons] at members
    exact ⟨[c], tail, rfl, .oneOf members.1, matches_many_oneOf_iff.mpr members.2⟩

@[simp] theorem matches_optional_iff {regex : Regex} {before part after : Text} :
    regex.optional.Matches before part after ↔ regex.Matches before part after ∨ part = [] := by
  rw [optional, matches_either_iff, matches_empty_iff]

/-- The parts are matched one after the other. -/
def sequence : List Regex → Regex
  | [] => .empty
  | part :: parts => .append part (sequence parts)

@[simp] theorem matches_sequence_nil {before part after : Text} :
    (sequence []).Matches before part after ↔ part = [] :=
  matches_empty_iff

theorem matches_sequence_cons {regex : Regex} {regexes : List Regex}
    {before part after : Text} :
    (sequence (regex :: regexes)).Matches before part after ↔
      ∃ head tail, part = head ++ tail ∧ regex.Matches before head (tail ++ after) ∧
        (sequence regexes).Matches (before ++ head) tail after :=
  matches_append_iff

@[simp] theorem matches_sequence_singleton {regex : Regex} {before part after : Text} :
    (sequence [regex]).Matches before part after ↔ regex.Matches before part after := by
  simp [matches_sequence_cons]

theorem matches_sequence_append {regexes others : List Regex} {before part after : Text} :
    (sequence (regexes ++ others)).Matches before part after ↔
      ∃ head tail, part = head ++ tail ∧ (sequence regexes).Matches before head (tail ++ after) ∧
        (sequence others).Matches (before ++ head) tail after := by
  induction regexes generalizing before part with
  | nil =>
      constructor
      · intro matched
        exact ⟨[], part, rfl, matches_sequence_nil.mpr rfl, by simpa using matched⟩
      · rintro ⟨_, _, rfl, empty, matched⟩
        obtain rfl := matches_sequence_nil.mp empty
        simpa using matched
  | cons regex regexes inductionHypothesis =>
      simp only [List.cons_append, matches_sequence_cons, inductionHypothesis]
      constructor
      · rintro ⟨head, _, rfl, matched, middle, tail, rfl, matchedMiddle, matchedTail⟩
        refine ⟨head ++ middle, tail, by simp, ⟨head, middle, rfl, ?_, ?_⟩, ?_⟩
        · simpa using matched
        · exact matchedMiddle
        · simpa using matchedTail
      · rintro ⟨_, tail, rfl, ⟨head, middle, rfl, matched, matchedMiddle⟩, matchedTail⟩
        refine ⟨head, middle ++ tail, by simp, ?_, middle, tail, rfl, matchedMiddle, ?_⟩
        · simpa using matched
        · simpa using matchedTail

/-- A search looks for a match anywhere in the text. -/
def Finds (regex : Regex) (text : Text) : Prop :=
  ∃ before part after, text = before ++ (part ++ after) ∧ regex.Matches before part after

end Regex

end Blocklist
