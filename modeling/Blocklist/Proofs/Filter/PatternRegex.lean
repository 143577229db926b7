/-
This file shows that the regular expression that a pattern is written as finds what the pattern
accepts. The passes over the text of the pattern write each of its characters for itself, and the
reader takes what is written back to one part for each character.
-/

import Blocklist.Proofs.Filter.RegexReader
import Blocklist.Proofs.Filter.Wildcard

namespace Blocklist

open Regex

namespace Pattern

/-- What one character of a pattern is written as. -/
def encode (c : Char) : Text :=
  if c = '*' then ['.', '*']
  else if c = '^' then separatorRegex
  else if isSpecial c then ['\\', c]
  else [c]

/-- The three passes together write each character for itself. -/
theorem expand_eq_flatMap_encode (text : Text) :
    expandSeparators (expandStars (escapeSpecials text)) = text.flatMap encode := by
  rw [expandSeparators, expandStars, escapeSpecials, List.flatMap_assoc, List.flatMap_assoc]
  congr 1
  funext c
  by_cases isStar : c = '*'
  · subst isStar
    decide
  by_cases isCircumflex : c = '^'
  · subst isCircumflex
    decide
  cases special : isSpecial c with
  | true => simp [encode, special, isStar, isCircumflex]
  | false => simp [encode, special, isStar, isCircumflex]

def separators : CharSet :=
  ⟨true, [('a', 'z'), ('A', 'Z'), ('0', '9'), ('_', '_'), ('.', '.'), ('%', '%'), ('-', '-')]⟩

theorem separators_has (c : Char) : separators.has c = isSeparator c := by
  have isAlphanum : c.isAlphanum =
      (decide ('A' ≤ c ∧ c ≤ 'Z') || (decide ('a' ≤ c) && decide (c ≤ 'z')) ||
        (decide ('0' ≤ c) && decide (c ≤ '9'))) := rfl
  have excluded :
      (separators.ranges.any fun range => decide (range.1 ≤ c) && decide (c ≤ range.2)) =
        (c.isAlphanum || ['_', '.', '%', '-'].contains c) := by
    rw [Bool.eq_iff_iff]
    simp only [separators, isAlphanum, List.any_cons, List.any_nil, Bool.or_false, Bool.or_eq_true,
      Bool.and_eq_true, decide_eq_true_eq, CharSet.between_self]
    grind
  rw [CharSet.has, excluded]
  simp [isSeparator, separators]

/-- The part of a regular expression that stands for a character of a pattern. -/
def partOf (c : Char) : Regex :=
  if c = '*' then .many (.oneOf .all)
  else if c = '^' then .either (sequence [.oneOf separators]) (sequence [.finish])
  else .oneOf (.only c)

theorem isAlphanum_of_isSpecial {c : Char} (special : isSpecial c = true) :
    c.isAlphanum = false := by
  have every : ("|.$+?\x7b\x7d()[]\\".toList.all fun mark => !mark.isAlphanum) = true := by decide
  have plain := List.all_eq_true.mp every c
    (by simpa only [isSpecial, List.contains_iff_mem] using special)
  simpa using plain

theorem not_mem_marks {c : Char} (notSpecial : isSpecial c = false) (noStar : c ≠ '*')
    (noCircumflex : c ≠ '^') : c ∉ Reader.marks := by
  have every : (Reader.marks.all fun mark => isSpecial mark || mark == '*' || mark == '^') = true :=
    by decide
  intro member
  have known := List.all_eq_true.mp every c member
  rw [notSpecial] at known
  simp [noStar, noCircumflex] at known

/-- What a character is written as is read back to its part. -/
theorem run_encode (c : Char) (group : OpenGroup) (outer : List OpenGroup) :
    Reader.run ⟨.plain, group, outer⟩ (encode c) =
      some ⟨.plain, group.add (partOf c), outer⟩ := by
  by_cases isStar : c = '*'
  · subst isStar
    rfl
  by_cases isCircumflex : c = '^'
  · subst isCircumflex
    rfl
  rw [encode, partOf, if_neg isStar, if_neg isStar, if_neg isCircumflex, if_neg isCircumflex]
  cases special : isSpecial c with
  | true =>
      change Reader.stepEscape _ c >>= _ = _
      rw [Reader.stepEscape, isAlphanum_of_isSpecial special]
      rfl
  | false =>
      change Reader.stepPlain _ c >>= _ = _
      rw [Reader.stepPlain_literal _ (not_mem_marks special isStar isCircumflex)]
      rfl

theorem run_flatMap_encode (text : Text) (branches parts : List Regex) (outer : List OpenGroup) :
    Reader.run ⟨.plain, ⟨branches, parts⟩, outer⟩ (text.flatMap encode) =
      some ⟨.plain, ⟨branches, (text.map partOf).reverse ++ parts⟩, outer⟩ := by
  induction text generalizing parts with
  | nil => rfl
  | cons c text inductionHypothesis =>
      rw [List.flatMap_cons, Reader.run_append, run_encode]
      change Reader.run ⟨.plain, ⟨branches, partOf c :: parts⟩, outer⟩ _ = _
      rw [inductionHypothesis]
      simp

@[simp] theorem matches_partOf_star {before part after : Text} :
    (partOf '*').Matches before part after := by
  simp [partOf]

theorem matches_partOf_separator {before part after : Text} :
    (partOf '^').Matches before part after ↔
      (∃ c, part = [c] ∧ isSeparator c = true) ∨ (part = [] ∧ after = []) := by
  simp [partOf, separators_has]

theorem matches_partOf_literal {c : Char} (noStar : c ≠ '*') (noCircumflex : c ≠ '^')
    {before part after : Text} : (partOf c).Matches before part after ↔ part = [c] := by
  simp [partOf, noStar, noCircumflex]

/-- The parts match what the text accepts; each character is one part. -/
theorem matches_map_partOf {text before part after : Text} :
    (sequence (text.map partOf)).Matches before part after ↔
      Wildcard.Accepts text part after := by
  induction text generalizing before part with
  | nil => rw [List.map_nil, matches_sequence_nil, Wildcard.accepts_nil_iff]
  | cons c text inductionHypothesis =>
      rw [List.map_cons, matches_sequence_cons]
      simp only [inductionHypothesis]
      by_cases isStar : c = '*'
      · subst isStar
        simp [Wildcard.accepts_star_iff]
      by_cases isCircumflex : c = '^'
      · subst isCircumflex
        simp only [Wildcard.accepts_separator_iff, matches_partOf_separator]
        constructor
        · rintro ⟨_, tail, rfl, ⟨c, rfl, separates⟩ | ⟨rfl, ended⟩, accepted⟩
          · exact .inl ⟨c, tail, rfl, separates, accepted⟩
          · obtain ⟨rfl, rfl⟩ := List.append_eq_nil_iff.mp ended
            exact .inr ⟨rfl, rfl, accepted⟩
        · rintro (⟨c, tail, rfl, separates, accepted⟩ | ⟨rfl, rfl, accepted⟩)
          · exact ⟨[c], tail, rfl, .inl ⟨c, rfl, separates⟩, accepted⟩
          · exact ⟨[], [], rfl, .inr ⟨rfl, rfl⟩, accepted⟩
      · simp only [Wildcard.accepts_literal_iff isStar isCircumflex,
          matches_partOf_literal isStar isCircumflex]
        constructor
        · rintro ⟨_, tail, rfl, rfl, accepted⟩
          exact ⟨tail, rfl, accepted⟩
        · rintro ⟨tail, rfl, accepted⟩
          exact ⟨[c], tail, rfl, rfl, accepted⟩

/-- Two slashes behind the scheme. -/
def slashesPart : Regex := sequence [.oneOf (.only '/'), .oneOf (.only '/')]

def subdomainsPart : Regex := sequence [oneOrMore (.oneOf (.except '/')), .oneOf (.only '.')]

/-- The parts of what a left anchor is written as. -/
def leftParts : Option LeftAnchor → List Regex
  | none => []
  | some .start => [.start]
  | some .hostname => [.start, oneOrMore (.oneOf (.except ':')), .oneOf (.only ':'),
      optional slashesPart, optional subdomainsPart]

theorem run_leftRegex (left : Option LeftAnchor) :
    Reader.initial.run (leftRegex left) = some ⟨.plain, ⟨[], (leftParts left).reverse⟩, []⟩ := by
  cases left with
  | none => rfl
  | some anchor => cases anchor <;> rfl

theorem matches_slashesPart {before part after : Text} :
    slashesPart.Matches before part after ↔ part = ['/', '/'] := by
  simp [slashesPart, matches_sequence_cons]

theorem matches_subdomainsPart {before part after : Text} :
    subdomainsPart.Matches before part after ↔
      ∃ name, name ≠ [] ∧ '/' ∉ name ∧ part = name ++ ['.'] := by
  simp only [subdomainsPart, matches_sequence_cons, matches_sequence_nil,
    matches_oneOrMore_oneOf_iff, CharSet.has_except, matches_oneOf_iff, CharSet.has_only]
  constructor
  · rintro ⟨name, _, rfl, ⟨some, noSlash⟩, _, _, rfl, ⟨point, rfl, rfl⟩, rfl⟩
    exact ⟨name, some, fun member => noSlash '/' member rfl, rfl⟩
  · rintro ⟨name, some, noSlash, rfl⟩
    refine ⟨name, ['.'], rfl, ⟨some, ?_⟩, ['.'], [], rfl, ⟨'.', rfl, rfl⟩, rfl⟩
    rintro c member rfl
    exact noSlash member

/-- What the left anchor is written as matches the end of a text that the anchor allows, and all of
the text if the anchor asks for something. -/
theorem matches_leftParts {left : Option LeftAnchor} {before after : Text} :
    (∃ skipped part, before = skipped ++ part ∧
      (sequence (leftParts left)).Matches skipped part after) ↔
        LeftAnchor.Allows before left := by
  cases left with
  | none => simp [leftParts, LeftAnchor.Allows]
  | some anchor =>
      cases anchor with
      | start => simp [leftParts, LeftAnchor.Allows]
      | hostname =>
          simp only [leftParts, LeftAnchor.Allows, matches_sequence_cons, matches_sequence_nil,
            matches_start_iff, matches_oneOrMore_oneOf_iff, CharSet.has_except,
            matches_oneOf_iff, CharSet.has_only, matches_optional_iff, matches_slashesPart,
            matches_subdomainsPart]
          constructor
          · rintro ⟨_, _, rfl, _, _, rfl, ⟨rfl, rfl⟩, scheme, _, rfl, ⟨some, noColon⟩, _, _, rfl,
              ⟨_, rfl, rfl⟩, slashes, _, rfl, slashesOrNone, subdomains, _, rfl,
              subdomainsOrNone, rfl⟩
            refine ⟨scheme, slashes, subdomains, by simp, some, ?_, slashesOrNone.symm,
              subdomainsOrNone.symm⟩
            exact fun member => noColon ':' member rfl
          · rintro ⟨scheme, slashes, subdomains, rfl, some, noColon, slashesOrNone,
              subdomainsOrNone⟩
            refine ⟨[], _, rfl, [], _, rfl, ⟨rfl, rfl⟩, scheme, _, rfl, ⟨some, ?_⟩, [':'], _, rfl,
              ⟨':', rfl, rfl⟩, slashes, _, rfl, slashesOrNone.symm, subdomains, [], by simp,
              subdomainsOrNone.symm, rfl⟩
            rintro c member rfl
            exact noColon member

/-- The parts of what a bar at the end is written as. -/
def rightParts (endAnchored : Bool) : List Regex := if endAnchored then [.finish] else []

theorem run_right (endAnchored : Bool) (parts : List Regex) :
    Reader.run ⟨.plain, ⟨[], parts⟩, []⟩ (if endAnchored then ['$'] else []) =
      some ⟨.plain, ⟨[], (rightParts endAnchored).reverse ++ parts⟩, []⟩ := by
  cases endAnchored <;> rfl

theorem matches_rightParts {endAnchored : Bool} {before part after : Text} :
    (sequence (rightParts endAnchored)).Matches before part after ↔
      part = [] ∧ (endAnchored = true → after = []) := by
  cases endAnchored <;> simp [rightParts]

/-- The parts of a whole pattern. -/
def parts (pattern : Pattern) : List Regex :=
  leftParts pattern.left ++ (pattern.text.map partOf ++ rightParts pattern.endAnchored)

/-- The reader takes what a pattern is written as to its parts. -/
theorem run_regex (pattern : Pattern) :
    Reader.initial.run pattern.regex = some ⟨.plain, ⟨[], pattern.parts.reverse⟩, []⟩ := by
  rw [regex, expand_eq_flatMap_encode, List.append_assoc, Reader.run_append, run_leftRegex,
    Option.bind_some, Reader.run_append, run_flatMap_encode, Option.bind_some, run_right]
  simp [parts]

/-- What a pattern is written as is read back to its parts. -/
theorem read?_regex (pattern : Pattern) :
    read? pattern.regex = some (sequence pattern.parts) := by
  rw [read?, run_regex]
  simp [Reader.finish?, OpenGroup.regex]

theorem partOf_injective : Function.Injective partOf := by
  intro c other same
  simp only [partOf] at same
  by_cases isStar : c = '*' <;> by_cases otherStar : other = '*' <;>
    by_cases isCircumflex : c = '^' <;> by_cases otherCircumflex : other = '^' <;>
    simp_all [CharSet.only]

theorem partOf_ne_finish (c : Char) : partOf c ≠ .finish := by
  unfold partOf
  split
  · nofun
  split <;> nofun

/-- The parts of a pattern are told by what it is written as. -/
theorem parts_eq_of_regex {first second : Pattern} (same : first.regex = second.regex) :
    first.parts = second.parts := by
  have sameRun := congrArg Reader.initial.run same
  rw [run_regex, run_regex] at sameRun
  exact List.reverse_inj.mp (OpenGroup.mk.inj (Reader.mk.inj (Option.some.inj sameRun)).2.1).2

/-- Patterns with the same left anchor are written differently. -/
theorem eq_of_regex {first second : Pattern} (sameLeft : first.left = second.left)
    (same : first.regex = second.regex) : first = second := by
  have sameParts := parts_eq_of_regex same
  obtain ⟨left, text, endAnchored⟩ := first
  obtain ⟨_, otherText, otherAnchored⟩ := second
  obtain rfl : left = _ := sameLeft
  have rest : text.map partOf ++ rightParts endAnchored =
      otherText.map partOf ++ rightParts otherAnchored := List.append_cancel_left sameParts
  have noFinish : ∀ text : Text, Regex.finish ∉ text.map partOf := by
    intro text member
    obtain ⟨c, -, finishes⟩ := List.mem_map.mp member
    exact partOf_ne_finish c finishes
  -- The end anchor is the only part that stands for no character.
  have anchored : endAnchored = otherAnchored := by
    have finishes := congrArg (Regex.finish ∈ ·) rest
    simp only [List.mem_append, noFinish, false_or, eq_iff_iff] at finishes
    cases endAnchored <;> cases otherAnchored <;> simp_all [rightParts]
  subst anchored
  have sameText : text = otherText :=
    (List.map_inj_right fun _ _ => (partOf_injective ·)).mp (List.append_cancel_right rest)
  rw [sameText]

theorem finds_parts_iff (pattern : Pattern) (url : Text) :
    (sequence pattern.parts).Finds url ↔ pattern.Accepts url := by
  constructor
  · rintro ⟨skipped, _, after, rfl, matched⟩
    obtain ⟨start, _, rfl, matchedLeft, matchedRest⟩ := matches_sequence_append.mp matched
    obtain ⟨part, _, rfl, matchedText, matchedRight⟩ := matches_sequence_append.mp matchedRest
    obtain ⟨rfl, last⟩ := matches_rightParts.mp matchedRight
    refine ⟨skipped ++ start, part, after, by simp, ?_, ?_, last⟩
    · exact matches_leftParts.mp ⟨skipped, start, rfl, matchedLeft⟩
    · exact matches_map_partOf.mp matchedText
  · rintro ⟨before, part, after, rfl, allowed, accepted, last⟩
    obtain ⟨skipped, start, rfl, matchedLeft⟩ : ∃ skipped start, before = skipped ++ start ∧
        (sequence (leftParts pattern.left)).Matches skipped start (part ++ after) :=
      matches_leftParts.mpr allowed
    refine ⟨skipped, start ++ part, after, by simp, ?_⟩
    refine matches_sequence_append.mpr ⟨start, part, rfl, matchedLeft, ?_⟩
    refine matches_sequence_append.mpr ⟨part, [], by simp, ?_, ?_⟩
    · exact matches_map_partOf.mpr accepted
    · exact matches_rightParts.mpr ⟨rfl, last⟩

end Pattern

end Blocklist
