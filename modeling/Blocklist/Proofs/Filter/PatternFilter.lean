/-
This file says what a filter looks like when the bars before dollar signs are deleted from it. Each
character of the text is written for itself, and a separator without its alternative, so that the
filter can be searched along the text.
-/

import Blocklist.Proofs.Filter.PatternEnds

namespace Blocklist

open Text

namespace Pattern

/-- What is left of the end of the URL as an alternative of a separator. -/
def separatorFilter : Text := "([^a-zA-Z0-9_.%-])".toList

/-- What one character of a pattern is written as in a filter. -/
def encodeFilter (c : Char) : Text := if c = '^' then separatorFilter else encode c

theorem encodeFilter_cases (c : Char) :
    (isSpecial c = true ∧ encodeFilter c = ['\\', c]) ∨
      (c = '*' ∧ encodeFilter c = ['.', '*']) ∨
      (c = '^' ∧ encodeFilter c = separatorFilter) ∨
      (isSpecial c = false ∧ encodeFilter c = [c]) := by
  by_cases isStar : c = '*'
  · exact .inr (.inl ⟨isStar, by simp [isStar, encodeFilter, encode]⟩)
  by_cases isCircumflex : c = '^'
  · exact .inr (.inr (.inl ⟨isCircumflex, by simp [isCircumflex, encodeFilter]⟩))
  cases special : isSpecial c with
  | true => exact .inl ⟨rfl, by simp [encodeFilter, encode, isStar, isCircumflex, special]⟩
  | false =>
      exact .inr (.inr (.inr ⟨rfl, by simp [encodeFilter, encode, isStar, isCircumflex, special]⟩))

theorem separatorRegex_eq :
    separatorRegex = "([^a-zA-Z0-9_.%-]".toList ++ (['|', '$'] ++ [')']) := by decide

theorem separatorFilter_eq : separatorFilter = "([^a-zA-Z0-9_.%-]".toList ++ [')'] := by decide

/-- The bar in a separator is all that is deleted of what a character is written as. -/
theorem deleteBars_append_encode (text : Text) (c : Char) :
    replacePair '|' '$' [] (text ++ encode c) =
      replacePair '|' '$' [] text ++ encodeFilter c := by
  by_cases isCircumflex : c = '^'
  · subst isCircumflex
    have noDollar : '$' ∉ "([^a-zA-Z0-9_.%-]".toList := by decide
    change replacePair '|' '$' [] (text ++ separatorRegex) = _ ++ separatorFilter
    rw [separatorRegex_eq, separatorFilter_eq, ← List.append_assoc, ← List.append_assoc,
      replacePair_append_part (by decide), replacePair_append_pair (by decide),
      replacePair_append_part noDollar, List.append_nil, List.append_assoc]
  have same : encode c = encodeFilter c := by rw [encodeFilter, if_neg isCircumflex]
  rw [same]
  rcases encodeFilter_cases c with
    ⟨-, escaped⟩ | ⟨-, starred⟩ | ⟨circumflex, -⟩ | ⟨plain, single⟩
  · -- A dollar sign is written behind a backslash, and completes no pair with it.
    rw [escaped, List.append_cons, replacePair_append_single, replacePair_append_part (by decide),
      List.append_assoc]
    · rfl
    · rw [List.getLast?_concat]
      exact fun pair => absurd pair.1 (by decide)
  · rw [starred, replacePair_append_part (by decide)]
  · exact absurd circumflex isCircumflex
  · rw [single, replacePair_append_single]
    rintro ⟨-, rfl⟩
    exact absurd plain (by decide)

theorem deleteBars_written (left : Option LeftAnchor) (text : Text) :
    replacePair '|' '$' [] (written left text) = leftRegex left ++ text.flatMap encodeFilter := by
  induction text using List.reverseRecOn with
  | nil => rcases left with - | - | - <;> decide
  | append_singleton text c inductionHypothesis =>
      rw [written_append_single, deleteBars_append_encode, inductionHypothesis,
        List.flatMap_append, List.append_assoc]
      simp

/-- The text of a pattern that its filter is written from, and what stands behind it: the end anchor
or, where the text ends in a bar that the anchor takes away, the backslash of the bar. -/
inductive FilterText (pattern : Pattern) : (text last : Text) → Prop
  | whole (noBar : ¬(pattern.endAnchored = true ∧ pattern.text.getLast? = some '|')) :
      FilterText pattern pattern.text (if pattern.endAnchored then ['$'] else [])
  | bar {front : Text} (endAnchored : pattern.endAnchored = true)
      (ends : pattern.text = front ++ ['|']) : FilterText pattern front ['\\']

theorem exists_filterText (pattern : Pattern) :
    ∃ text last, FilterText pattern text last ∧
      replacePair '|' '$' [] pattern.regex =
        leftRegex pattern.left ++ (text.flatMap encodeFilter ++ last) := by
  by_cases bar : pattern.endAnchored = true ∧ pattern.text.getLast? = some '|'
  · obtain ⟨front, ends⟩ := List.getLast?_eq_some_iff.mp bar.2
    refine ⟨front, ['\\'], .bar bar.1 ends, ?_⟩
    rw [deleteBars_regex_of_bar bar.1 ends, deleteBars_written, List.append_assoc]
  · refine ⟨pattern.text, _, .whole bar, ?_⟩
    rw [deleteBars_regex_of_noBar bar, deleteBars_written, List.append_assoc]

theorem FilterText.last_cases {pattern : Pattern} {text last : Text}
    (filterText : FilterText pattern text last) : last = [] ∨ last = ['$'] ∨ last = ['\\'] := by
  cases filterText with
  | whole => cases pattern.endAnchored <;> simp
  | bar => simp

end Pattern

end Blocklist
