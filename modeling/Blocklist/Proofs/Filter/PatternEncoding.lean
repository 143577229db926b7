/-
This file shows that the regular expression of a pattern is a faithful encoding of it. The left
anchor, each character and the right anchor are written for themselves, and the reader of regular
expressions tells from the parts that it finds which anchors and which characters were written.
-/

import Blocklist.Proofs.Filter.PatternEnds

namespace Blocklist

open Regex

namespace Pattern

section Parts

variable {text : Text} {endAnchored : Bool}

/-- No character is written as an anchor at the start, or as parts that follow each other. -/
theorem partOf_cases (c : Char) :
    (∃ part, partOf c = .many part) ∨ (∃ first second, partOf c = .either first second) ∨
      ∃ set, partOf c = .oneOf set := by
  unfold partOf
  split
  · exact .inl ⟨_, rfl⟩
  split
  · exact .inr (.inl ⟨_, _, rfl⟩)
  · exact .inr (.inr ⟨_, rfl⟩)

/-- What stands behind the left anchor begins in another way than the anchors go on. -/
theorem head?_behindLeft {part : Regex}
    (first : (text.map partOf ++ rightParts endAnchored).head? = some part) :
    part ≠ .start ∧ ∀ set, part ≠ oneOrMore set := by
  cases text with
  | nil =>
      cases endAnchored with
      | false => cases first
      | true =>
          obtain rfl : .finish = part := Option.some.inj first
          exact ⟨nofun, fun _ => nofun⟩
  | cons c text =>
      obtain rfl : partOf c = part := Option.some.inj first
      rcases partOf_cases c with ⟨_, written⟩ | ⟨_, _, written⟩ | ⟨_, written⟩ <;> rw [written] <;>
        exact ⟨nofun, fun _ => nofun⟩

/-- The left anchor is told by the first two parts. -/
theorem left_eq_of_parts {left otherLeft : Option LeftAnchor} {otherText : Text}
    {otherAnchored : Bool}
    (same : leftParts left ++ (text.map partOf ++ rightParts endAnchored) =
      leftParts otherLeft ++ (otherText.map partOf ++ rightParts otherAnchored)) :
    left = otherLeft := by
  have heads := congrArg List.head? same
  have seconds := congrArg (fun parts => parts.tail.head?) same
  rcases left with - | - | - <;> rcases otherLeft with - | - | -
  case none.none | some.start.some.start | some.hostname.some.hostname => rfl
  case none.some.start | none.some.hostname => exact absurd rfl (head?_behindLeft heads).1
  case some.start.none | some.hostname.none => exact absurd rfl (head?_behindLeft heads.symm).1
  case some.start.some.hostname => exact absurd rfl ((head?_behindLeft seconds).2 _)
  case some.hostname.some.start => exact absurd rfl ((head?_behindLeft seconds.symm).2 _)

end Parts

/-- Different patterns are written differently. -/
theorem regex_injective : Function.Injective regex := by
  intro first second same
  exact eq_of_regex (left_eq_of_parts (parts_eq_of_regex same)) same

/-- The passes over a text write the left anchor, each character and the right anchor for itself,
also where a regular expression is derived from a pattern, and different patterns are written
differently. -/
theorem regex_encodes :
    (∀ pattern : Pattern, pattern.regex =
      leftRegex pattern.left ++ pattern.text.flatMap encode ++
        if pattern.endAnchored then ['$'] else []) ∧
    (∀ (pattern : Pattern) (matchCase : Bool), pattern.derive matchCase =
      if pattern.isWebSocket then .ok webSocketRegex
      else if pattern.trimStars.isOpen then .ok anyHttpUrlRegex
      else (pattern.trimStars.normalize matchCase).map fun normal =>
        leftRegex normal.left ++ normal.text.flatMap encode ++
          if normal.endAnchored then ['$'] else []) ∧
    Function.Injective regex := by
  refine ⟨regex_eq_written, ?_, regex_injective⟩
  intro pattern matchCase
  rw [derive, funext regex_eq_written]
  rfl

end Pattern

end Blocklist
