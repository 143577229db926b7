/-
This file says how far a line is read alike in both cases of its letters. The options are cut at the
same place, and a pattern has the same parts. The derived filter is the same unless only one pattern
is that of a web socket, which is looked for in small letters.
-/

import Blocklist.Proofs.Filter.OptionMark
import Blocklist.Proofs.Filter.PatternEnds
import Blocklist.Proofs.Text.LetterCase

namespace Blocklist

open Text

namespace UrlRule

theorem bodyOf_uncased (line : Text) : bodyOf line.uncased = (bodyOf line).uncased := by
  rw [bodyOf, bodyOf, startsWith_uncased (by decide)]
  split
  · exact List.map_drop.symm
  · rfl

/-- Neither slashes nor dollar signs have a case. -/
theorem cutOptions?_uncased (body : Text) :
    cutOptions? body.uncased = (cutOptions? body).map (Prod.map uncased uncased) := by
  cases slashed : body.startsWith ['/'] with
  | false =>
      have slashedToo : body.uncased.startsWith ['/'] = false :=
        (startsWith_uncased (by decide) body).trans slashed
      rw [cutOptions?_of_plain slashed, cutOptions?_of_plain slashedToo,
        cutLast?_uncased (by decide)]
  | true =>
      obtain ⟨rest, rfl⟩ := startsWith_single.mp slashed
      have slash : uncased ('/' :: rest) = '/' :: uncased rest := rfl
      rw [slash, cutOptions?, cutOptions?, cutLast?_uncased (by decide)]
      cases cutLast? '/' rest with
      | none =>
          rw [← slash]
          exact cutLast?_uncased (by decide) _
      | some pieces =>
          obtain ⟨inside, behind⟩ := pieces
          simp only [Option.map_some, Prod.map_apply]
          rw [cutFirst?_uncased (by decide)]
          cases cutFirst? '$' behind with
          | none => rfl
          | some parts => simp [show '/'.toLower = '/' from rfl]

end UrlRule

namespace Pattern

/-- The pattern without the case of its ASCII letters. -/
def uncased (pattern : Pattern) : Pattern := { pattern with text := pattern.text.uncased }

theorem ofBody_uncased (left : Option LeftAnchor) (body : Text) :
    ofBody left body.uncased = (ofBody left body).uncased := by
  have last : body.uncased.dropLast = Text.uncased body.dropLast := List.map_dropLast.symm
  rw [ofBody, ofBody, endsWith_uncased (by decide), last]
  split <;> rfl

theorem ofRaw_uncased (raw : Text) : ofRaw raw.uncased = (ofRaw raw).uncased := by
  have dropped (count : Nat) : raw.uncased.drop count = Text.uncased (raw.drop count) :=
    List.map_drop.symm
  rw [ofRaw_eq, ofRaw_eq, startsWith_uncased (by decide), startsWith_uncased (by decide), dropped,
    dropped, ofBody_uncased, ofBody_uncased, ofBody_uncased]
  split
  · rfl
  · split <;> rfl

theorem trimStars_uncased (pattern : Pattern) :
    pattern.uncased.trimStars = pattern.trimStars.uncased := by
  have noStar : ∀ c : Char, c.isAlpha = true → (c == '*') = false := fun c letter =>
    beq_false_of_ne (ne_of_isAlpha (by decide) letter)
  obtain ⟨left, text, endAnchored⟩ := pattern
  have inFront (text : Text) :
      (if left ≠ some .hostname ∧ text.uncased.startsWith ['*'] then
        ⟨none, text.uncased.dropWhile (· == '*'), endAnchored⟩
      else ⟨left, text.uncased, endAnchored⟩ : Pattern) =
        uncased (if left ≠ some .hostname ∧ text.startsWith ['*'] then
          ⟨none, text.dropWhile (· == '*'), endAnchored⟩
        else ⟨left, text, endAnchored⟩) := by
    rw [startsWith_uncased (by decide), dropWhile_uncased noStar]
    split <;> rfl
  cases endAnchored with
  | true => exact inFront text
  | false =>
      have front := inFront (dropTrailing (· == '*') text)
      rw [← dropTrailing_uncased noStar] at front
      exact front

theorem isOpen_uncased (pattern : Pattern) : pattern.uncased.isOpen = pattern.isOpen := by
  have empty : pattern.text.uncased.isEmpty = pattern.text.isEmpty := List.isEmpty_map
  rw [isOpen, isOpen]
  exact congrArg (· && _) empty

theorem normalize_uncased (pattern : Pattern) :
    pattern.uncased.normalize false = pattern.normalize false := by
  have same : normalText pattern.left false pattern.text.uncased =
      normalText pattern.left false pattern.text := by
    rw [normalText, normalText]
    simp only [Bool.false_eq_true, if_false, Text.lowercase_uncased]
  rw [normalize_eq_map, normalize_eq_map]
  dsimp only [uncased]
  rw [same]

theorem closed_of_isWebSocket {pattern : Pattern} (webSocket : pattern.isWebSocket = true) :
    pattern.trimStars.isOpen = false := by
  obtain ⟨left, text, endAnchored⟩ := pattern
  obtain ⟨rfl, rfl | rfl⟩ := isWebSocket_iff.mp webSocket <;> cases endAnchored <;> decide

section Recased

variable {first second : Pattern} (same : first.uncased = second.uncased)
include same

theorem trimStars_recased :
    first.trimStars.isOpen = second.trimStars.isOpen ∧
      first.trimStars.normalize false = second.trimStars.normalize false := by
  have trimmed : first.trimStars.uncased = second.trimStars.uncased := by
    rw [← trimStars_uncased, same, trimStars_uncased]
  rw [← isOpen_uncased first.trimStars, ← normalize_uncased first.trimStars, trimmed,
    isOpen_uncased, normalize_uncased]
  exact ⟨rfl, rfl⟩

/-- The case of the letters counts only where a web socket is looked for. -/
theorem derive_recased (sockets : first.isWebSocket = second.isWebSocket) :
    first.derive false = second.derive false := by
  obtain ⟨isOpen, normal⟩ := trimStars_recased same
  rw [derive, derive, sockets, isOpen, normal]

/-- A pattern that is not that of a web socket only by its case is derived as it is written in small
letters. -/
theorem derive_of_webSocket (webSocket : first.isWebSocket = true)
    (noWebSocket : second.isWebSocket = false) : second.derive false = .ok first.regex := by
  obtain ⟨isOpen, normal⟩ := trimStars_recased same
  rw [derive, noWebSocket, ← isOpen, closed_of_isWebSocket webSocket, ← normal,
    normalize_of_isWebSocket webSocket]
  rfl

end Recased

end Pattern

end Blocklist
