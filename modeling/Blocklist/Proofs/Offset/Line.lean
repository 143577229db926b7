/-
This file reads and converts a whole line by slices. The offsets come from searches for marks that
do not look at one another, but no line and no rule makes them cross or fall inside a character.
-/

import Blocklist.Content.Convert
import Blocklist.Proofs.Offset.Cosmetic
import Blocklist.Proofs.Offset.LineKind
import Blocklist.Proofs.Offset.Page

namespace Blocklist

open Text

/-- A computation by slices gives what one without slices gives, and no slice is missing. -/
def Failure.Agrees {C A : Type} (sliced : Except (Failure C) A) (plain : Except C A) : Prop :=
  sliced ≠ .error .noSlice ∧ sliced = plain.mapError .refused

theorem Failure.agrees_of_eq {C A : Type} {sliced : Except (Failure C) A} {plain : Except C A}
    (same : sliced = plain.mapError .refused) : Agrees sliced plain := by
  refine ⟨fun missing => ?_, same⟩
  obtain ⟨cause, -, refused⟩ := mapError_eq_error.mp (same.symm.trans missing)
  cases refused

def FilterRule.parseAt (line : Text) : Except (Failure FilterError) FilterRule := do
  let text := trim line
  if text.isEmpty then throw (.refused .unreadable)
  match ← LineKind.ofLineAt text with
  | .network => (UrlRule.parseAt text).map .url
  | .cosmetic => (CosmeticRule.parseAt text).map .cosmetic
  | .script => return .script ⟨text⟩
  | .unsupported kind => throw (.refused (.unsupported kind))
  | .noRule => throw (.refused .unreadable)

theorem FilterRule.parseAt_eq (line : Text) : parseAt line = (parse line).mapError .refused := by
  unfold parseAt parse
  dsimp only
  split
  case isTrue => rfl
  case isFalse =>
    rw [LineKind.ofLineAt_eq, ok_bind, UrlRule.parseAt_eq, CosmeticRule.parseAt_eq]
    cases LineKind.ofLine (trim line) with
    | network => exact (mapError_map _ _ _).symm
    | cosmetic => exact (mapError_map _ _ _).symm
    | script => rfl
    | unsupported kind => rfl
    | noRule => rfl

/-- The cause of a refusal in reading is a cause of a refusal in converting. -/
def Failure.ofFilter : Failure FilterError → Failure ConversionError
  | .noSlice => .noSlice
  | .refused cause => .refused (.ofFilterError cause)

/-- A line that is a comment has no rule. -/
def ContentRule.ofLineAt (line : Text) : Except (Failure ConversionError) (Option ContentRule) := do
  if isComment line then return none
  let rule ← (FilterRule.parseAt (trim line)).mapError .ofFilter
  rule.convertAt.map some

theorem ContentRule.ofLineAt_eq (line : Text) :
    ofLineAt line = (ofLine FilterRule.parse line).mapError .refused := by
  unfold ofLineAt ofLine
  rw [FilterRule.parseAt_eq]
  split
  case isTrue => rfl
  case isFalse =>
    cases FilterRule.parse (trim line) with
    | error cause => rfl
    | ok rule =>
        change rule.convertAt.map some = _
        rw [rule.convertAt_eq, mapError_map]

/-- Lines are told apart, read and converted by slices that all exist, and so are rules, whatever
texts and values they hold. -/
theorem slices_exist :
    (∀ line, Failure.Agrees (C := FilterError) (LineKind.ofLineAt line)
        (.ok (LineKind.ofLine line))) ∧
      (∀ line, Failure.Agrees (UrlRule.parseAt line) (UrlRule.parse line)) ∧
      (∀ line, Failure.Agrees (CosmeticRule.parseAt line) (CosmeticRule.parse line)) ∧
      (∀ rule : FilterRule, Failure.Agrees rule.convertAt rule.convert) ∧
      ∀ line, Failure.Agrees (ContentRule.ofLineAt line)
        (ContentRule.ofLine FilterRule.parse line) :=
  ⟨fun line => Failure.agrees_of_eq (LineKind.ofLineAt_eq line),
    fun line => Failure.agrees_of_eq (UrlRule.parseAt_eq line),
    fun line => Failure.agrees_of_eq (CosmeticRule.parseAt_eq line),
    fun rule => Failure.agrees_of_eq rule.convertAt_eq,
    fun line => Failure.agrees_of_eq (ContentRule.ofLineAt_eq line)⟩

end Blocklist
