/-
This file says that a rule by itself is refused for causes that lie in the rule. The other causes
are those of a whole list, that exceptions bring rules into conflict or that a limit is reached.
-/

import Blocklist.Proofs.Content.Conversion

namespace Blocklist

/-- The cause lies in a single rule, and not in the list that it stands in. -/
def ConversionError.IsOfRule : ConversionError → Prop
  | .conflictAfterExceptions => False
  | .overLimit _ => False
  | _ => True

section Causes

variable {cause : ConversionError}

theorem ConversionError.IsOfRule.ne_conflict (ofRule : cause.IsOfRule) :
    cause ≠ .conflictAfterExceptions := by
  rintro rfl
  exact ofRule

theorem ConversionError.isOfRule_ofFilterError (fault : FilterError) :
    (ofFilterError fault).IsOfRule := by
  cases fault <;> trivial

theorem UrlFilter.isOfRule_of_ofPattern {pattern : Text}
    (refused : ofPattern pattern = .error cause) : cause.IsOfRule := by
  unfold ofPattern at refused
  dsimp only at refused
  split at refused
  case isTrue =>
    obtain rfl := Except.error.inj refused
    trivial
  split at refused
  case isTrue =>
    obtain rfl := Except.error.inj refused
    trivial
  case isFalse => cases refused

theorem ResourceType.isOfRule_of_ofMask {types : TypeMask}
    (refused : ofMask types = .error cause) : cause.IsOfRule := by
  have foreign : ∃ type, cause = .foreignType type := by
    unfold ofMask at refused
    split at refused
    case isTrue => cases refused
    split at refused
    case isTrue => exact ⟨_, (Except.error.inj refused).symm⟩
    split at refused
    case isTrue => exact ⟨_, (Except.error.inj refused).symm⟩
    split at refused
    case isTrue => exact ⟨_, (Except.error.inj refused).symm⟩
    split at refused <;> cases refused
  obtain ⟨type, rfl⟩ := foreign
  trivial

theorem DomainScope.isOfRule_of_ofNames {included excluded : List Text}
    (refused : ofNames included excluded = .error cause) : cause.IsOfRule := by
  have unnamed : ∀ names : List Text,
      (Hostname.normalizeAll names).mapError .invalidDomain = .error cause → cause.IsOfRule := by
    intro names failed
    obtain ⟨name, -, rfl⟩ := mapError_eq_error.mp failed
    trivial
  rcases bind_eq_error.mp refused with failed | ⟨first, -, rest⟩
  · exact unnamed included failed
  rcases bind_eq_error.mp rest with failed | ⟨second, -, chosen⟩
  · exact unnamed excluded failed
  split at chosen
  case isTrue => cases chosen
  case isFalse =>
    obtain rfl := Except.error.inj chosen
    trivial

theorem UrlRule.isOfRule_of_exempt {rule : UrlRule} {trigger : Trigger}
    (refused : rule.exempt trigger = .error cause) : cause.IsOfRule := by
  unfold exempt at refused
  split at refused
  case isTrue => cases refused
  split at refused
  case isFalse => split at refused <;> cases refused
  case isTrue =>
    dsimp only at refused
    split at refused
    case isTrue =>
      obtain rfl := Except.error.inj refused
      trivial
    split at refused
    case h_2 =>
      obtain rfl := Except.error.inj refused
      trivial
    case h_1 =>
      split at refused
      case isTrue =>
        obtain rfl := Except.error.inj refused
        trivial
      case isFalse => cases refused

theorem UrlRule.isOfRule_of_convert {rule : UrlRule}
    (refused : rule.convert = .error cause) : cause.IsOfRule := by
  rw [convert_eq_conditions] at refused
  rcases bind_eq_error.mp refused with conditions | ⟨trigger, -, exempted⟩
  · rcases bind_eq_error.mp conditions with failed | ⟨urlFilter, -, afterFilter⟩
    · exact UrlFilter.isOfRule_of_ofPattern failed
    rcases bind_eq_error.mp afterFilter with failed | ⟨resourceTypes, -, afterTypes⟩
    · exact ResourceType.isOfRule_of_ofMask failed
    rcases bind_eq_error.mp afterTypes with failed | ⟨scope, -, built⟩
    · exact DomainScope.isOfRule_of_ofNames failed
    · cases built
  · exact isOfRule_of_exempt (map_eq_error.mp exempted)

/-- A rule by itself is refused for causes that lie in it. -/
theorem FilterRule.isOfRule_of_convert {rule : FilterRule}
    (refused : rule.convert = .error cause) : cause.IsOfRule := by
  cases rule with
  | cosmetic rule =>
      change rule.convert = .error cause at refused
      unfold CosmeticRule.convert at refused
      split at refused
      case isTrue =>
        obtain rfl := Except.error.inj refused
        trivial
      case isFalse =>
        rcases bind_eq_error.mp refused with failed | ⟨scope, -, built⟩
        · exact DomainScope.isOfRule_of_ofNames failed
        · cases built
  | script =>
      obtain rfl := Except.error.inj refused
      trivial
  | url rule => exact UrlRule.isOfRule_of_convert refused

end Causes

end Blocklist
