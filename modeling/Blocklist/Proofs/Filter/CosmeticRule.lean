/-
This file says what a line holds that is read as a cosmetic rule: a marker, the supported ones of
the domains in front of it, and a selector behind it.
-/

import Blocklist.Filter.Cosmetic
import Blocklist.Proofs.Except

namespace Blocklist

open Text

namespace DomainEntry

/-- The name of the entry has no counterpart among hostnames. -/
def isForeign (entry : DomainEntry) : Bool :=
  (entry.isSlashed && entry.name != ['/']) || entry.isOpenEnded

end DomainEntry

namespace CosmeticRule

theorem supportedDomains_eq_ok {text : Text} {domains : List DomainEntry}
    (supported : supportedDomains text = .ok domains) :
    domains = (DomainEntry.ofList text).filter (fun entry => !entry.isForeign) ∧
      (domains ≠ [] ∨ ∀ entry ∈ DomainEntry.ofList text, entry.isForeign = false) := by
  unfold supportedDomains at supported
  dsimp only at supported
  split at supported
  case isTrue => cases supported
  case isFalse some =>
    obtain rfl := Except.ok.inj supported
    refine ⟨rfl, ?_⟩
    by_cases empty : ((DomainEntry.ofList text).filter fun entry => !entry.isForeign) = []
    · right
      intro entry member
      rw [← Bool.not_eq_true]
      intro foreign
      refine some (Bool.and_eq_true_iff.mpr ⟨List.isEmpty_iff.mpr empty, ?_⟩)
      exact List.any_eq_true.mpr ⟨entry, member, foreign⟩
    · exact .inl empty

/-- Entries that can all be expressed are all kept. -/
theorem supportedDomains_of_known {text : Text}
    (known : ∀ entry ∈ DomainEntry.ofList text, entry.isForeign = false) :
    supportedDomains text = .ok (DomainEntry.ofList text) := by
  have kept : (DomainEntry.ofList text).filter (fun entry => !entry.isForeign) =
      DomainEntry.ofList text := by
    rw [List.filter_eq_self]
    intro entry member
    rw [known entry member]
    rfl
  have noneForeign : (DomainEntry.ofList text).any DomainEntry.isForeign = false := by
    simpa using known
  change (if (((DomainEntry.ofList text).filter fun entry => !entry.isForeign).isEmpty &&
    (DomainEntry.ofList text).any DomainEntry.isForeign) = true then _ else _) = _
  rw [noneForeign, Bool.and_false, if_neg Bool.false_ne_true]
  exact congrArg Except.ok kept

/-- The marker tells whether the rule is injected, or else its selector does. -/
def isInjectedBy (marker : Marker) (selector : Text) : Except FilterError Bool :=
  if marker.isInjected then .ok true else injects selector (Selector.pseudoClasses selector)

theorem parse_eq_ok {line : Text} {rule : CosmeticRule} (parsed : parse line = .ok rule) :
    ∃ front suffix marker behind domains isInjected,
      cutFirst? '#' line = some (front, suffix) ∧
      Marker.ofSuffix? suffix = some (marker, behind) ∧
      supportedDomains front = .ok domains ∧ trim behind ≠ [] ∧
      isInjectedBy marker (trim behind) = .ok isInjected ∧
      rule = {
        selector := trim behind
        includedDomains := DomainEntry.included domains
        excludedDomains := DomainEntry.excludedNames domains
        isException := marker.isException
        isInjected
        line } := by
  unfold parse at parsed
  split at parsed
  case h_2 => cases parsed
  case h_1 front suffix cut =>
    split at parsed
    case h_2 => cases parsed
    case h_1 marker behind found =>
      obtain ⟨domains, supported, rest⟩ := bind_eq_ok.mp parsed
      dsimp only at rest
      split at rest
      case isTrue => cases rest
      case isFalse some =>
        have injected : ∃ isInjected, isInjectedBy marker (trim behind) = .ok isInjected ∧
            rule = {
              selector := trim behind
              includedDomains := DomainEntry.included domains
              excludedDomains := DomainEntry.excludedNames domains
              isException := marker.isException
              isInjected
              line } := by
          unfold isInjectedBy
          split at rest
          case isTrue told =>
            obtain ⟨isInjected, value, built⟩ := bind_eq_ok.mp rest
            exact ⟨isInjected, by rw [if_pos told]; exact value, (Except.ok.inj built).symm⟩
          case isFalse untold =>
            obtain ⟨isInjected, value, built⟩ := bind_eq_ok.mp rest
            exact ⟨isInjected, by rw [if_neg untold]; exact value, (Except.ok.inj built).symm⟩
        obtain ⟨isInjected, told, made⟩ := injected
        exact ⟨front, suffix, marker, behind, domains, isInjected, cut, found, supported,
          by simpa using some, told, made⟩

/-- A line is read once its parts are. -/
theorem parse_of_parts {line front suffix behind : Text} {marker : Marker}
    {domains : List DomainEntry} {isInjected : Bool}
    (cut : cutFirst? '#' line = some (front, suffix))
    (found : Marker.ofSuffix? suffix = some (marker, behind))
    (supported : supportedDomains front = .ok domains) (some : trim behind ≠ [])
    (told : isInjectedBy marker (trim behind) = .ok isInjected) :
    parse line = .ok {
      selector := trim behind
      includedDomains := DomainEntry.included domains
      excludedDomains := DomainEntry.excludedNames domains
      isException := marker.isException
      isInjected
      line } := by
  have someSelector : (trim behind).isEmpty = false := by simpa using some
  unfold parse
  rw [cut]
  dsimp only
  rw [found]
  dsimp only
  rw [supported]
  change (if (trim behind).isEmpty = true then _ else _) = _
  rw [someSelector, if_neg Bool.false_ne_true]
  unfold isInjectedBy at told
  split
  case isTrue injected =>
    rw [if_pos injected] at told
    obtain rfl := Except.ok.inj told
    rfl
  case isFalse plain =>
    rw [if_neg plain] at told
    rw [told]
    rfl

theorem line_of_parse {line : Text} {rule : CosmeticRule} (parsed : parse line = .ok rule) :
    rule.line = line := by
  obtain ⟨-, -, -, -, -, -, -, -, -, -, -, rfl⟩ := parse_eq_ok parsed
  rfl

end CosmeticRule

end Blocklist
