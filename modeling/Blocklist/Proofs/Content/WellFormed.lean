/-
This file says when the conditions of a trigger are well-formed: its lists of domains exclude each
other, hold distinct names and are left out instead of being empty. Every rule that is converted
has such conditions, with domains in ASCII and without capital letters.
-/

import Blocklist.Proofs.Content.Conversion
import Blocklist.Proofs.Content.NameList
import Blocklist.Proofs.Hostname.SmallAscii

namespace Blocklist

namespace Hostname

/-- The name is in ASCII and has no capital letter, as every normal form of a hostname. -/
def IsAsciiName (name : Text) : Prop := name.isSmallAscii = true

/-- The induction is on the names, for all lists of names that are already there. -/
theorem normalizeFrom_names {names : List Text} :
    ∀ {seen normals : List Text}, NameList IsAsciiName seen →
      normalizeFrom seen names = .ok normals →
      NameList IsAsciiName normals := by
  induction names with
  | nil =>
      intro seen normals list result
      exact Except.ok.inj result ▸ list
  | cons name names inductionHypothesis =>
      intro seen normals list result
      unfold normalizeFrom at result
      split at result
      case isTrue => exact inductionHypothesis list result
      case isFalse =>
        split at result
        case h_1 => cases result
        case h_2 normal found =>
          exact inductionHypothesis (list.join (normalize?_small found)) result

theorem normalizeAll_names {names normals : List Text} (result : normalizeAll names = .ok normals) :
    NameList IsAsciiName normals :=
  normalizeFrom_names (NameList.nil _) result

theorem namedPage_small {text domain : Text}
    (named : (NamedPage.ofText text).domain = some domain) : IsAsciiName domain := by
  obtain ⟨found, -⟩ := Option.filter_eq_some_iff.mp named
  exact normalize?_small found

end Hostname

namespace Trigger

/-- The lists that are present are not empty, and the lists of domains hold distinct names. -/
structure HasLists (isName : Text → Prop) (trigger : Trigger) : Prop where
  required : ∀ names, trigger.ifDomain = some names → names ≠ [] ∧ NameList isName names
  excluded : ∀ names, trigger.unlessDomain = some names → names ≠ [] ∧ NameList isName names
  resourceTypes : trigger.resourceTypes ≠ some []
  loadTypes : trigger.loadTypes ≠ some []

/-- Moreover domains are not both required and excluded. -/
structure WellFormed (isName : Text → Prop) (trigger : Trigger) : Prop
    extends HasLists isName trigger where
  exclusive : trigger.ifDomain = none ∨ trigger.unlessDomain = none

theorem wellFormed_ofTypes {isName : Text → Prop} {trigger : Trigger}
    (noneRequired : trigger.ifDomain = none) (noneExcluded : trigger.unlessDomain = none)
    (resourceTypes : trigger.resourceTypes ≠ some []) (loadTypes : trigger.loadTypes ≠ some []) :
    WellFormed isName trigger := by
  constructor
  · constructor
    · simp [noneRequired]
    · simp [noneExcluded]
    · exact resourceTypes
    · exact loadTypes
  · exact .inl noneRequired

theorem wellFormed_anyUrl (isName : Text → Prop) : WellFormed isName Trigger.anyUrl :=
  wellFormed_ofTypes rfl rfl (by decide) (by decide)

end Trigger

/-- A scope that has been resolved restricts a trigger without domains in a well-formed way. -/
theorem DomainScope.narrow_wellFormed {included excluded : List Text} {scope : DomainScope}
    {trigger : Trigger} (resolved : ofNames included excluded = .ok scope)
    (noneRequired : trigger.ifDomain = none) (noneExcluded : trigger.unlessDomain = none)
    (resourceTypes : trigger.resourceTypes ≠ some []) (loadTypes : trigger.loadTypes ≠ some []) :
    (scope.narrow trigger).WellFormed Hostname.IsAsciiName := by
  obtain ⟨includedNormal, excludedNormal, oneEmpty⟩ := ofNames_eq_ok resolved
  have includedNames := Hostname.normalizeAll_names includedNormal
  have excludedNames := Hostname.normalizeAll_names excludedNormal
  constructor
  · constructor
    · intro names present
      by_cases empty : scope.included = []
      · simp [narrow, empty, noneRequired] at present
      · obtain rfl : scope.included = names := by simpa [narrow, empty] using present
        exact ⟨empty, includedNames⟩
    · intro names present
      by_cases empty : scope.excluded = []
      · simp [narrow, empty, noneExcluded] at present
      · obtain rfl : scope.excluded = names := by simpa [narrow, empty] using present
        exact ⟨empty, excludedNames⟩
    · exact resourceTypes
    · exact loadTypes
  · rcases oneEmpty with noneIncluded | noneExcludedHere
    · left
      simp [narrow, noneIncluded, noneRequired]
    · right
      simp [narrow, noneExcludedHere, noneExcluded]

theorem UrlRule.loadTypes_ne_nil (rule : UrlRule) : rule.loadTypes ≠ some [] := by
  cases party : rule.thirdParty <;> simp [loadTypes, party]

/-- An exception keeps the conditions well-formed. -/
theorem UrlRule.Exempts.wellFormed {rule : UrlRule} {trigger exempted : Trigger}
    (exempts : rule.Exempts trigger exempted)
    (wellFormed : trigger.WellFormed Hostname.IsAsciiName) :
    exempted.WellFormed Hostname.IsAsciiName := by
  cases exempts with
  | unchanged => exact wellFormed
  | @pinned domain _ _ named noneSpared =>
      constructor
      · constructor
        · intro names present
          obtain rfl : [domain] = names := Option.some.inj present
          exact ⟨by simp, NameList.single (Hostname.namedPage_small named)⟩
        · exact wellFormed.excluded
        · simp
        · exact wellFormed.loadTypes
      · exact .inr noneSpared
  | documents =>
      exact ⟨⟨wellFormed.required, wellFormed.excluded, by simp, wellFormed.loadTypes⟩,
        wellFormed.exclusive⟩

/-- Every converted rule has well-formed conditions, whatever the fields of the filter rule are. -/
theorem FilterRule.convert_wellFormed {rule : FilterRule} {content : ContentRule}
    (converted : rule.convert = .ok content) :
    content.trigger.WellFormed Hostname.IsAsciiName := by
  cases rule with
  | cosmetic rule =>
      obtain ⟨scope, resolved, trigger, -⟩ := CosmeticRule.convert_eq_ok converted
      rw [trigger]
      exact DomainScope.narrow_wellFormed resolved rfl rfl (by decide) (by decide)
  | script => cases converted
  | url rule =>
      obtain ⟨urlFilter, resourceTypes, scope, -, mapped, resolved, exempts, -⟩ :=
        UrlRule.convert_eq_ok converted
      exact exempts.wellFormed (DomainScope.narrow_wellFormed resolved rfl rfl
        (ResourceType.ofMask_ne_nil mapped) rule.loadTypes_ne_nil)

end Blocklist
