/-
This file says where the domains of a converted rule come from. Each is the normal form of a name
that the filter rule gives, be it in one of its lists of domains or as the page that it exempts.
-/

import Blocklist.Proofs.Content.NamedPage
import Blocklist.Proofs.Content.Restriction

namespace Blocklist

open Text

namespace Trigger

/-- The domains that are required and those that are excluded. -/
def domains (trigger : Trigger) : List Text :=
  trigger.ifDomain.getD [] ++ trigger.unlessDomain.getD []

theorem domains_anyUrl : Trigger.anyUrl.domains = [] := rfl

end Trigger

/-- The names that a rule gives. An exception for whole pages gives only the name of its page. -/
def UrlRule.names (rule : UrlRule) : List Text :=
  if rule.pinsDomain then [NamedPage.leading (NamedPage.address rule.body)]
  else rule.includedDomains ++ rule.excludedDomains

def FilterRule.names : FilterRule → List Text
  | .cosmetic rule => rule.includedDomains ++ rule.excludedDomains
  | .script _ => []
  | .url rule => rule.names

/-- A trigger without domains gets those of the scope. -/
theorem DomainScope.narrow_domains {trigger : Trigger} (scope : DomainScope)
    (noneRequired : trigger.ifDomain = none) (noneExcluded : trigger.unlessDomain = none) :
    (scope.narrow trigger).domains = scope.included ++ scope.excluded := by
  rw [Trigger.domains, narrow_ifDomain scope noneRequired]
  by_cases empty : scope.excluded = []
  · simp [narrow, empty, noneExcluded]
  · simp [narrow, empty]

/-- The domains of a scope are the normal forms of its names. -/
theorem DomainScope.exists_name_of_mem {included excluded : List Text} {scope : DomainScope}
    {domain : Text} (resolved : ofNames included excluded = .ok scope)
    (member : domain ∈ scope.included ++ scope.excluded) :
    ∃ name ∈ included ++ excluded, Hostname.normalize? name = some domain := by
  obtain ⟨includedNormal, excludedNormal, -⟩ := ofNames_eq_ok resolved
  rcases List.mem_append.mp member with required | spared
  · obtain ⟨name, written, normal⟩ :=
      Hostname.exists_name_of_mem_normalizeAll includedNormal required
    exact ⟨name, List.mem_append_left _ (Hostname.mem_written.mp written).1, normal⟩
  · obtain ⟨name, written, normal⟩ :=
      Hostname.exists_name_of_mem_normalizeAll excludedNormal spared
    exact ⟨name, List.mem_append_right _ (Hostname.mem_written.mp written).1, normal⟩

/-- An exception for whole pages has the domain of its page, and no other rule gets one. -/
theorem UrlRule.Exempts.mem_domains {rule : UrlRule} {trigger exempted : Trigger}
    (exempts : rule.Exempts trigger exempted) {domain : Text}
    (member : domain ∈ exempted.domains) :
    rule.pinsDomain = true ∧ (NamedPage.ofText rule.body).domain = some domain ∨
      rule.pinsDomain = false ∧ domain ∈ trigger.domains := by
  cases exempts with
  | unchanged plain => exact .inr ⟨pinsDomain_of_plain plain, member⟩
  | @pinned page isException exemptsPages named noneSpared =>
      have only : domain = page := by simpa [Trigger.domains, noneSpared] using member
      rw [only]
      exact .inl ⟨by simp [pinsDomain, isException, exemptsPages], named⟩
  | documents _ noPages => exact .inr ⟨by simp [pinsDomain, noPages], member⟩

/-- Every domain of a converted rule is the normal form of a name that the filter rule gives. -/
theorem FilterRule.exists_name_of_convert {rule : FilterRule} {content : ContentRule}
    {domain : Text} (converted : rule.convert = .ok content)
    (member : domain ∈ content.trigger.domains) :
    ∃ name ∈ rule.names, Hostname.normalize? name = some domain := by
  cases rule with
  | cosmetic rule =>
      obtain ⟨scope, resolved, trigger, -⟩ := CosmeticRule.convert_eq_ok converted
      rw [trigger, scope.narrow_domains rfl rfl] at member
      exact DomainScope.exists_name_of_mem resolved member
  | script => cases converted
  | url rule =>
      obtain ⟨_, _, scope, -, -, resolved, exempts, -⟩ := UrlRule.convert_eq_ok converted
      rw [names, UrlRule.names]
      rcases exempts.mem_domains member with ⟨pins, page⟩ | ⟨free, inScope⟩
      · rw [if_pos pins]
        exact ⟨_, List.mem_singleton_self _, (Option.filter_eq_some_iff.mp page).1⟩
      · rw [free]
        rw [scope.narrow_domains rfl rfl] at inScope
        exact DomainScope.exists_name_of_mem resolved inScope

end Blocklist
