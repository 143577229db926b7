/-
This file says what the conversion of a filter rule yields when it succeeds: which lists of names
the trigger holds, which conditions an exception replaces, and which action the rule performs.
-/

import Blocklist.Content.Convert
import Blocklist.Proofs.Except

namespace Blocklist

namespace DomainScope

/-- A scope holds the normal forms of both lists, and one of the lists is empty. -/
theorem ofNames_eq_ok {included excluded : List Text} {scope : DomainScope}
    (resolved : ofNames included excluded = .ok scope) :
    Hostname.normalizeAll included = .ok scope.included ∧
      Hostname.normalizeAll excluded = .ok scope.excluded ∧
      (scope.included = [] ∨ scope.excluded = []) := by
  obtain ⟨first, firstNormal, rest⟩ := bind_eq_ok.mp resolved
  obtain ⟨second, secondNormal, chosen⟩ := bind_eq_ok.mp rest
  rw [mapError_eq_ok] at firstNormal secondNormal
  split at chosen
  case isTrue oneEmpty =>
    obtain rfl := Except.ok.inj chosen
    simp only [Bool.or_eq_true, List.isEmpty_iff] at oneEmpty
    exact ⟨firstNormal, secondNormal, oneEmpty⟩
  case isFalse => cases chosen

end DomainScope

namespace ResourceType

/-- Resource types that are given are the counterparts of the mask, and there is one at least. -/
theorem ofMask_eq_ok {types : TypeMask} {resourceTypes : Option (List ResourceType)}
    (mapped : ofMask types = .ok resourceTypes) :
    resourceTypes = none ∨
      resourceTypes = some (counterparts types) ∧ counterparts types ≠ [] := by
  unfold ofMask at mapped
  split at mapped
  case isTrue => exact .inl (Except.ok.inj mapped).symm
  split at mapped
  case isTrue => cases mapped
  split at mapped
  case isTrue => cases mapped
  split at mapped
  case isTrue => cases mapped
  split at mapped
  case h_1 => exact .inl (Except.ok.inj mapped).symm
  case h_2 found => exact .inr ⟨(Except.ok.inj mapped).symm, found⟩

theorem ofMask_ne_nil {types : TypeMask} {resourceTypes : Option (List ResourceType)}
    (mapped : ofMask types = .ok resourceTypes) : resourceTypes ≠ some [] := by
  rcases ofMask_eq_ok mapped with rfl | ⟨rfl, some⟩
  · simp
  · simpa using some

/-- Documents are meant by frames only, when no other type is. -/
theorem document_mem_counterparts {types : TypeMask} :
    .document ∈ counterparts types ↔ types = .subdocument := by
  simp [counterparts, selected]

theorem head_ofMask {types : TypeMask} {resourceTypes : Option (List ResourceType)}
    (mapped : ofMask types = .ok resourceTypes) :
    (resourceTypes.getD []).head? = some .document ↔ types = .subdocument := by
  constructor
  · intro first
    rcases ofMask_eq_ok mapped with rfl | ⟨rfl, -⟩
    · cases first
    · exact document_mem_counterparts.mp (List.mem_of_mem_head? first)
  · rintro rfl
    obtain rfl : some [.document] = resourceTypes := Except.ok.inj mapped
    rfl

end ResourceType

namespace UrlRule

/-- What an exception makes of a trigger: it stays as it is, it is pinned to the page that the
exception names, or it is confined to documents. -/
inductive Exempts (rule : UrlRule) (trigger : Trigger) : Trigger → Prop
  | unchanged (plain : rule.isException = false ∨
      rule.exemptsPages = false ∧ rule.types.contains .elemHide = false) :
      Exempts rule trigger trigger
  | pinned {domain : Text} (isException : rule.isException = true)
      (exemptsPages : rule.exemptsPages = true)
      (named : (NamedPage.ofText rule.body).domain = some domain)
      (noneSpared : trigger.unlessDomain = none) :
      Exempts rule trigger { trigger with
        ifDomain := some [domain]
        urlFilter := Trigger.anyUrl.urlFilter
        resourceTypes := none }
  | documents (isException : rule.isException = true) (exemptsPages : rule.exemptsPages = false)
      (hidesNothing : rule.types.contains .elemHide = true) :
      Exempts rule trigger { trigger with resourceTypes := some [.document] }

theorem exempts_of_exempt {rule : UrlRule} {trigger exempted : Trigger}
    (succeeded : rule.exempt trigger = .ok exempted) : rule.Exempts trigger exempted := by
  unfold exempt at succeeded
  split at succeeded
  case isTrue blocks =>
    obtain rfl := Except.ok.inj succeeded
    exact .unchanged (.inl (by simpa using blocks))
  case isFalse excepts =>
    have isException : rule.isException = true := by simpa using excepts
    split at succeeded
    case isTrue pages =>
      dsimp only at succeeded
      split at succeeded
      case isTrue => cases succeeded
      split at succeeded
      case h_2 => cases succeeded
      case h_1 domain named =>
        split at succeeded
        case isTrue => cases succeeded
        case isFalse noneSpared =>
          obtain rfl := Except.ok.inj succeeded
          exact .pinned isException pages named (by simpa using noneSpared)
    case isFalse pages =>
      have noPages : rule.exemptsPages = false := by simpa using pages
      split at succeeded
      case isTrue hides =>
        obtain rfl := Except.ok.inj succeeded
        exact .documents isException noPages hides
      case isFalse hides =>
        obtain rfl := Except.ok.inj succeeded
        exact .unchanged (.inr ⟨noPages, by simpa using hides⟩)

end UrlRule

/-- A cosmetic rule acts on every URL within its scope. -/
theorem CosmeticRule.convert_eq_ok {rule : CosmeticRule} {content : ContentRule}
    (converted : rule.convert = .ok content) :
    ∃ scope, DomainScope.ofNames rule.includedDomains rule.excludedDomains = .ok scope ∧
      content.trigger = scope.narrow Trigger.anyUrl ∧
      content.action = (Action.cssDisplayNone rule.selector).forRule rule.isException := by
  unfold convert at converted
  split at converted
  case isTrue => cases converted
  case isFalse =>
    obtain ⟨scope, resolved, built⟩ := bind_eq_ok.mp converted
    obtain rfl := Except.ok.inj built
    exact ⟨scope, resolved, rfl, rfl⟩

/-- The conditions of a URL rule on the request alone. -/
def UrlRule.requestTrigger (rule : UrlRule) (urlFilter : Text)
    (resourceTypes : Option (List ResourceType)) : Trigger :=
  { Trigger.ofUrlFilter urlFilter with
    resourceTypes
    loadTypes := rule.loadTypes
    caseSensitive := if rule.matchCase then some true else none }

/-- The conditions that a URL rule has on the request and its page, before it is exempted. -/
def UrlRule.conditions (rule : UrlRule) : Except ConversionError Trigger := do
  let urlFilter ← UrlFilter.ofPattern rule.pattern.urlFilter
  let resourceTypes ← ResourceType.ofMask rule.types
  let scope ← DomainScope.ofNames rule.includedDomains rule.excludedDomains
  return scope.narrow (rule.requestTrigger urlFilter resourceTypes)

theorem UrlRule.convert_eq_conditions (rule : UrlRule) :
    rule.convert = rule.conditions >>= fun trigger =>
      (rule.exempt trigger).map fun exempted =>
        ⟨exempted, Action.block.forRule rule.isException⟩ := by
  unfold convert conditions
  cases UrlFilter.ofPattern rule.pattern.urlFilter with
  | error cause => rfl
  | ok urlFilter =>
      cases ResourceType.ofMask rule.types with
      | error cause => rfl
      | ok resourceTypes =>
          cases DomainScope.ofNames rule.includedDomains rule.excludedDomains with
          | error cause => rfl
          | ok scope =>
              exact bind_pure_comp _
                (rule.exempt (scope.narrow (rule.requestTrigger urlFilter resourceTypes)))

/-- A URL rule is converted if its pattern, its types and its domains are, and its trigger is then
exempted. -/
theorem UrlRule.convert_eq_ok_iff {rule : UrlRule} {content : ContentRule} :
    rule.convert = .ok content ↔ ∃ urlFilter resourceTypes scope trigger,
      UrlFilter.ofPattern rule.pattern.urlFilter = .ok urlFilter ∧
      ResourceType.ofMask rule.types = .ok resourceTypes ∧
      DomainScope.ofNames rule.includedDomains rule.excludedDomains = .ok scope ∧
      rule.exempt (scope.narrow (rule.requestTrigger urlFilter resourceTypes)) = .ok trigger ∧
      content = ⟨trigger, Action.block.forRule rule.isException⟩ := by
  constructor
  · intro converted
    obtain ⟨urlFilter, translated, afterFilter⟩ := bind_eq_ok.mp converted
    obtain ⟨resourceTypes, mapped, afterTypes⟩ := bind_eq_ok.mp afterFilter
    obtain ⟨scope, resolved, afterScope⟩ := bind_eq_ok.mp afterTypes
    obtain ⟨trigger, exempted, built⟩ := bind_eq_ok.mp afterScope
    exact ⟨urlFilter, resourceTypes, scope, trigger, translated, mapped, resolved, exempted,
      (Except.ok.inj built).symm⟩
  · rintro ⟨urlFilter, resourceTypes, scope, trigger, translated, mapped, resolved, exempted, rfl⟩
    refine bind_eq_ok.mpr ⟨urlFilter, translated, bind_eq_ok.mpr ⟨resourceTypes, mapped, ?_⟩⟩
    exact bind_eq_ok.mpr ⟨scope, resolved, bind_eq_ok.mpr ⟨trigger, exempted, rfl⟩⟩

/-- A URL rule acts on the requests within its scope, unless an exception changes that. -/
theorem UrlRule.convert_eq_ok {rule : UrlRule} {content : ContentRule}
    (converted : rule.convert = .ok content) :
    ∃ urlFilter resourceTypes scope,
      UrlFilter.ofPattern rule.pattern.urlFilter = .ok urlFilter ∧
      ResourceType.ofMask rule.types = .ok resourceTypes ∧
      DomainScope.ofNames rule.includedDomains rule.excludedDomains = .ok scope ∧
      rule.Exempts (scope.narrow (rule.requestTrigger urlFilter resourceTypes)) content.trigger ∧
      content.action = Action.block.forRule rule.isException := by
  obtain ⟨urlFilter, resourceTypes, scope, trigger, translated, mapped, resolved, exempted, rfl⟩ :=
    convert_eq_ok_iff.mp converted
  exact ⟨urlFilter, resourceTypes, scope, translated, mapped, resolved,
    exempts_of_exempt exempted, rfl⟩

theorem UrlRule.convert_unselected {rule : UrlRule} {content : ContentRule}
    (converted : rule.convert = .ok content) : content.action.selector? = none := by
  obtain ⟨-, -, -, -, -, -, -, action⟩ := convert_eq_ok converted
  rw [action, Action.forRule]
  split <;> rfl

/-- Only cosmetic rules have a selector, and it stands for the whole rule but its domains. -/
theorem FilterRule.convert_selected {rule : FilterRule} {content : ContentRule} {selector : Text}
    (converted : rule.convert = .ok content) (selected : content.action.selector? = some selector) :
    ∃ included excluded scope, DomainScope.ofNames included excluded = .ok scope ∧
      content.trigger = scope.narrow Trigger.anyUrl := by
  cases rule with
  | cosmetic rule =>
      obtain ⟨scope, resolved, trigger, -⟩ := CosmeticRule.convert_eq_ok converted
      exact ⟨_, _, scope, resolved, trigger⟩
  | script => cases converted
  | url rule =>
      rw [UrlRule.convert_unselected converted] at selected
      cases selected

/-- The trigger has no condition but its lists of domains. -/
def Trigger.ScopeOnly (trigger : Trigger) : Prop :=
  trigger = { Trigger.anyUrl with
    ifDomain := trigger.ifDomain
    unlessDomain := trigger.unlessDomain }

@[simp] theorem Trigger.anyUrl_ifDomain : Trigger.anyUrl.ifDomain = none := rfl

@[simp] theorem Trigger.anyUrl_unlessDomain : Trigger.anyUrl.unlessDomain = none := rfl

@[simp] theorem Trigger.anyUrl_isRestricted : Trigger.anyUrl.isRestricted = false := rfl

@[simp] theorem Trigger.anyUrl_hasConflict : Trigger.anyUrl.hasConflict = false := rfl

theorem Trigger.eq_anyUrl {trigger : Trigger} (scopeOnly : trigger.ScopeOnly)
    (everywhere : trigger.isRestricted = false) : trigger = Trigger.anyUrl := by
  simp only [isRestricted, Bool.or_eq_false_iff, Option.isSome_eq_false_iff,
    Option.isNone_iff_eq_none] at everywhere
  rw [scopeOnly, everywhere.1, everywhere.2]
  rfl

theorem FilterRule.convert_scopeOnly {rule : FilterRule} {content : ContentRule} {selector : Text}
    (converted : rule.convert = .ok content) (selected : content.action.selector? = some selector) :
    content.trigger.ScopeOnly := by
  obtain ⟨-, -, scope, -, trigger⟩ := convert_selected converted selected
  rw [trigger]
  rfl

end Blocklist
