/-
This file says to which domains a converted rule is restricted, in terms of the domains that its
line names. Some of these cannot be expressed and are dropped. Only one that is included, and is
kept, makes the rule require domains; where the others are all that is left, the rule reaches more
pages than its line says.
-/

import Blocklist.Proofs.Content.DomainScope
import Blocklist.Proofs.Filter.CosmeticRule
import Blocklist.Proofs.Filter.RuleOption
import Blocklist.Proofs.Filter.UrlRule
import Blocklist.Proofs.Text.Blank

namespace Blocklist

open Text

namespace CosmeticRule

/-- The domains in front of the marker, as they are written. -/
def writtenDomains (line : Text) : List Text :=
  match cutFirst? '#' line with
  | some (front, _) => ((fields ',' front).map trim).filter (!·.isEmpty)
  | none => []

theorem trim_of_written {line field : Text} (written : field ∈ writtenDomains line) :
    trim field = field ∧ field ≠ [] := by
  unfold writtenDomains at written
  split at written
  case h_1 =>
    obtain ⟨member, some⟩ := List.mem_filter.mp written
    obtain ⟨raw, -, rfl⟩ := List.mem_map.mp member
    exact ⟨trim_trim raw, by simpa using some⟩
  case h_2 => cases written

/-- The domain can be expressed. -/
def supports (field : Text) : Bool := !(DomainEntry.ofText field).isForeign

/-- The domains that a line names restrict a trigger as far as they are supported: it requires
domains exactly when a supported one is included, which it then takes from the line, and it has a
list of domains exactly when a supported one is more than a tilde. Where some domain is dropped,
a supported one is left, be it included or not. -/
structure Restricts (line : Text) (trigger : Trigger) : Prop where
  requires : trigger.requiresDomain = true ↔
    ∃ field ∈ writtenDomains line, field.startsWith ['~'] = false ∧ supports field = true
  listed : trigger.isRestricted = true ↔
    ∃ field ∈ writtenDomains line, supports field = true ∧
      trim (DomainEntry.ofText field).name ≠ []
  guarded : (∃ field ∈ writtenDomains line, supports field = false) →
    ∃ field ∈ writtenDomains line, supports field = true
  named : ∀ name ∈ trigger.ifDomain.getD [], ∃ field ∈ writtenDomains line,
    field.startsWith ['~'] = false ∧ supports field = true ∧
      Hostname.normalize? field = some name

/-- A cosmetic rule is restricted to the supported ones of the domains that its line names. -/
theorem convert_restricts {line : Text} {rule : CosmeticRule} {content : ContentRule}
    (parsed : parse line = .ok rule) (converted : rule.convert = .ok content) :
    Restricts line content.trigger := by
  obtain ⟨scope, resolved, trigger, -⟩ := convert_eq_ok converted
  obtain ⟨front, suffix, _, _, domains, _, cut, -, supported, -, -, rfl⟩ := parse_eq_ok parsed
  obtain ⟨rfl, guarded⟩ := supportedDomains_eq_ok supported
  have entries : DomainEntry.ofList front = (writtenDomains line).map DomainEntry.ofText := by
    rw [writtenDomains, cut]
    rfl
  rw [entries] at resolved guarded
  rw [trigger]
  constructor
  case requires =>
    rw [DomainScope.narrow_requiresDomain resolved rfl, DomainEntry.exists_included_iff]
    constructor
    · rintro ⟨field, member, included, kept, -⟩
      exact ⟨field, member, included, kept⟩
    · rintro ⟨field, member, included, kept⟩
      obtain ⟨trimmed, some⟩ := trim_of_written member
      exact ⟨field, member, included, kept, by rwa [trimmed]⟩
  case listed =>
    rw [DomainScope.narrow_isRestricted resolved rfl, DomainEntry.exists_name_iff]
    rfl
  case guarded =>
    rintro ⟨field, member, dropped⟩
    rcases guarded with some | allSupported
    · obtain ⟨entry, kept⟩ := List.exists_mem_of_ne_nil _ some
      obtain ⟨present, supportedEntry⟩ := List.mem_filter.mp kept
      obtain ⟨other, otherMember, rfl⟩ := List.mem_map.mp present
      exact ⟨other, otherMember, supportedEntry⟩
    · have supportedField := allSupported _ (List.mem_map_of_mem member)
      simp [supports, supportedField] at dropped
  case named =>
    intro name required
    rw [DomainScope.narrow_ifDomain scope rfl] at required
    obtain ⟨includedNormal, -, -⟩ := DomainScope.ofNames_eq_ok resolved
    obtain ⟨field, present, normal⟩ :=
      Hostname.exists_name_of_mem_normalizeAll includedNormal required
    exact DomainEntry.exists_included_iff.mp ⟨field, (Hostname.mem_written.mp present).1, normal⟩

/-- The rule that hides advertisements on some pages. -/
def hidingRule (includedDomains excludedDomains : List Text) (line : Text) : CosmeticRule :=
  { selector := ".ad".toList
    includedDomains
    excludedDomains
    isException := false
    isInjected := false
    line }

/-- The rule that hides advertisements, as it is converted. -/
def hidingContent (ifDomain unlessDomain : Option (List Text)) : ContentRule :=
  ⟨{ Trigger.anyUrl with ifDomain, unlessDomain }, .cssDisplayNone ".ad".toList⟩

/-- The rule of a line with one supported domain among others. -/
def mixedRule : CosmeticRule :=
  hidingRule ["Example.com".toList] [] "/ad/,Example.com,~a.*##.ad".toList

theorem convert_restricts_mixed :
    parse mixedRule.line = .ok mixedRule ∧
      mixedRule.convert = .ok (hidingContent (some ["example.com".toList]) none) ∧
      Restricts mixedRule.line (hidingContent (some ["example.com".toList]) none).trigger := by
  have parsed : parse mixedRule.line = .ok mixedRule := by decide +kernel
  have converted : mixedRule.convert = .ok (hidingContent (some ["example.com".toList]) none) := by
    decide +kernel
  exact ⟨parsed, converted, convert_restricts parsed converted⟩

/-- Where the only included domain is dropped, a tilde alone or a domain that is spared lets the
rule pass, which then acts on all pages, or on all but the spared ones. -/
theorem droppedInclusion_widens :
    ∃ everywhere elsewhere, parse "example.*,~##.ad".toList = .ok everywhere ∧
      everywhere.convert = .ok (hidingContent none none) ∧
      parse "example.*,~example.org##.ad".toList = .ok elsewhere ∧
      elsewhere.convert = .ok (hidingContent none (some ["example.org".toList])) ∧
      (∀ line ∈ ["example.*,~##.ad".toList, "example.*,~example.org##.ad".toList],
        ∃ field ∈ writtenDomains line, field.startsWith ['~'] = false) ∧
      ∀ unlessDomain, (hidingContent none unlessDomain).trigger.requiresDomain = false := by
  refine ⟨hidingRule [] [[]] "example.*,~##.ad".toList,
    hidingRule [] ["example.org".toList] "example.*,~example.org##.ad".toList,
    ?_, ?_, ?_, ?_, ?_, fun _ => rfl⟩ <;> decide +kernel

end CosmeticRule

namespace UrlRule

/-- The options behind the dollar sign, as they are written. -/
def writtenOptions (line : Text) : List Text :=
  match cutOptions? (bodyOf line) with
  | some (_, written) => fields ',' written
  | none => []

/-- The domains that all options of a line name, as they are written. -/
def writtenDomains (line : Text) : List Text :=
  (writtenOptions line).flatMap RuleOption.writtenDomains

/-- The domain can be expressed. -/
def supports (field : Text) : Bool := (DomainEntry.ofText field).isNamed

theorem Holds.options_read {line raw : Text} {options : List RuleOption}
    (holds : Holds (bodyOf line) raw options) :
    List.Forall₂ (fun text option => RuleOption.parse text = .ok option)
      (writtenOptions line) options := by
  cases holds with
  | cut found read =>
      rw [writtenOptions, found]
      exact forall₂_of_mapM_eq_ok read
  | whole absent =>
      rw [writtenOptions, absent]
      exact .nil

/-- An exception for whole pages applies to the pages of one domain. -/
def pinsDomain (rule : UrlRule) : Bool := rule.isException && rule.exemptsPages

theorem pinsDomain_of_plain {rule : UrlRule}
    (plain : rule.isException = false ∨
      rule.exemptsPages = false ∧ rule.types.contains .elemHide = false) :
    rule.pinsDomain = false := by
  rcases plain with blocks | ⟨noPages, -⟩
  · simp [pinsDomain, blocks]
  · simp [pinsDomain, noPages]

theorem Exempts.domains {rule : UrlRule} {trigger exempted : Trigger}
    (exempts : rule.Exempts trigger exempted) :
    exempted.requiresDomain = (rule.pinsDomain || trigger.requiresDomain) ∧
      exempted.isRestricted = (rule.pinsDomain || trigger.isRestricted) := by
  cases exempts with
  | unchanged plain => simp [pinsDomain_of_plain plain]
  | pinned isException exemptsPages =>
      simp [pinsDomain, isException, exemptsPages, Trigger.requiresDomain, Trigger.isRestricted]
  | documents isException exemptsPages =>
      simp [pinsDomain, exemptsPages, Trigger.requiresDomain, Trigger.isRestricted]

/-- The domains that a line names restrict a trigger as far as they are supported. A rule that is
pinned to no page requires domains exactly when a supported one that is not blank is included, and
it has a list of domains exactly when a supported one is not blank. A domain option names a
supported domain, be it blank or not, and included or not. -/
structure Restricts (line : Text) (rule : UrlRule) (trigger : Trigger) : Prop where
  requires : trigger.requiresDomain = true ↔
    rule.pinsDomain = true ∨ ∃ field ∈ writtenDomains line,
      field.startsWith ['~'] = false ∧ supports field = true ∧ trim field ≠ []
  listed : trigger.isRestricted = true ↔
    rule.pinsDomain = true ∨ ∃ field ∈ writtenDomains line,
      supports field = true ∧ trim (DomainEntry.ofText field).name ≠ []
  guarded : (∃ option ∈ writtenOptions line, RuleOption.isDomains option = true) →
    ∃ field ∈ writtenDomains line, supports field = true

/-- A URL rule is restricted to the supported ones of the domains that its options name. -/
theorem options_restrict {line : Text} {rule : UrlRule} {content : ContentRule}
    (parsed : parse line = .ok rule) (converted : rule.convert = .ok content) :
    Restricts line rule content.trigger := by
  obtain ⟨_, _, scope, -, -, resolved, exempts, -⟩ := convert_eq_ok converted
  obtain ⟨raw, options, pattern, holds, -, -, rfl⟩ := parse_eq_ok parsed
  obtain ⟨included, excluded⟩ := OptionSet.ofList_domains options
  have entries := RuleOption.entries_of_parseAll holds.options_read
  change DomainScope.ofNames (OptionSet.ofList options).includedDomains
    (OptionSet.ofList options).excludedDomains = .ok scope at resolved
  rw [included, excluded, entries] at resolved
  constructor
  case requires =>
    rw [exempts.domains.1, Bool.or_eq_true, DomainScope.narrow_requiresDomain resolved rfl,
      DomainEntry.exists_included_iff]
    rfl
  case listed =>
    rw [exempts.domains.2, Bool.or_eq_true, DomainScope.narrow_isRestricted resolved rfl,
      DomainEntry.exists_name_iff]
    rfl
  case guarded =>
    rintro ⟨text, member, isDomains⟩
    obtain ⟨option, present, read⟩ := exists_image_of_forall₂ holds.options_read member
    have someEntry := (RuleOption.means_of_parse read).entries_eq.2 isDomains
    obtain ⟨entry, listed⟩ := List.exists_mem_of_ne_nil _ someEntry
    have among : entry ∈ options.flatMap RuleOption.entries :=
      List.mem_flatMap.mpr ⟨option, present, listed⟩
    rw [entries] at among
    obtain ⟨fromField, named⟩ := List.mem_filter.mp among
    obtain ⟨field, written, rfl⟩ := List.mem_map.mp fromField
    exact ⟨field, written, named⟩

/-- The rule that blocks a host on some pages. -/
def hostRule (types : TypeMask) (includedDomains excludedDomains : List Text) (line : Text) :
    UrlRule :=
  { pattern := {
      regex := none
      derived := some "^[^:]+:(//)?([^/]+\\.)?ads\\.com([^a-zA-Z0-9_.%-]|$)".toList
      raw := "||ads.com^".toList }
    types
    isException := false
    thirdParty := none
    matchCase := false
    includedDomains
    excludedDomains
    line }

/-- The rule that blocks a host, as it is converted. -/
def hostContent (resourceTypes : Option (List ResourceType))
    (ifDomain unlessDomain : Option (List Text)) : ContentRule :=
  { trigger := {
      Trigger.ofUrlFilter "^[^:]+:(//)?([^/]+\\.)?ads\\.com([^a-zA-Z0-9_.%-])".toList with
      resourceTypes
      ifDomain
      unlessDomain }
    action := .block }

/-- The rule of a line with one supported domain among others. -/
def mixedRule : UrlRule :=
  hostRule .image ["Example.com".toList] [] "||ads.com^$domain=/re/|Example.com,image".toList

/-- The rule with one supported domain, as it is converted. -/
def mixedContent : ContentRule :=
  hostContent (some [.image]) (some ["example.com".toList]) none

theorem options_restrict_mixed :
    parse mixedRule.line = .ok mixedRule ∧ mixedRule.convert = .ok mixedContent ∧
      Restricts mixedRule.line mixedRule mixedContent.trigger := by
  have parsed : parse mixedRule.line = .ok mixedRule := by decide +kernel
  have converted : mixedRule.convert = .ok mixedContent := by decide +kernel
  exact ⟨parsed, converted, options_restrict parsed converted⟩

/-- A domain option that names a blank leaves the rule without a list of domains, and one whose
included domain is dropped leaves it with a list of spared domains only. -/
theorem droppedDomain_widens :
    ∃ everywhere elsewhere, parse "||ads.com^$domain= ,image".toList = .ok everywhere ∧
      everywhere.convert = .ok (hostContent (some [.image]) none none) ∧
      parse "||ads.com^$domain=/re/|~example.org".toList = .ok elsewhere ∧
      elsewhere.convert = .ok (hostContent none none (some ["example.org".toList])) ∧
      (∀ line ∈ ["||ads.com^$domain= ,image".toList,
          "||ads.com^$domain=/re/|~example.org".toList],
        ∃ field ∈ writtenDomains line, field ≠ [] ∧ field.startsWith ['~'] = false) ∧
      (hostContent (some [.image]) none none).trigger.isRestricted = false ∧
      (hostContent none none (some ["example.org".toList])).trigger.requiresDomain = false := by
  refine ⟨hostRule .image [" ".toList] [] "||ads.com^$domain= ,image".toList,
    hostRule .all [] ["example.org".toList] "||ads.com^$domain=/re/|~example.org".toList,
    ?_, ?_, ?_, ?_, ?_, ?_, ?_⟩ <;> decide +kernel

end UrlRule

end Blocklist
