/-
This file says which domain an exception for whole pages is pinned to. Where the mark of a domain is
found in a domain option, or nowhere, the domain is one that the rule names. It is not where the
mark is found in the pattern or in the value of another option.
-/

import Blocklist.Proofs.Content.NamedPage
import Blocklist.Proofs.Content.Restriction

namespace Blocklist

open Text

namespace RuleOption

/-- The value of a domain option stands behind the mark. -/
theorem behind?_of_isDomains {field : Text} (domains : isDomains field = true)
    (marked : field.holds NamedPage.domainMark = true) :
    NamedPage.behind? NamedPage.domainMark field = some (split field).2 := by
  have tildes : ∀ c ∈ field.takeWhile (· == '~'), NamedPage.domainMark.head? ≠ some c := by
    intro c member
    rw [beq_iff_eq.mp (List.mem_takeWhile_imp (p := (· == '~')) member)]
    decide
  have bare : NamedPage.behind? NamedPage.domainMark field =
      NamedPage.behind? NamedPage.domainMark (field.dropWhile (· == '~')) := by
    conv_lhs => rw [← List.takeWhile_append_dropWhile (p := (· == '~')) (l := field)]
    exact NamedPage.behind?_append_of_forall _ tildes (by decide)
  rw [isDomains, beq_iff_eq] at domains
  cases cut : cutFirst? '=' (field.dropWhile (· == '~')) with
  | none =>
      rw [split, cut] at domains
      have name : field.dropWhile (· == '~') = "domain".toList := domains
      have unmarked : NamedPage.behind? NamedPage.domainMark field = none := by
        rw [bare, name]
        decide
      rw [(NamedPage.behind?_eq_none_iff (by decide)).mp unmarked] at marked
      cases marked
  | some pieces =>
      obtain ⟨name, value⟩ := pieces
      rw [split, cut] at domains ⊢
      obtain rfl : name = "domain".toList := domains
      have begins : after? ('d' :: ("omain".toList ++ '=' :: value)) NamedPage.domainMark =
          some value := after?_eq_some_iff.mpr rfl
      rw [bare, (cutFirst?_eq_some_iff.mp cut).1]
      change NamedPage.behind? _ ('d' :: ("omain".toList ++ '=' :: value)) = some value
      rw [NamedPage.behind?, begins, Option.some_or]

end RuleOption

/-- The trigger for all requests of the pages of a domain. -/
def Trigger.pinnedTo (trigger : Trigger) (domain : Text) : Trigger :=
  { trigger with
    ifDomain := some [domain]
    urlFilter := Trigger.anyUrl.urlFilter
    resourceTypes := none }

namespace UrlRule

/-- The body of a rule is that of its line. -/
theorem body_eq_bodyOf (rule : UrlRule) : rule.body = bodyOf rule.line := by
  rw [body, bodyOf]
  cases found : rule.line.after? "@@".toList with
  | some behind =>
      rw [after?_eq_some_iff.mp found]
      rfl
  | none =>
      have plain : rule.line.startsWith ['@', '@'] = false := startsWith_eq_false_iff.mpr found
      rw [plain]
      rfl

/-- An exception for whole pages takes a trigger without spared domains to the domain that its body
gives, with nothing behind it. -/
theorem exempt_eq_ok_iff_of_pins {rule : UrlRule} {trigger exempted : Trigger}
    (pins : rule.pinsDomain = true) :
    rule.exempt trigger = .ok exempted ↔
      (NamedPage.ofText rule.body).isWhole = true ∧ trigger.unlessDomain = none ∧
        ∃ domain, (NamedPage.ofText rule.body).domain = some domain ∧
          exempted = trigger.pinnedTo domain := by
  obtain ⟨isException, exemptsPages⟩ := Bool.and_eq_true_iff.mp pins
  rw [exempt, isException, if_neg (by decide), if_pos exemptsPages]
  dsimp only
  constructor
  · intro succeeded
    split at succeeded
    case isTrue => cases succeeded
    case isFalse whole =>
      split at succeeded
      case h_2 => cases succeeded
      case h_1 domain named =>
        split at succeeded
        case isTrue => cases succeeded
        case isFalse noneSpared =>
          exact ⟨by simpa using whole, by simpa using noneSpared, domain, named,
            (Except.ok.inj succeeded).symm⟩
  · rintro ⟨whole, noneSpared, domain, named, rfl⟩
    have spares : ¬trigger.unlessDomain.isSome = true := by simp [noneSpared]
    rw [whole, named]
    exact if_neg spares

theorem page_of_convert {rule : UrlRule} {content : ContentRule}
    (converted : rule.convert = .ok content) (pins : rule.pinsDomain = true) :
    ∃ domain, content.trigger.ifDomain = some [domain] ∧
      (NamedPage.ofText rule.body).isWhole = true ∧
      (NamedPage.ofText rule.body).domain = some domain := by
  obtain ⟨_, _, _, trigger, -, -, -, exempted, rfl⟩ := convert_eq_ok_iff.mp converted
  obtain ⟨whole, -, domain, named, rfl⟩ := (exempt_eq_ok_iff_of_pins pins).mp exempted
  exact ⟨domain, rfl, whole, named⟩

/-- The hostname at the start of a pattern, behind its scheme. -/
def leadingHost (rule : UrlRule) : Text :=
  NamedPage.leading (NamedPage.dropScheme rule.pattern.raw)

/-- The domain is the normal form of a domain that the rule includes, or of the hostname that its
pattern begins with. -/
def NamesPage (rule : UrlRule) (domain : Text) : Prop :=
  (∃ name ∈ rule.includedDomains, Hostname.normalize? name = some domain) ∨
    Hostname.normalize? rule.leadingHost = some domain

/-- The mark of a domain is not in the pattern, and the first option that has it is one for domains,
whose value has no slash and no separator. -/
structure ReadsOwnPage (line : Text) (rule : UrlRule) : Prop where
  pattern : rule.pattern.raw.holds NamedPage.domainMark = false
  option : ∀ field, (writtenOptions line).find? (·.holds NamedPage.domainMark) = some field →
    RuleOption.isDomains field = true ∧
      (RuleOption.split field).2.any NamedPage.endsDomain = false

/-- The domain comes from a place where the rule does not name its page: from the pattern, from the
value of an option that is not for domains, or from the start of an included domain. -/
inductive MistakenPage (line : Text) (rule : UrlRule) (domain : Text) : Prop
  | pattern {before address rest : Text}
      (raw : rule.pattern.raw = before ++ NamedPage.domainMark ++ (address ++ ',' :: rest))
      (names : NamedPage.NamesDomain address domain) : MistakenPage line rule domain
  | value {field before address : Text} (written : field ∈ writtenOptions line)
      (noDomains : RuleOption.isDomains field = false)
      (marked : field = before ++ NamedPage.domainMark ++ address)
      (names : NamedPage.NamesDomain address domain) : MistakenPage line rule domain
  | start {address : Text} (included : address ∈ rule.includedDomains)
      (ends : address.any NamedPage.endsDomain = true)
      (names : NamedPage.NamesDomain address domain) : MistakenPage line rule domain

section Pin

variable {line : Text} {rule : UrlRule}

/-- A rule without options is not for whole pages. -/
theorem pinsDomain_of_noOptions (usual : rule.types = (OptionSet.ofList []).types) :
    rule.pinsDomain = false := by
  have noPages : rule.exemptsPages = false := by
    rw [exemptsPages, usual]
    rfl
  rw [pinsDomain, noPages, Bool.and_false]

/-- An exception for whole pages has options. -/
theorem exists_cut_of_pins (parsed : parse line = .ok rule) (pins : rule.pinsDomain = true) :
    ∃ written, cutOptions? (bodyOf line) = some (rule.pattern.raw, written) := by
  obtain ⟨raw, options, holds, made⟩ := holds_of_parse parsed
  rw [made.raw]
  cases holds with
  | cut found => exact ⟨_, found⟩
  | whole =>
      rw [pinsDomain_of_noOptions made.types] at pins
      cases pins

theorem body_of_cut {written : Text} (parsed : parse line = .ok rule)
    (cut : cutOptions? (bodyOf line) = some (rule.pattern.raw, written)) :
    rule.body = rule.pattern.raw ++ '$' :: written := by
  rw [body_eq_bodyOf, line_of_parse parsed]
  exact eq_append_of_cutOptions? cut

theorem exists_options_of_pins (parsed : parse line = .ok rule) (pins : rule.pinsDomain = true) :
    ∃ written options, rule.body = rule.pattern.raw ++ '$' :: written ∧
      writtenOptions line = fields ',' written ∧
      List.Forall₂ (fun text option => RuleOption.parse text = .ok option)
        (writtenOptions line) options ∧
      rule.includedDomains = (OptionSet.ofList options).includedDomains := by
  obtain ⟨written, cut⟩ := exists_cut_of_pins parsed pins
  obtain ⟨raw, options, holds, made⟩ := holds_of_parse parsed
  refine ⟨written, options, body_of_cut parsed cut, ?_, holds.options_read, made.includedDomains⟩
  rw [writtenOptions, cut]

/-- The value of a domain option that gives an address is an included domain. -/
theorem mem_includedDomains {options : List RuleOption} {field domain : Text}
    (read : List.Forall₂ (fun text option => RuleOption.parse text = .ok option)
      (writtenOptions line) options)
    (written : field ∈ writtenOptions line) (domains : RuleOption.isDomains field = true)
    (names : NamedPage.NamesDomain (RuleOption.split field).2 domain) :
    (RuleOption.split field).2 ∈ (OptionSet.ofList options).includedDomains := by
  have single : RuleOption.writtenDomains field = [(RuleOption.split field).2] := by
    rw [RuleOption.writtenDomains, if_pos domains,
      fields_eq_singleton (names.not_mem '|' (by decide))]
  have included : (RuleOption.split field).2.startsWith ['~'] = false := by
    rw [Bool.eq_false_iff, ne_eq, startsWith_single]
    rintro ⟨rest, tilde⟩
    exact names.not_mem '~' (by decide) (tilde ▸ List.mem_cons_self)
  -- The option has an entry, so that its only one is kept.
  obtain ⟨option, -, parsed⟩ := exists_image_of_forall₂ read written
  obtain ⟨entries, someEntry⟩ := (RuleOption.means_of_parse parsed).entries_eq
  have kept : (DomainEntry.ofText (RuleOption.split field).2).isNamed = true := by
    by_contra dropped
    apply someEntry domains
    rw [entries, single]
    simp [dropped]
  rw [(OptionSet.ofList_domains options).1, RuleOption.entries_of_parseAll read]
  have present : ∃ name ∈ DomainEntry.included _, name = (RuleOption.split field).2 :=
    DomainEntry.exists_included_iff.mpr ⟨_, List.mem_flatMap.mpr
      ⟨field, written, single ▸ List.mem_singleton_self _⟩, included, kept, rfl⟩
  obtain ⟨name, member, rfl⟩ := present
  exact member

/-- The first option with the mark gives the page, if the pattern has no mark. -/
theorem page_of_option {options : List RuleOption} {written field domain : Text}
    (read : List.Forall₂ (fun text option => RuleOption.parse text = .ok option)
      (writtenOptions line) options)
    (included : rule.includedDomains = (OptionSet.ofList options).includedDomains)
    (asFields : writtenOptions line = fields ',' written)
    (unmarked : NamedPage.behind? NamedPage.domainMark rule.pattern.raw = none)
    (first : (writtenOptions line).find? (·.holds NamedPage.domainMark) = some field)
    (names : NamedPage.NamesDomain
      (NamedPage.address (rule.pattern.raw ++ '$' :: written)) domain) :
    (ReadsOwnPage line rule → NamesPage rule domain) ∧
      (¬ReadsOwnPage line rule → MistakenPage line rule domain) := by
  have present : field ∈ writtenOptions line := List.mem_of_find?_eq_some first
  have marked : field.holds NamedPage.domainMark = true :=
    List.find?_some (p := fun field : Text => field.holds NamedPage.domainMark) first
  have noPattern := (NamedPage.behind?_eq_none_iff (by decide)).mp unmarked
  cases domains : RuleOption.isDomains field with
  | true =>
      rw [NamedPage.address_of_option unmarked (asFields ▸ first)
        (RuleOption.behind?_of_isDomains domains marked)] at names
      have member := mem_includedDomains read present domains names
      rw [← included] at member
      cases ends : (RuleOption.split field).2.any NamedPage.endsDomain with
      | false =>
          refine ⟨fun _ => .inl ⟨_, member, names.normalize?_eq ends⟩, fun notOwn => ?_⟩
          refine absurd ⟨noPattern, fun other found => ?_⟩ notOwn
          obtain rfl := Option.some.inj (first.symm.trans found)
          exact ⟨domains, ends⟩
      | true =>
          refine ⟨fun own => ?_, fun _ => .start member ends names⟩
          have alone := (own.option field first).2
          rw [ends] at alone
          cases alone
  | false =>
      obtain ⟨value, found⟩ : ∃ value,
          NamedPage.behind? NamedPage.domainMark field = some value := by
        rw [← Option.ne_none_iff_exists', ne_eq, NamedPage.behind?_eq_none_iff (by decide), marked]
        exact Bool.noConfusion
      obtain ⟨before, same⟩ := NamedPage.exists_before_of_behind? found
      rw [NamedPage.address_of_option unmarked (asFields ▸ first) found] at names
      refine ⟨fun own => ?_, fun _ => .value present domains same names⟩
      have contrary := (own.option field first).1
      rw [domains] at contrary
      cases contrary

/-- An exception for whole pages is pinned to one domain. It is the normal form of a domain that the
rule names, if the mark of a domain is found in the right place, and mistaken otherwise. -/
theorem pinned_domain {content : ContentRule} (parsed : parse line = .ok rule)
    (converted : rule.convert = .ok content) (pins : rule.pinsDomain = true) :
    ∃ domain, content.trigger.ifDomain = some [domain] ∧
      (ReadsOwnPage line rule → NamesPage rule domain) ∧
      (¬ReadsOwnPage line rule → MistakenPage line rule domain) := by
  obtain ⟨domain, pinned, whole, named⟩ := page_of_convert converted pins
  obtain ⟨written, options, body, asFields, read, included⟩ := exists_options_of_pins parsed pins
  have names := NamedPage.namesDomain_of_ofText whole named
  rw [body] at names
  refine ⟨domain, pinned, ?_⟩
  cases marked : NamedPage.behind? NamedPage.domainMark rule.pattern.raw with
  | some behind =>
      obtain ⟨rest, split⟩ := NamedPage.exists_rest_of_pattern marked names
      obtain ⟨before, raw⟩ := NamedPage.exists_before_of_behind? marked
      rw [split] at raw
      refine ⟨fun own => ?_, fun _ => .pattern raw names⟩
      rw [(NamedPage.behind?_eq_none_iff (by decide)).mpr own.pattern] at marked
      cases marked
  | none =>
      cases first : (writtenOptions line).find? (·.holds NamedPage.domainMark) with
      | some field => exact page_of_option read included asFields marked first names
      | none =>
          have normal := names.normal
          rw [NamedPage.address_of_unmarked marked (asFields ▸ first) names] at normal
          refine ⟨fun _ => .inr normal, fun notOwn => absurd ⟨?_, fun field found => ?_⟩ notOwn⟩
          · exact (NamedPage.behind?_eq_none_iff (by decide)).mp marked
          · rw [first] at found
            cases found

end Pin

/-- The exception for the pages of a domain, with a path below another host. -/
def pageRule (path derivedPath includedDomain : Text) : UrlRule :=
  ofParts ("@@||example.com/".toList ++ path ++ "$document,domain=".toList ++ includedDomain)
    ⟨none, some ("^[^:]+:(//)?([^/]+\\.)?example\\.com/".toList ++ derivedPath),
      "||example.com/".toList ++ path⟩
    { OptionSet.empty with
      includedDomains := [includedDomain]
      pageExceptions := .document }

/-- The exception for the pages of a domain, as it is converted. -/
def pageContent (domain : Text) : ContentRule :=
  ⟨{ Trigger.anyUrl with ifDomain := some [domain] }, .ignorePreviousRules none⟩

/-- The exception with a query in its pattern. -/
def queryRule : UrlRule := pageRule "?q=1".toList "\\?q=1".toList "Example.org".toList

theorem pinned_domain_query :
    parse queryRule.line = .ok queryRule ∧ queryRule.pinsDomain = true ∧
      queryRule.convert = .ok (pageContent "example.org".toList) ∧
      queryRule.NamesPage "example.org".toList := by
  have parsed : parse queryRule.line = .ok queryRule := by decide +kernel
  have converted : queryRule.convert = .ok (pageContent "example.org".toList) := by
    decide +kernel
  have own : ReadsOwnPage queryRule.line queryRule := by
    refine ⟨by decide +kernel, fun field found => ?_⟩
    have first : (writtenOptions queryRule.line).find? (·.holds NamedPage.domainMark) =
        some "domain=Example.org".toList := by decide +kernel
    obtain rfl := Option.some.inj (first.symm.trans found)
    exact ⟨by decide, by decide⟩
  obtain ⟨domain, pinned, names, -⟩ := pinned_domain parsed converted rfl
  obtain rfl : "example.org".toList = domain := by simpa [pageContent] using pinned
  exact ⟨parsed, rfl, converted, names own⟩

/-- The exception with the mark of a domain in the query of its pattern. -/
def mistakenRule : UrlRule :=
  pageRule "?domain=evil.com,".toList "\\?domain=evil\\.com,".toList "example.org".toList

/-- A query takes an exception to a domain that its rule does not name. -/
theorem mistakenPage_query :
    parse mistakenRule.line = .ok mistakenRule ∧ mistakenRule.pinsDomain = true ∧
      mistakenRule.convert = .ok (pageContent "evil.com".toList) ∧
      ¬mistakenRule.NamesPage "evil.com".toList := by
  refine ⟨by decide +kernel, rfl, by decide +kernel, ?_⟩
  rintro (⟨name, included, normal⟩ | normal)
  · rw [List.mem_singleton.mp included] at normal
    exact absurd normal (by decide +kernel)
  · exact absurd normal (by decide +kernel)

end UrlRule

end Blocklist
