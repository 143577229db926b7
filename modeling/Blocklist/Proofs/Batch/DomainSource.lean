/-
This file says what the domains of a report are made of. Each is a star in front of the normal form
of a name that a rule of the list gives, also where an exception brings it into another rule. What
follows the star is a domain exactly when that name is not hollow.
-/

import Blocklist.Proofs.Batch.Output
import Blocklist.Proofs.Content.DomainSource
import Blocklist.Proofs.Hostname.Labels

namespace Blocklist

namespace Trigger

theorem mem_domains_of_foldl_exclude {domains : List Text} {trigger : Trigger} {domain : Text}
    (member : domain ∈ (domains.foldl exclude trigger).domains) :
    domain ∈ trigger.domains ∨ domain ∈ domains := by
  rw [Trigger.domains, List.mem_append, foldl_exclude_ifDomain, mem_foldl_exclude] at member
  rw [Trigger.domains, List.mem_append]
  rcases member with required | old | ⟨new, -⟩
  · exact .inl (.inl required)
  · exact .inl (.inr old)
  · exact .inr new

theorem widen_domains (trigger : Trigger) :
    trigger.widen.domains = trigger.domains.map ('*' :: ·) := by
  cases required : trigger.ifDomain <;> cases excluded : trigger.unlessDomain <;>
    simp [domains, widen, required, excluded]

end Trigger

/-- An item of the list is read as a rule that gives the name. -/
def GivesName (parser : FilterRule.Parser) (sources : List Source) (name : Text) : Prop :=
  ∃ source ∈ sources, ∃ rule, source.rule? parser = some rule ∧ name ∈ rule.names

/-- The text is the normal form of a name that the list gives. -/
def GivesDomain (parser : FilterRule.Parser) (sources : List Source) (domain : Text) : Prop :=
  ∃ name, GivesName parser sources name ∧ Hostname.normalize? name = some domain

section Fates

variable {parser : FilterRule.Parser} {sources : List Source} {exceptions : List ContentRule}
  {source : Source} (present : source ∈ sources)
include present

theorem givesDomain_of_convert {rule : FilterRule} {content : ContentRule} {domain : Text}
    (read : source.rule? parser = some rule) (converted : rule.convert = .ok content)
    (member : domain ∈ content.trigger.domains) : GivesDomain parser sources domain := by
  obtain ⟨name, given, normal⟩ := FilterRule.exists_name_of_convert converted member
  exact ⟨name, ⟨source, present, rule, read, given⟩, normal⟩

/-- A folded exception has the domains of its own item. -/
theorem Fate.Of.folded_domains {exception : ContentRule}
    (deserved : Fate.Of parser exceptions source (.folded exception)) :
    ∀ domain ∈ exception.trigger.domains, GivesDomain parser sources domain := by
  intro domain member
  cases deserved with
  | exception read converted => exact givesDomain_of_convert present read converted member

/-- An emitted rule has the domains of its own item and of the exceptions. -/
theorem Fate.Of.emitted_domains {rule : ContentRule}
    (given : ∀ exception ∈ exceptions, ∀ domain ∈ exception.trigger.domains,
      GivesDomain parser sources domain)
    (deserved : Fate.Of parser exceptions source (.emitted rule)) :
    ∀ domain ∈ rule.trigger.domains, GivesDomain parser sources domain := by
  intro domain member
  cases deserved with
  | somewhere read converted =>
      rcases Trigger.mem_domains_of_foldl_exclude member with own | brought
      · exact givesDomain_of_convert present read converted own
      · obtain ⟨exception, folded, -, -, required⟩ := ContentRule.mem_exceptionDomains.mp brought
        exact given exception folded domain (List.mem_append_left _ required)
  | unselected read converted => exact givesDomain_of_convert present read converted member

end Fates

/-- The domains of a report have a star in front, and the list gives them. -/
theorem Ledger.rules_domains {parser : FilterRule.Parser} {sources : List Source}
    {fates : List Fate} {report : Report} (ledger : Ledger parser sources fates report) :
    ∀ rule ∈ report.rules, ∀ entry ∈ rule.trigger.domains,
      ∃ domain, entry = '*' :: domain ∧ GivesDomain parser sources domain := by
  have exceptions : ∀ exception ∈ fates.filterMap Fate.exception?,
      ∀ domain ∈ exception.trigger.domains, GivesDomain parser sources domain := by
    intro exception member
    obtain ⟨fate, present, folded⟩ := List.mem_filterMap.mp member
    obtain rfl := Fate.eq_folded_of_exception? folded
    obtain ⟨source, inList, deserved⟩ := ledger.exists_source present
    exact deserved.folded_domains inList
  intro rule member entry listed
  obtain ⟨narrow, rfl, origin⟩ := ledger.exists_emitted member
  change entry ∈ narrow.trigger.widen.domains at listed
  rw [Trigger.widen_domains] at listed
  obtain ⟨domain, inNarrow, rfl⟩ := List.mem_map.mp listed
  refine ⟨domain, rfl, ?_⟩
  rcases origin with everywhere | emitted
  · rw [everywhere, Trigger.domains_anyUrl] at inNarrow
    cases inNarrow
  · obtain ⟨source, inList, deserved⟩ := ledger.exists_source emitted
    exact deserved.emitted_domains inList exceptions domain inNarrow

namespace Report

/-- Every list with an item is converted under every limit, and each domain that is read from the
text of the report is a star in front of the normal form of a name that the list gives. The star
stands in front of a domain exactly when the name is not hollow. -/
theorem converted_domains (parser : FilterRule.Parser) (limit : Option Int) (first : Source)
    (rest : List Source) :
    ∃ report rules, ofSources parser limit (first :: rest) = .ok report ∧
      ContentRule.readAll? report.converted = some rules ∧
      ∀ rule ∈ rules, ∀ entry ∈ rule.trigger.domains,
        ∃ name domain, GivesName parser (first :: rest) name ∧
          Hostname.normalize? name = some domain ∧ entry = '*' :: domain ∧
          (Hostname.IsDomain domain ↔ Hostname.isHollow name = false) := by
  obtain ⟨full, fates, succeeded, ledger⟩ := Ledger.exists_ofItems parser first rest
  obtain ⟨report, succeededToo, rules⟩ := ofSources_prefix parser limit (first :: rest) succeeded
  refine ⟨report, report.rules, succeededToo, ContentRule.readAll?_writeAll report.rules, ?_⟩
  intro rule member entry listed
  obtain ⟨domain, starred, name, given, normal⟩ :=
    ledger.rules_domains rule (rules.subset member) entry listed
  exact ⟨name, domain, given, normal, starred, Hostname.isDomain_normalize? normal⟩

/-- The rules of a list with one hiding line, in the text of its report. -/
def HidesOn (line : Text) (ifDomain unlessDomain : Option (List Text)) : Prop :=
  ∃ report, ofSources FilterRule.parse none [.written line] = .ok report ∧
    ContentRule.readAll? report.converted =
      some [⟨{ Trigger.anyUrl with ifDomain, unlessDomain }, .cssDisplayNone ".ad".toList⟩]

theorem hidesOn_of_rules {line : Text} {ifDomain unlessDomain : Option (List Text)}
    (rules : (ofSources FilterRule.parse none [.written line]).map Report.rules =
      .ok [⟨{ Trigger.anyUrl with ifDomain, unlessDomain }, .cssDisplayNone ".ad".toList⟩]) :
    HidesOn line ifDomain unlessDomain := by
  obtain ⟨report, succeeded, emitted⟩ := map_eq_ok.mp rules
  refine ⟨report, succeeded, ?_⟩
  rw [converted, emitted]
  exact ContentRule.readAll?_writeAll _

/-- A star that a domain is written with gets another one in front, and a name of characters that
are dropped leaves a star alone. In neither entry the star stands in front of a domain. -/
theorem hollowNames_emitted :
    HidesOn "*.example.com##.ad".toList (some ['*' :: "*.example.com".toList]) none ∧
      HidesOn "~\u00ad,~shop.com##.ad".toList none (some ['*' :: [], "*shop.com".toList]) ∧
      ¬Hostname.IsDomain "*.example.com".toList ∧ ¬Hostname.IsDomain [] := by
  refine ⟨hidesOn_of_rules (by decide +kernel), hidesOn_of_rules (by decide +kernel), ?_, ?_⟩
  · exact fun domain => Hostname.isDomain_cons.mp domain rfl
  · exact fun domain => domain.1 rfl

end Report

end Blocklist
