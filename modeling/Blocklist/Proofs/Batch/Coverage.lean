/-
This file says on which hosts the hiding rules of a report act, and that a cosmetic exception
keeps them from its hosts: only rules for proper subdomains of the exception still act there.
-/

import Blocklist.Proofs.Batch.Ledger

namespace Blocklist

namespace Hostname

/-- A domain covers itself and its subdomains. -/
def covers (domain host : Text) : Bool := host == domain || host.endsWith ('.' :: domain)

theorem covers_iff {domain host : Text} :
    covers domain host = true ↔ host = domain ∨ '.' :: domain <:+ host := by
  simp [covers, Text.endsWith, List.isSuffixOf_iff_suffix]

/-- Of two domains that cover a host, one covers the other. -/
theorem covers_or_covers {first second host : Text} (firstCovers : covers first host = true)
    (secondCovers : covers second host = true) :
    covers first second = true ∨ covers second first = true := by
  rw [covers_iff] at firstCovers secondCovers
  rcases firstCovers with rfl | firstSuffix
  · exact .inr (covers_iff.mpr secondCovers)
  rcases secondCovers with rfl | secondSuffix
  · exact .inl (covers_iff.mpr (.inr firstSuffix))
  rcases List.suffix_or_suffix_of_suffix firstSuffix secondSuffix with inSecond | inFirst
  · rcases List.suffix_cons_iff.mp inSecond with same | proper
    · exact .inl (covers_iff.mpr (.inl (List.cons.inj same).2.symm))
    · exact .inl (covers_iff.mpr (.inr proper))
  · rcases List.suffix_cons_iff.mp inFirst with same | proper
    · exact .inr (covers_iff.mpr (.inl (List.cons.inj same).2.symm))
    · exact .inr (covers_iff.mpr (.inr proper))

theorem infix_of_covers {domain host : Text} (covered : covers domain host = true) :
    domain <:+: host := by
  rcases covers_iff.mp covered with rfl | suffix
  · exact List.infix_refl host
  · exact ((List.suffix_cons '.' domain).trans suffix).isInfix

end Hostname

open Hostname

namespace Trigger

/-- The pages on a host are among those that the lists of domains select. -/
def appliesTo (trigger : Trigger) (host : Text) : Bool :=
  match trigger.ifDomain, trigger.unlessDomain with
  | some required, _ => required.any fun domain => covers domain host
  | none, some excluded => !excluded.any fun domain => covers domain host
  | none, none => true

theorem appliesTo_of_required {trigger : Trigger} {required : List Text} {host : Text}
    (restricted : trigger.ifDomain = some required) :
    trigger.appliesTo host = true ↔ ∃ name ∈ required, covers name host = true := by
  simp [appliesTo, restricted]

theorem not_appliesTo_of_excluded {trigger : Trigger} {domain host : Text}
    (unrestricted : trigger.ifDomain = none) (excluded : domain ∈ trigger.unlessDomain.getD [])
    (covered : covers domain host = true) : trigger.appliesTo host = false := by
  cases list : trigger.unlessDomain with
  | none => simp [list] at excluded
  | some domains =>
      rw [list, Option.getD_some] at excluded
      simp only [appliesTo, unrestricted, list, Bool.not_eq_false', List.any_eq_true]
      exact ⟨domain, excluded, covered⟩

/-- After an exception a trigger without a conflict acts on the hosts of the exception only for
the proper subdomains that it names. -/
theorem appliesTo_foldl_exclude {trigger : Trigger} {domains : List Text} {domain host : Text}
    (agrees : (domains.foldl exclude trigger).hasConflict = false) (member : domain ∈ domains)
    (covered : covers domain host = true) :
    (domains.foldl exclude trigger).appliesTo host = true ↔
      ∃ name ∈ trigger.ifDomain.getD [],
        covers name host = true ∧ covers domain name = true ∧ name ≠ domain := by
  cases required : trigger.ifDomain with
  | none =>
      have reached : trigger.reaches domain = true := by simp [reaches, required]
      have excluded : domain ∈ (domains.foldl exclude trigger).unlessDomain.getD [] :=
        mem_foldl_exclude.mpr (.inr ⟨member, reached⟩)
      have unrestricted : (domains.foldl exclude trigger).ifDomain = none := by
        rw [foldl_exclude_ifDomain, required]
      rw [not_appliesTo_of_excluded unrestricted excluded covered]
      simp
  | some names =>
      have restricted : (domains.foldl exclude trigger).ifDomain = some names := by
        rw [foldl_exclude_ifDomain, required]
      rw [appliesTo_of_required restricted, Option.getD_some]
      constructor
      · rintro ⟨name, present, nameCovers⟩
        have unreached : ¬ name <:+: domain := by
          intro inside
          have reached : trigger.reaches domain = true := by
            simp only [reaches, required, Option.getD_some, Bool.or_eq_true, List.any_eq_true]
            exact .inr ⟨name, present, Text.holds_iff.mpr inside⟩
          have excluded : domain ∈ (domains.foldl exclude trigger).unlessDomain.getD [] :=
            mem_foldl_exclude.mpr (.inr ⟨member, reached⟩)
          simp only [hasConflict, restricted, Option.getD_some, Bool.and_eq_false_iff,
            Bool.not_eq_false', List.isEmpty_iff] at agrees
          rcases agrees with noNames | noneExcluded
          · exact List.ne_nil_of_mem present noNames
          · exact List.ne_nil_of_mem excluded noneExcluded
        refine ⟨name, present, nameCovers, ?_, ?_⟩
        · rcases covers_or_covers covered nameCovers with below | above
          · exact below
          · exact absurd (infix_of_covers above) unreached
        · rintro rfl
          exact unreached (List.infix_refl name)
      · rintro ⟨name, present, nameCovers, -, -⟩
        exact ⟨name, present, nameCovers⟩

end Trigger

namespace Fate

/-- The rule that an item hides by, alone or with others, before the stars are put in. -/
def hidingRule? : Fate → Option ContentRule
  | .packed selector => some ⟨Trigger.anyUrl, .cssDisplayNone selector⟩
  | .emitted rule => if rule.role = .hide then some rule else none
  | _ => none

/-- What hides something is a rule after its exceptions, without a conflict. -/
theorem Of.hidingRule {parser : FilterRule.Parser} {exceptions : List ContentRule}
    {source : Source} {fate : Fate} {rule : ContentRule}
    (deserved : Of parser exceptions source fate) (hides : fate.hidingRule? = some rule) :
    ∃ content : ContentRule, rule = content.spared exceptions ∧
      rule.trigger.hasConflict = false := by
  cases deserved with
  | @everywhere _ _ content selector _ _ _ unrestricted =>
      obtain rfl := Option.some.inj hides
      exact ⟨content, unrestricted.symm, rfl⟩
  | @somewhere _ _ content _ _ _ _ agrees _ =>
      rw [hidingRule?] at hides
      split at hides
      case isTrue =>
        obtain rfl := Option.some.inj hides
        exact ⟨content, rfl, agrees⟩
      case isFalse => cases hides
  | unselected _ _ unselected =>
      rw [hidingRule?, if_neg (ContentRule.role_of_unselected unselected).1] at hides
      cases hides
  | _ => cases hides

end Fate

namespace Ledger

/-- A cosmetic exception is honoured on all its hosts, except by rules that name a proper
subdomain of it: these act on the hosts of the exception that the subdomain covers. -/
theorem hidingRules_spare {parser : FilterRule.Parser} {sources : List Source} {report : Report}
    (succeeded : Report.ofSources parser none sources = .ok report) :
    ∃ fates, Ledger parser sources fates report ∧
      ∀ source ∈ sources, ∀ rule content selector domain host,
        source.rule? parser = some rule → rule.convert = .ok content →
        content.action = .ignorePreviousRules (some selector) →
        domain ∈ content.trigger.ifDomain.getD [] → covers domain host = true →
        ∀ hiddenBy ∈ fates.filterMap Fate.hidingRule?,
          hiddenBy.action = .cssDisplayNone selector →
          (hiddenBy.trigger.appliesTo host = true ↔
            ∃ name ∈ hiddenBy.trigger.ifDomain.getD [],
              covers name host = true ∧ covers domain name = true ∧ name ≠ domain) := by
  obtain ⟨fates, ledger⟩ := exists_ofReport succeeded
  refine ⟨fates, ledger, ?_⟩
  intro source member rule content selector domain host read converted excepts listed covered
    hiddenBy hidden action
  have folded : content ∈ fates.filterMap Fate.exception? := by
    obtain ⟨fate, present, deserved⟩ := ledger.exists_fate member
    obtain rfl : fate = .folded content :=
      Fate.of_unique deserved (.exception read converted excepts)
    exact List.mem_filterMap.mpr ⟨.folded content, present, rfl⟩
  obtain ⟨fate, present, hides⟩ := List.mem_filterMap.mp hidden
  obtain ⟨hidingSource, -, deserved⟩ := ledger.exists_source present
  obtain ⟨original, rfl, agrees⟩ := deserved.hidingRule hides
  have originalAction : original.action = .cssDisplayNone selector := action
  have spares : domain ∈ original.exceptionDomains (fates.filterMap Fate.exception?) := by
    refine ContentRule.mem_exceptionDomains.mpr ⟨content, folded, ?_, ?_, listed⟩
    · rw [excepts]
      rfl
    · rw [excepts, originalAction]
      rfl
  have sameNames :
      (original.spared (fates.filterMap Fate.exception?)).trigger.ifDomain =
        original.trigger.ifDomain := Trigger.foldl_exclude_ifDomain _ _
  rw [sameNames]
  exact Trigger.appliesTo_foldl_exclude agrees spares covered

/-- The cosmetic exception for a host, as it is read from its line. -/
def cosmeticException : CosmeticRule :=
  { selector := ".ad".toList
    includedDomains := ["example.com".toList]
    excludedDomains := []
    isException := true
    isInjected := false
    line := "example.com#@#.ad".toList }

/-- The cosmetic exception for a host, as it is converted. -/
def cosmeticExceptionContent : ContentRule :=
  ⟨{ Trigger.anyUrl with ifDomain := some ["example.com".toList] },
    .ignorePreviousRules (some ".ad".toList)⟩

theorem hidingRules_spare_everywhere :
    ∃ report fates, Report.ofSources FilterRule.parse none
        [.written "##.ad".toList, .written "example.com#@#.ad".toList] = .ok report ∧
      Ledger FilterRule.parse
        [.written "##.ad".toList, .written "example.com#@#.ad".toList] fates report ∧
      ∀ hiddenBy ∈ fates.filterMap Fate.hidingRule?,
        hiddenBy.action = .cssDisplayNone ".ad".toList →
        (hiddenBy.trigger.appliesTo "www.example.com".toList = true ↔
          ∃ name ∈ hiddenBy.trigger.ifDomain.getD [],
            covers name "www.example.com".toList = true ∧
            covers "example.com".toList name = true ∧ name ≠ "example.com".toList) := by
  obtain ⟨report, -, succeeded, -⟩ := exists_ofItems FilterRule.parse
    (.written "##.ad".toList) [.written "example.com#@#.ad".toList]
  obtain ⟨fates, ledger, honoured⟩ := hidingRules_spare succeeded
  refine ⟨report, fates, succeeded, ledger, ?_⟩
  have read : (Source.written "example.com#@#.ad".toList).rule? FilterRule.parse =
      some (.cosmetic cosmeticException) := by decide +kernel
  have converted : (FilterRule.cosmetic cosmeticException).convert =
      .ok cosmeticExceptionContent := by decide +kernel
  exact honoured (.written "example.com#@#.ad".toList) (by simp) _ cosmeticExceptionContent
    ".ad".toList "example.com".toList "www.example.com".toList read converted rfl
    List.mem_cons_self (by decide)

/-- A rule for a subdomain acts there in spite of the exception for the domain above. -/
theorem subdomainRule_acts :
    ∃ (content hiddenBy : ContentRule) (report : Report),
      (FilterRule.cosmetic cosmeticException).convert = .ok content ∧
      (Source.written "example.com#@#.ad".toList).rule? FilterRule.parse =
        some (.cosmetic cosmeticException) ∧
      content.action = .ignorePreviousRules (some ".ad".toList) ∧
      "example.com".toList ∈ content.trigger.ifDomain.getD [] ∧
      covers "example.com".toList "sub.example.com".toList = true ∧
      Report.ofSources FilterRule.parse none
        [.written "sub.example.com##.ad".toList, .written "example.com#@#.ad".toList] =
          .ok report ∧
      hiddenBy.action = .cssDisplayNone ".ad".toList ∧ hiddenBy.widen ∈ report.rules ∧
      hiddenBy.trigger.appliesTo "sub.example.com".toList = true := by
  let hiddenBy : ContentRule :=
    ⟨{ Trigger.anyUrl with ifDomain := some ["sub.example.com".toList] },
      .cssDisplayNone ".ad".toList⟩
  have rules : (Report.ofSources FilterRule.parse none
      [.written "sub.example.com##.ad".toList, .written "example.com#@#.ad".toList]).map
        Report.rules = .ok [hiddenBy.widen] := by decide +kernel
  obtain ⟨report, succeeded, emitted⟩ := map_eq_ok.mp rules
  refine ⟨cosmeticExceptionContent, hiddenBy, report, by decide +kernel, by decide +kernel, rfl,
    List.mem_cons_self, by decide, succeeded, rfl, ?_, by decide⟩
  rw [emitted]
  exact List.mem_cons_self

end Ledger

end Blocklist
