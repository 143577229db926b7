/-
This file says what the cosmetic exceptions of a list make of its hiding rules. The domains of the
exceptions with one selector are put one after the other. A hiding rule with required domains is
lost when one of these is part of such a domain, and stays as it is otherwise. A hiding rule
without required domains spares those domains besides its own ones.
-/

import Blocklist.Proofs.Batch.Independence
import Blocklist.Proofs.Content.WellFormed

namespace Blocklist

namespace Trigger

/-- What is left of a trigger that must spare some domains. -/
def without? (domains : List Text) (trigger : Trigger) : Option Trigger :=
  match trigger.ifDomain with
  | some required =>
      if domains.any fun domain => required.any fun name => domain.holds name then none
      else some trigger
  | none =>
      let excluded := trigger.unlessDomain.getD []
      let added := (domains.filter fun domain => !excluded.contains domain).eraseDups
      some { trigger with
        unlessDomain := if added.isEmpty then trigger.unlessDomain else some (excluded ++ added) }

/-- A trigger that no exception reaches stays as it is. -/
theorem foldl_exclude_of_unreached {domains : List Text} {trigger : Trigger}
    (unreached : ∀ domain ∈ domains, trigger.reaches domain = false) :
    domains.foldl exclude trigger = trigger := by
  induction domains with
  | nil => rfl
  | cons domain domains inductionHypothesis =>
      have same : trigger.exclude domain = trigger := by
        rw [exclude_eq, if_neg (by simp [unreached domain List.mem_cons_self])]
      rw [List.foldl_cons, same]
      exact inductionHypothesis fun other member =>
        unreached other (List.mem_cons_of_mem domain member)

/-- Without required domains every exception joins the excluded ones. -/
theorem foldl_exclude_of_unrestricted {domains : List Text} {trigger : Trigger}
    (unrestricted : trigger.ifDomain = none) :
    domains.foldl exclude trigger =
      { trigger with
        unlessDomain :=
          if domains = [] then trigger.unlessDomain
          else some (domains.foldl joinName (trigger.unlessDomain.getD [])) } := by
  induction domains generalizing trigger with
  | nil => rfl
  | cons domain domains inductionHypothesis =>
      have reached : trigger.reaches domain = true := by simp [reaches, unrestricted]
      have step : trigger.exclude domain =
          { trigger with
            unlessDomain := some (joinName (trigger.unlessDomain.getD []) domain) } := by
        rw [exclude_eq, if_pos reached]
      rw [List.foldl_cons, inductionHypothesis (by rw [step]; exact unrestricted), step]
      by_cases last : domains = []
      · simp [last]
      · simp [last]

theorem without?_of_unrestricted {trigger : Trigger} (unrestricted : trigger.ifDomain = none)
    (domains : List Text) :
    trigger.without? domains = some (domains.foldl exclude trigger) := by
  rw [foldl_exclude_of_unrestricted unrestricted, foldl_joinName, without?, unrestricted]
  dsimp only
  by_cases noDomain : domains = []
  · simp [noDomain]
  · rw [if_neg noDomain]
    congr 2
    split
    case isTrue noneAdded =>
      -- All domains are excluded already, so that there is an excluded domain.
      rw [List.isEmpty_iff] at noneAdded
      obtain ⟨domain, others, rfl⟩ := List.exists_cons_of_ne_nil noDomain
      cases excluded : trigger.unlessDomain with
      | none => simp [excluded, List.eraseDups_cons] at noneAdded
      | some names =>
          rw [excluded, Option.getD_some] at noneAdded
          rw [Option.getD_some, noneAdded, List.append_nil]
    case isFalse => rfl

theorem without?_of_restricted {isName : Text → Prop} {trigger : Trigger} {required : List Text}
    (wellFormed : trigger.WellFormed isName) (restricted : trigger.ifDomain = some required)
    (domains : List Text) :
    trigger.without? domains =
      if (domains.foldl exclude trigger).hasConflict then none
      else some (domains.foldl exclude trigger) := by
  have someRequired : required ≠ [] := (wellFormed.required required restricted).1
  have noneExcluded : trigger.unlessDomain = none := by
    rcases wellFormed.exclusive with noneRequired | noneExcluded
    · rw [restricted] at noneRequired
      cases noneRequired
    · exact noneExcluded
  have reaches_iff : ∀ domain, trigger.reaches domain =
      required.any fun name => domain.holds name := by
    intro domain
    simp [reaches, restricted, someRequired]
  rw [without?, restricted]
  dsimp only
  split
  case isTrue reached =>
    obtain ⟨domain, member, holds⟩ := List.any_eq_true.mp reached
    have excluded : domain ∈ (domains.foldl exclude trigger).unlessDomain.getD [] :=
      mem_foldl_exclude.mpr (.inr ⟨member, (reaches_iff domain).trans holds⟩)
    have conflict : (domains.foldl exclude trigger).hasConflict = true := by
      simp [hasConflict, restricted, someRequired, List.ne_nil_of_mem excluded]
    rw [if_pos conflict]
  case isFalse unreached =>
    have unchanged : domains.foldl exclude trigger = trigger := by
      apply foldl_exclude_of_unreached
      intro domain member
      rw [reaches_iff, ← Bool.not_eq_true]
      exact fun reached => unreached (List.any_eq_true.mpr ⟨domain, member, reached⟩)
    rw [unchanged, if_neg (by simp [hasConflict, noneExcluded])]

/-- A trigger is left without a conflict exactly when it can spare the domains. -/
theorem without?_eq {isName : Text → Prop} {trigger : Trigger}
    (wellFormed : trigger.WellFormed isName) (domains : List Text) :
    trigger.without? domains =
      if (domains.foldl exclude trigger).hasConflict then none
      else some (domains.foldl exclude trigger) := by
  cases required : trigger.ifDomain with
  | none =>
      have noConflict : (domains.foldl exclude trigger).hasConflict = false := by
        simp [hasConflict, required]
      rw [without?_of_unrestricted required, if_neg (by simp [noConflict])]
  | some names => exact without?_of_restricted wellFormed required domains

end Trigger

namespace ContentRule

theorem exists_selector_of_exception {content : ContentRule}
    (role : content.role = .cssException) :
    ∃ selector, content.action = .ignorePreviousRules (some selector) := by
  cases action : content.action with
  | block => simp [ContentRule.role, action] at role
  | cssDisplayNone selector => simp [ContentRule.role, action] at role
  | ignorePreviousRules selector =>
      cases selector with
      | some selector => exact ⟨selector, rfl⟩
      | none =>
          rw [ContentRule.role, action] at role
          dsimp only at role
          split at role <;> cases role

theorem exceptionDomains_cons {content : ContentRule} {selector : Text}
    (hides : content.action = .cssDisplayNone selector) (exception : ContentRule)
    (exceptions : List ContentRule) :
    content.exceptionDomains (exception :: exceptions) =
      (if exception.action.selector? = some selector then
        exception.trigger.ifDomain.getD []
      else []) ++ content.exceptionDomains exceptions := by
  have selected : content.action.selector? = some selector := by
    rw [hides]
    rfl
  by_cases spares : exception.action.selector? = some selector <;>
    simp [exceptionDomains, exceptionsFor, selected, spares]

end ContentRule

namespace Source

/-- The rule that an item is converted to. -/
def content? (parser : FilterRule.Parser) (source : Source) : Option ContentRule :=
  (Outcome.ofSource parser source).rule?

/-- The domains of all cosmetic exceptions with a selector, one exception after the other. -/
def exceptionDomains (parser : FilterRule.Parser) (sources : List Source) (selector : Text) :
    List Text :=
  (sources.filterMap (content? parser)).flatMap fun content =>
    if content.action = .ignorePreviousRules (some selector) then
      content.trigger.ifDomain.getD []
    else []

/-- What the exceptions of a list leave of an item that hides something. -/
def keptRule? (parser : FilterRule.Parser) (sources : List Source) (source : Source) :
    Option ContentRule :=
  match source.content? parser with
  | some ⟨trigger, .cssDisplayNone selector⟩ =>
      (trigger.without? (exceptionDomains parser sources selector)).map fun left =>
        ⟨left, .cssDisplayNone selector⟩
  | _ => none

/-- The item hides something, and the exceptions of a list leave nothing of it. -/
def isLost (parser : FilterRule.Parser) (sources : List Source) (source : Source) : Bool :=
  match source.content? parser with
  | some ⟨trigger, .cssDisplayNone selector⟩ =>
      (trigger.without? (exceptionDomains parser sources selector)).isNone
  | _ => false

theorem content?_of_unread {parser : FilterRule.Parser} {source : Source}
    (unread : source.rule? parser = none) : source.content? parser = none := by
  cases source with
  | parsed rule => cases unread
  | written line =>
      cases comment : isComment line with
      | true => simp [content?, Outcome.ofSource, ContentRule.ofLine, comment, Outcome.rule?]
      | false =>
          cases parsed : parser (Text.trim line) with
          | error cause =>
              simp [content?, Outcome.ofSource, ContentRule.ofLine, comment, parsed,
                Outcome.rule?]
          | ok rule => simp [rule?, comment, parsed, Except.toOption] at unread

/-- A converted item is read as a rule first. -/
theorem content?_eq_some {parser : FilterRule.Parser} {source : Source} {content : ContentRule}
    (converted : source.content? parser = some content) :
    Outcome.ofSource parser source = .converted source.text content ∧
      ∃ rule : FilterRule, rule.convert = .ok content := by
  cases read : source.rule? parser with
  | none =>
      rw [content?_of_unread read] at converted
      cases converted
  | some rule =>
      have outcome := Outcome.ofSource_of_read read
      rw [content?, outcome] at converted
      cases result : rule.convert with
      | error cause =>
          rw [result] at converted
          cases converted
      | ok found =>
          rw [result] at converted outcome
          obtain rfl : found = content := Option.some.inj converted
          exact ⟨outcome, rule, result⟩

/-- What an item adds to the domains is told by the rule that it is converted to. -/
theorem exceptionDomains_cons (parser : FilterRule.Parser) (source : Source)
    (sources : List Source) (selector : Text) :
    exceptionDomains parser (source :: sources) selector =
      ((source.content? parser).elim [] fun content =>
        if content.action = .ignorePreviousRules (some selector) then
          content.trigger.ifDomain.getD []
        else []) ++ exceptionDomains parser sources selector := by
  rw [exceptionDomains, List.filterMap_cons]
  cases source.content? parser <;> rfl

theorem exceptionDomains_eq (parser : FilterRule.Parser) (sources : List Source)
    {content : ContentRule} {selector : Text} (hides : content.action = .cssDisplayNone selector) :
    content.exceptionDomains (rulesOf parser sources .cssException) =
      exceptionDomains parser sources selector := by
  induction sources with
  | nil => rfl
  | cons source sources inductionHypothesis =>
      rw [exceptionDomains_cons, ← inductionHypothesis, rulesOf, rulesOf, List.filterMap_cons]
      cases converted : source.content? parser with
      | none =>
          have noRule : (Outcome.ofSource parser source).ruleOf? .cssException = none := by
            rw [Outcome.ruleOf?, ← content?, converted]
            rfl
          rw [noRule]
          rfl
      | some found =>
          obtain ⟨outcome, rule, result⟩ := content?_eq_some converted
          rw [outcome, Outcome.ruleOf?_converted, Option.elim_some]
          by_cases excepts : found.role = .cssException
          · obtain ⟨spared, action⟩ := ContentRule.exists_selector_of_exception excepts
            rw [if_pos excepts, ContentRule.exceptionDomains_cons hides, action]
            simp [Action.selector?]
          · have notSpared : found.action ≠ .ignorePreviousRules (some selector) :=
              fun spares => excepts (ContentRule.role_of_excepts result spares)
            rw [if_neg excepts, if_neg notSpared, List.nil_append]

/-- The exceptions of a list leave of a hiding rule what is left when it spares their domains. -/
theorem without?_exceptionDomains (parser : FilterRule.Parser) (sources : List Source)
    {rule : FilterRule} {content : ContentRule} {selector : Text}
    (converted : rule.convert = .ok content) (hides : content.action = .cssDisplayNone selector) :
    content.trigger.without? (exceptionDomains parser sources selector) =
      if (content.spared (rulesOf parser sources .cssException)).trigger.hasConflict then none
      else some (content.spared (rulesOf parser sources .cssException)).trigger := by
  rw [Trigger.without?_eq (FilterRule.convert_wellFormed converted),
    ← exceptionDomains_eq parser sources hides]
  rfl

theorem keptRule?_of_hides {parser : FilterRule.Parser} {sources : List Source} {source : Source}
    {content : ContentRule} {selector : Text} (converted : source.content? parser = some content)
    (hides : content.action = .cssDisplayNone selector) :
    source.keptRule? parser sources =
      (content.trigger.without? (exceptionDomains parser sources selector)).map fun left =>
        { content with trigger := left } := by
  obtain ⟨trigger, action⟩ := content
  obtain rfl := hides
  rw [keptRule?, converted]

theorem isLost_of_hides {parser : FilterRule.Parser} {sources : List Source} {source : Source}
    {content : ContentRule} {selector : Text} (converted : source.content? parser = some content)
    (hides : content.action = .cssDisplayNone selector) :
    source.isLost parser sources =
      (content.trigger.without? (exceptionDomains parser sources selector)).isNone := by
  obtain ⟨trigger, action⟩ := content
  obtain rfl := hides
  rw [isLost, converted]

/-- Only items that hide something are kept or lost. -/
theorem not_merged (parser : FilterRule.Parser) (sources : List Source) {source : Source}
    (hidesNothing : ∀ content, source.content? parser = some content → content.role ≠ .hide) :
    source.keptRule? parser sources = none ∧ source.isLost parser sources = false := by
  rw [keptRule?, isLost]
  cases converted : source.content? parser with
  | none => exact ⟨rfl, rfl⟩
  | some content =>
      have other := hidesNothing content converted
      obtain ⟨trigger, action⟩ := content
      cases action with
      | cssDisplayNone selector => exact absurd rfl other
      | _ => exact ⟨rfl, rfl⟩

/-- The outcome of an item is merged as the exceptions of the list say. -/
theorem merged_eq (parser : FilterRule.Parser) (sources : List Source) (source : Source) :
    (Outcome.ofSource parser source).keptRule? (rulesOf parser sources .cssException) =
        source.keptRule? parser sources ∧
      (Outcome.ofSource parser source).conflict? (rulesOf parser sources .cssException) =
        if source.isLost parser sources then some ⟨some source.text, .conflictAfterExceptions⟩
        else none := by
  cases converted : source.content? parser with
  | none =>
      have hidesNothing : ∀ content, source.content? parser = some content →
          content.role ≠ .hide := by simp [converted]
      obtain ⟨notKept, notLost⟩ := not_merged parser sources hidesNothing
      rw [notKept, notLost]
      rw [content?] at converted
      generalize Outcome.ofSource parser source = outcome at converted
      cases outcome with
      | converted line content => cases converted
      | _ => exact ⟨rfl, rfl⟩
  | some content =>
      obtain ⟨outcome, rule, result⟩ := content?_eq_some converted
      rw [outcome, Outcome.keptRule?_converted, Outcome.conflict?_converted]
      by_cases role : content.role = .hide
      · obtain ⟨selector, hides⟩ := ContentRule.exists_selector_of_role role
        rw [keptRule?_of_hides converted hides, isLost_of_hides converted hides,
          without?_exceptionDomains parser sources result hides]
        cases conflict :
          (content.spared (rulesOf parser sources .cssException)).trigger.hasConflict with
        | true => simp [role]
        | false =>
            simp [role]
            rfl
      · have hidesNothing : ∀ content, source.content? parser = some content →
            content.role ≠ .hide := by simpa [converted] using role
        obtain ⟨notKept, notLost⟩ := not_merged parser sources hidesNothing
        simp [role, notKept, notLost]

/-- The hiding rules of a list, merged with the cosmetic exceptions of the list. -/
def merged (parser : FilterRule.Parser) (sources : List Source) : Merged :=
  Merged.merge ((sources.map (Outcome.ofSource parser)).filterMap Outcome.hidingRule?)
    (rulesOf parser sources .cssException)

/-- The lines of the items that are lost, each with the reason. -/
def losses (parser : FilterRule.Parser) (sources : List Source) : List Diagnostic :=
  (sources.filter (isLost parser sources)).map fun source =>
    ⟨some source.text, .conflictAfterExceptions⟩

theorem filterMap_conflict? (parser : FilterRule.Parser) (sources : List Source) :
    (sources.map (Outcome.ofSource parser)).filterMap
        (Outcome.conflict? (rulesOf parser sources .cssException)) =
      losses parser sources := by
  rw [losses, List.filterMap_map, ← List.filterMap_eq_filter, List.map_filterMap]
  congr 1
  funext source
  rw [Function.comp_apply, (merged_eq parser sources source).2]
  cases lost : source.isLost parser sources <;> simp [Option.guard, lost]

theorem filterMap_keptRule? (parser : FilterRule.Parser) (sources : List Source) :
    (sources.map (Outcome.ofSource parser)).filterMap
        (Outcome.keptRule? (rulesOf parser sources .cssException)) =
      sources.filterMap (keptRule? parser sources) := by
  rw [List.filterMap_map]
  congr 1
  funext source
  exact (merged_eq parser sources source).1

end Source

/-- The report of a list holds what the exceptions leave of the hiding rules, packed as far as
these have no domains, and it tells the lines of which nothing is left. -/
structure Report.Spares (parser : FilterRule.Parser) (sources : List Source) (report : Report) :
    Prop where
  kept : (Source.merged parser sources).kept = sources.filterMap (Source.keptRule? parser sources)
  lost : (Source.merged parser sources).diagnostics = Source.losses parser sources
  rules : report.Emits
    (Compacted.openSelectors (sources.filterMap (Source.keptRule? parser sources)))
    ((sources.filterMap (Source.keptRule? parser sources)).filter
        (fun rule => rule.trigger.ifDomain.isSome || rule.trigger.unlessDomain.isSome) ++
      Source.rulesOf parser sources .pageException ++ Source.rulesOf parser sources .block ++
      Source.rulesOf parser sources .other)
  diagnostics : report.diagnostics =
    Source.failures parser sources ++ Source.losses parser sources
  complete : report.overLimit = false

namespace Report

theorem exists_spares (parser : FilterRule.Parser) {sources : List Source} (some : sources ≠ []) :
    ∃ report, ofSources parser none sources = .ok report ∧ Spares parser sources report := by
  have ofRole : ∀ role, (sources.map (Outcome.ofSource parser)).filterMap
      (Outcome.ruleOf? role) = Source.rulesOf parser sources role := by
    intro role
    rw [List.filterMap_map]
    rfl
  have ofFailures : (sources.map (Outcome.ofSource parser)).filterMap Outcome.diagnostic? =
      Source.failures parser sources := by
    rw [List.filterMap_map]
    rfl
  obtain ⟨portions, groups, cut, grouped, wide, domainSensitive, pageExceptions, blocking, other,
    diagnostics⟩ := Groups.ofOutcomes_eq_ok _ _ (ofRole .cssException)
  rw [Source.filterMap_keptRule?] at cut domainSensitive
  rw [Source.filterMap_conflict?, ofFailures] at diagnostics
  rw [ofRole] at pageExceptions blocking other
  refine ⟨ofGroups none sources.length groups, ?_, ?_⟩
  · rw [ofSources, if_neg (by simpa using some), grouped]
    rfl
  · constructor
    case kept => rw [Source.merged, Groups.merge_kept, Source.filterMap_keptRule?]
    case lost => rw [Source.merged, Groups.merge_diagnostics, Source.filterMap_conflict?]
    case rules =>
      have emits := emits_ofGroups cut wide sources.length
      rw [domainSensitive, pageExceptions, blocking, other] at emits
      exact emits
    case diagnostics => exact diagnostics
    case complete => rfl

/-- What is left of the hiding rules and the rules of the other roles determine the output. -/
theorem Spares.rules_eq {parser : FilterRule.Parser} {sources others : List Source}
    {report other : Report} (spares : Spares parser sources report)
    (otherSpares : Spares parser others other)
    (sameKept : sources.filterMap (Source.keptRule? parser sources) =
      others.filterMap (Source.keptRule? parser others))
    (sameRoles : ∀ role, role ≠ .cssException →
      Source.rulesOf parser sources role = Source.rulesOf parser others role) :
    report.rules = other.rules := by
  have emits := spares.rules
  rw [sameKept, sameRoles .pageException (by decide), sameRoles .block (by decide),
    sameRoles .other (by decide)] at emits
  exact emits.rules_eq otherSpares.rules

end Report

namespace Source

/-- The item is a cosmetic exception without a domain. -/
def IsIdle (parser : FilterRule.Parser) (source : Source) : Prop :=
  ∃ content selector, source.content? parser = some content ∧
    content.action = .ignorePreviousRules (some selector) ∧ content.trigger.ifDomain = none

variable {parser : FilterRule.Parser} {idle : Source}

theorem exceptionDomains_idle (isIdle : idle.IsIdle parser) (before after : List Source) :
    exceptionDomains parser (before ++ idle :: after) =
      exceptionDomains parser (before ++ after) := by
  obtain ⟨content, selector, converted, excepts, noDomain⟩ := isIdle
  funext other
  simp [exceptionDomains, List.filterMap_cons_some converted, noDomain]

theorem merged_idle (isIdle : idle.IsIdle parser) (before after : List Source) :
    keptRule? parser (before ++ idle :: after) = keptRule? parser (before ++ after) ∧
      isLost parser (before ++ idle :: after) = isLost parser (before ++ after) := by
  constructor
  · funext source
    rw [keptRule?, keptRule?, exceptionDomains_idle isIdle]
  · funext source
    rw [isLost, isLost, exceptionDomains_idle isIdle]

theorem IsIdle.hidesNothing (isIdle : idle.IsIdle parser) :
    ∀ content, idle.content? parser = some content → content.role ≠ .hide := by
  obtain ⟨content, selector, converted, excepts, -⟩ := isIdle
  intro other alsoConverted hides
  obtain rfl : content = other := Option.some.inj (converted.symm.trans alsoConverted)
  obtain ⟨hidden, action⟩ := ContentRule.exists_selector_of_role hides
  rw [excepts] at action
  cases action

theorem IsIdle.ruleOf? (isIdle : idle.IsIdle parser) {role : Role} (other : role ≠ .cssException) :
    (Outcome.ofSource parser idle).ruleOf? role = none := by
  obtain ⟨content, selector, converted, excepts, -⟩ := isIdle
  obtain ⟨outcome, rule, result⟩ := content?_eq_some converted
  rw [outcome, Outcome.ruleOf?_converted, ContentRule.role_of_excepts result excepts,
    if_neg other.symm]

theorem IsIdle.diagnostic? (isIdle : idle.IsIdle parser) :
    (Outcome.ofSource parser idle).diagnostic? = none := by
  obtain ⟨content, selector, converted, -, -⟩ := isIdle
  obtain ⟨outcome, -⟩ := content?_eq_some converted
  rw [outcome]
  rfl

end Source

namespace Report

/-- A cosmetic exception without a domain may be left out of a list. -/
theorem Spares.without_idle {parser : FilterRule.Parser} {before after : List Source}
    {idle : Source} (isIdle : idle.IsIdle parser) {report other : Report}
    (spares : Spares parser (before ++ idle :: after) report)
    (otherSpares : Spares parser (before ++ after) other) :
    other.rules = report.rules ∧ other.diagnostics = report.diagnostics := by
  obtain ⟨sameKept, sameLost⟩ := Source.merged_idle isIdle before after
  obtain ⟨notKept, notLost⟩ := Source.not_merged parser (before ++ after) isIdle.hidesNothing
  constructor
  · apply otherSpares.rules_eq spares
    · simp [sameKept, notKept]
    · intro role notException
      simp [Source.rulesOf, isIdle.ruleOf? notException]
  · rw [otherSpares.diagnostics, spares.diagnostics]
    simp [Source.failures, Source.losses, sameLost, notLost, isIdle.diagnostic?]

/-- In the report of a list every hiding rule is left, changed or lost as the domains of the
exceptions with its selector demand, in the order of the list, and exceptions without a domain
change nothing. A limit is only applied to what comes out. -/
theorem ofSources_spares (parser : FilterRule.Parser) (first : Source) (rest : List Source) :
    ∃ report, ofSources parser none (first :: rest) = .ok report ∧
      (∀ limit, ofSources parser limit (first :: rest) = .ok (report.under limit)) ∧
      Spares parser (first :: rest) report ∧
      ∀ before idle after, first :: rest = before ++ idle :: after → idle.IsIdle parser →
        before ++ after ≠ [] →
        ∃ same, ofSources parser none (before ++ after) = .ok same ∧
          same.rules = report.rules ∧ same.diagnostics = report.diagnostics := by
  obtain ⟨report, succeeded, spares⟩ := exists_spares parser (List.cons_ne_nil first rest)
  refine ⟨report, succeeded, fun limit => ofSources_under_ok limit succeeded, spares, ?_⟩
  intro before idle after split isIdle some
  obtain ⟨same, succeededToo, sameSpares⟩ := exists_spares parser some
  rw [split] at spares
  exact ⟨same, succeededToo, spares.without_idle isIdle sameSpares⟩

end Report

end Blocklist
