/-
This file says what becomes of an item of a filter list, given the exceptions of the whole list.
Every item has one fate, and adds to the output what its fate tells.
-/

import Blocklist.Proofs.Batch.Merging
import Blocklist.Proofs.Content.Conversion
import Mathlib.Data.List.Forall2

namespace Blocklist

/-- The rule that an item is read as; comments and lines that cannot be read are none. -/
def Source.rule? (parser : FilterRule.Parser) : Source → Option FilterRule
  | .written line => if isComment line then none else (parser (Text.trim line)).toOption
  | .parsed rule => some rule

namespace ContentRule

/-- The part that a rule plays in the output, told by its action. An exception is one for pages when
the document is the first of its resource types. -/
inductive Plays : ContentRule → Role → Prop
  | hides (trigger : Trigger) (selector : Text) :
      Plays ⟨trigger, .cssDisplayNone selector⟩ .hide
  | blocks (trigger : Trigger) : Plays ⟨trigger, .block⟩ .block
  | exemptsPages {trigger : Trigger} {types : List ResourceType} (selector : Option Text)
      (first : trigger.resourceTypes = some (.document :: types)) :
      Plays ⟨trigger, .ignorePreviousRules selector⟩ .pageException
  | spares {trigger : Trigger} (selector : Text)
      (notFirst : ∀ types, trigger.resourceTypes ≠ some (.document :: types)) :
      Plays ⟨trigger, .ignorePreviousRules (some selector)⟩ .cssException
  | exemptsRequests {trigger : Trigger}
      (notFirst : ∀ types, trigger.resourceTypes ≠ some (.document :: types)) :
      Plays ⟨trigger, .ignorePreviousRules none⟩ .other

theorem plays_role (rule : ContentRule) : rule.Plays rule.role := by
  obtain ⟨trigger, action⟩ := rule
  cases action with
  | block => exact .blocks trigger
  | cssDisplayNone selector => exact .hides trigger selector
  | ignorePreviousRules selector =>
      have first_iff : (trigger.resourceTypes.getD []).head? = some .document ↔
          ∃ types, trigger.resourceTypes = some (.document :: types) := by
        cases listed : trigger.resourceTypes with
        | none => simp
        | some types => cases types <;> simp
      rw [role]
      dsimp only
      split
      case isTrue first =>
        obtain ⟨types, listed⟩ := first_iff.mp first
        exact .exemptsPages selector listed
      case isFalse other =>
        have notFirst := not_exists.mp (first_iff.not.mp other)
        cases selector with
        | none => exact .exemptsRequests notFirst
        | some selector => exact .spares selector notFirst

theorem Plays.unique {rule : ContentRule} {role sameRole : Role} (played : rule.Plays role)
    (alsoPlayed : rule.Plays sameRole) : role = sameRole := by
  cases played <;> cases alsoPlayed <;> simp_all

/-- Every rule plays one part, by which it is sorted. -/
theorem plays_iff {rule : ContentRule} {role : Role} : rule.Plays role ↔ rule.role = role := by
  constructor
  · exact rule.plays_role.unique
  · rintro rfl
    exact rule.plays_role

instance (rule : ContentRule) (role : Role) : Decidable (rule.Plays role) :=
  decidable_of_iff (rule.role = role) plays_iff.symm

end ContentRule

/-- What becomes of an item in the end. -/
inductive Fate where
  | skipped
  | rejected (diagnostic : Diagnostic)
  | folded (exception : ContentRule)
  | conflicting (diagnostic : Diagnostic)
  | packed (selector : Text)
  | emitted (rule : ContentRule)
deriving DecidableEq, Repr

namespace Fate

def rejection? : Fate → Option Diagnostic
  | .rejected diagnostic => some diagnostic
  | _ => none

def exception? : Fate → Option ContentRule
  | .folded exception => some exception
  | _ => none

def conflict? : Fate → Option Diagnostic
  | .conflicting diagnostic => some diagnostic
  | _ => none

def selector? : Fate → Option Text
  | .packed selector => some selector
  | _ => none

/-- The rule that stands for the item alone, if it has this role. -/
def ruleOf? (role : Role) : Fate → Option ContentRule
  | .emitted rule => if rule.Plays role then some rule else none
  | _ => none

theorem ruleOf?_emitted (role : Role) (rule : ContentRule) :
    (emitted rule).ruleOf? role = if rule.role = role then some rule else none := by
  simp only [ruleOf?, ContentRule.plays_iff]

theorem eq_folded_of_exception? {fate : Fate} {exception : ContentRule}
    (found : fate.exception? = some exception) : fate = .folded exception := by
  cases fate with
  | folded content => exact congrArg folded (Option.some.inj found)
  | _ => cases found

theorem eq_emitted_of_ruleOf? {fate : Fate} {role : Role} {rule : ContentRule}
    (found : fate.ruleOf? role = some rule) : fate = .emitted rule ∧ rule.role = role := by
  cases fate with
  | emitted content =>
      rw [ruleOf?_emitted] at found
      split at found
      case isTrue played =>
        obtain rfl := Option.some.inj found
        exact ⟨rfl, played⟩
      case isFalse => cases found
  | _ => cases found

/-- The fate that an item deserves, given the exceptions of the whole list. -/
inductive Of (parser : FilterRule.Parser) (exceptions : List ContentRule) : Source → Fate → Prop
  | comment {line : Text} (comment : isComment line = true) :
      Of parser exceptions (.written line) .skipped
  | unreadable {line : Text} {cause : FilterError} (noComment : isComment line = false)
      (refused : parser (Text.trim line) = .error cause) :
      Of parser exceptions (.written line) (.rejected ⟨some line, .ofFilterError cause⟩)
  | inexpressible {source : Source} {rule : FilterRule} {cause : ConversionError}
      (read : source.rule? parser = some rule) (refused : rule.convert = .error cause) :
      Of parser exceptions source (.rejected ⟨some source.text, cause⟩)
  | exception {source : Source} {rule : FilterRule} {content : ContentRule} {selector : Text}
      (read : source.rule? parser = some rule) (converted : rule.convert = .ok content)
      (excepts : content.action = .ignorePreviousRules (some selector)) :
      Of parser exceptions source (.folded content)
  | conflict {source : Source} {rule : FilterRule} {content : ContentRule} {selector : Text}
      (read : source.rule? parser = some rule) (converted : rule.convert = .ok content)
      (hides : content.action = .cssDisplayNone selector)
      (conflict : (content.spared exceptions).trigger.hasConflict = true) :
      Of parser exceptions source (.conflicting ⟨some source.text, .conflictAfterExceptions⟩)
  | everywhere {source : Source} {rule : FilterRule} {content : ContentRule} {selector : Text}
      (read : source.rule? parser = some rule) (converted : rule.convert = .ok content)
      (hides : content.action = .cssDisplayNone selector)
      (unrestricted : content.spared exceptions = ⟨Trigger.anyUrl, .cssDisplayNone selector⟩) :
      Of parser exceptions source (.packed selector)
  | somewhere {source : Source} {rule : FilterRule} {content : ContentRule} {selector : Text}
      (read : source.rule? parser = some rule) (converted : rule.convert = .ok content)
      (hides : content.action = .cssDisplayNone selector)
      (agrees : (content.spared exceptions).trigger.hasConflict = false)
      (restricted : ((content.spared exceptions).trigger.ifDomain.isSome ||
        (content.spared exceptions).trigger.unlessDomain.isSome) = true) :
      Of parser exceptions source (.emitted (content.spared exceptions))
  | unselected {source : Source} {rule : FilterRule} {content : ContentRule}
      (read : source.rule? parser = some rule) (converted : rule.convert = .ok content)
      (unselected : content.action.selector? = none) :
      Of parser exceptions source (.emitted content)

end Fate

namespace Outcome

/-- A line that is read as a rule has the outcome of the rule's conversion. -/
theorem ofSource_of_read {parser : FilterRule.Parser} {source : Source} {rule : FilterRule}
    (read : source.rule? parser = some rule) :
    ofSource parser source =
      match rule.convert with
      | .ok content => .converted source.text content
      | .error cause => .rejected source.text cause := by
  cases source with
  | written line =>
      cases comment : isComment line with
      | true => simp [Source.rule?, comment] at read
      | false =>
          cases parsed : parser (Text.trim line) with
          | error cause => simp [Source.rule?, comment, parsed, Except.toOption] at read
          | ok parsedRule =>
              obtain rfl : parsedRule = rule := by
                simpa [Source.rule?, comment, parsed, Except.toOption] using read
              cases result : parsedRule.convert <;>
                simp [ofSource, ContentRule.ofLine, comment, parsed, result, Except.map]
  | parsed parsedRule =>
      obtain rfl : parsedRule = rule := Option.some.inj read
      cases result : parsedRule.convert <;> simp [ofSource, result, Except.map]

/-- The hiding rule that the exceptions leave without a conflict. -/
def keptRule? (exceptions : List ContentRule) (outcome : Outcome) : Option ContentRule :=
  (outcome.hidingRule?.map fun entry => entry.rule.spared exceptions).filter
    fun rule => !rule.trigger.hasConflict

/-- The line of a hiding rule that the exceptions bring into conflict. -/
def conflict? (exceptions : List ContentRule) (outcome : Outcome) : Option Diagnostic :=
  (outcome.hidingRule?.filter fun entry =>
    (entry.rule.spared exceptions).trigger.hasConflict).map
      fun entry => ⟨some entry.line, .conflictAfterExceptions⟩

theorem ruleOf?_converted (role : Role) (line : Text) (content : ContentRule) :
    (converted line content).ruleOf? role = if content.role = role then some content else none := by
  by_cases same : content.role = role <;> simp [ruleOf?, rule?, Option.filter, same]

theorem keptRule?_converted (exceptions : List ContentRule) (line : Text)
    (content : ContentRule) :
    (converted line content).keptRule? exceptions =
      if content.role = .hide ∧ (content.spared exceptions).trigger.hasConflict = false then
        some (content.spared exceptions)
      else none := by
  by_cases hide : content.role = .hide <;>
    cases conflict : (content.spared exceptions).trigger.hasConflict <;>
      simp [keptRule?, hidingRule?, Option.filter, hide, conflict]

theorem conflict?_converted (exceptions : List ContentRule) (line : Text)
    (content : ContentRule) :
    (converted line content).conflict? exceptions =
      if content.role = .hide ∧ (content.spared exceptions).trigger.hasConflict = true then
        some ⟨some line, .conflictAfterExceptions⟩
      else none := by
  by_cases hide : content.role = .hide <;>
    cases conflict : (content.spared exceptions).trigger.hasConflict <;>
      simp [conflict?, hidingRule?, Option.filter, hide, conflict]

end Outcome

namespace ContentRule

theorem role_of_hides {content : ContentRule} {selector : Text}
    (hides : content.action = .cssDisplayNone selector) : content.role = .hide := by
  simp [role, hides]

theorem exists_selector_of_role {content : ContentRule} (role : content.role = .hide) :
    ∃ selector, content.action = .cssDisplayNone selector := by
  cases action : content.action with
  | block => simp [ContentRule.role, action] at role
  | ignorePreviousRules selector =>
      rw [ContentRule.role, action] at role
      dsimp only at role
      split at role
      · cases role
      · split at role <;> cases role
  | cssDisplayNone selector => exact ⟨selector, rfl⟩

/-- A cosmetic exception has no resource types, so that it does not count as one for pages. -/
theorem role_of_excepts {rule : FilterRule} {content : ContentRule} {selector : Text}
    (converted : rule.convert = .ok content)
    (excepts : content.action = .ignorePreviousRules (some selector)) :
    content.role = .cssException := by
  have selected : content.action.selector? = some selector := by
    rw [excepts]
    rfl
  have allTypes : content.trigger.resourceTypes = none := by
    rw [FilterRule.convert_scopeOnly converted selected]
    rfl
  simp [role, excepts, allTypes]

theorem role_of_unselected {content : ContentRule} (unselected : content.action.selector? = none) :
    content.role ≠ .hide ∧ content.role ≠ .cssException := by
  cases action : content.action with
  | block => simp [role, action]
  | ignorePreviousRules selector =>
      rw [action] at unselected
      obtain rfl : selector = none := unselected
      rw [role, action]
      dsimp only
      split <;> simp
  | cssDisplayNone selector => simp [action, Action.selector?] at unselected

/-- A hiding rule that is left without domains is nothing but its selector. -/
theorem spared_everywhere {rule : FilterRule} {content : ContentRule} {selector : Text}
    (exceptions : List ContentRule) (converted : rule.convert = .ok content)
    (hides : content.action = .cssDisplayNone selector)
    (unrestricted : (content.spared exceptions).trigger.isRestricted = false) :
    content.spared exceptions = ⟨Trigger.anyUrl, .cssDisplayNone selector⟩ := by
  have selected : content.action.selector? = some selector := by
    rw [hides]
    rfl
  have scopeOnly := FilterRule.convert_scopeOnly converted selected
  have sparedScopeOnly : (content.spared exceptions).trigger.ScopeOnly := by
    change ((content.exceptionDomains exceptions).foldl Trigger.exclude content.trigger).ScopeOnly
    rw [Trigger.foldl_exclude_frame, scopeOnly]
    rfl
  have anyUrl := Trigger.eq_anyUrl sparedScopeOnly unrestricted
  rw [← anyUrl, ← hides]
  rfl

end ContentRule

namespace Fate

/-- Every item has a fate; the cases follow its reading, its conversion and its action. -/
theorem exists_of (parser : FilterRule.Parser) (exceptions : List ContentRule) (source : Source) :
    ∃ fate, Of parser exceptions source fate := by
  cases read : source.rule? parser with
  | none =>
      cases source with
      | parsed rule => cases read
      | written line =>
          cases comment : isComment line with
          | true => exact ⟨_, .comment comment⟩
          | false =>
              cases parsed : parser (Text.trim line) with
              | error cause => exact ⟨_, .unreadable comment parsed⟩
              | ok rule => simp [Source.rule?, comment, parsed, Except.toOption] at read
  | some rule =>
      cases converted : rule.convert with
      | error cause => exact ⟨_, .inexpressible read converted⟩
      | ok content =>
          cases action : content.action with
          | block => exact ⟨_, .unselected read converted (by rw [action]; rfl)⟩
          | ignorePreviousRules selector =>
              cases selector with
              | none => exact ⟨_, .unselected read converted (by rw [action]; rfl)⟩
              | some selector => exact ⟨_, .exception read converted action⟩
          | cssDisplayNone selector =>
              cases conflict : (content.spared exceptions).trigger.hasConflict with
              | true => exact ⟨_, .conflict read converted action conflict⟩
              | false =>
                  cases restricted : (content.spared exceptions).trigger.isRestricted with
                  | true => exact ⟨_, .somewhere read converted action conflict restricted⟩
                  | false =>
                      exact ⟨_, .everywhere read converted action
                        (ContentRule.spared_everywhere exceptions converted action restricted)⟩

/-- What becomes of an item is determined by its text and the exceptions. -/
theorem of_unique {parser : FilterRule.Parser} {exceptions : List ContentRule} {source : Source}
    {first second : Fate} (firstDeserved : Of parser exceptions source first)
    (secondDeserved : Of parser exceptions source second) : first = second := by
  cases firstDeserved <;> cases secondDeserved <;>
    simp_all [Source.rule?, Except.toOption, Action.selector?]

theorem exists_ofEach (parser : FilterRule.Parser) (exceptions : List ContentRule)
    (sources : List Source) :
    ∃ fates, List.Forall₂ (Of parser exceptions) sources fates := by
  induction sources with
  | nil => exact ⟨[], .nil⟩
  | cons source sources inductionHypothesis =>
      obtain ⟨fate, deserved⟩ := exists_of parser exceptions source
      obtain ⟨fates, deservedByOthers⟩ := inductionHypothesis
      exact ⟨fate :: fates, .cons deserved deservedByOthers⟩

/-- An item adds to each part of the output through its fate what it adds through its outcome. -/
structure Contributes (exceptions : List ContentRule) (outcome : Outcome) (fate : Fate) : Prop where
  rejection : outcome.diagnostic? = fate.rejection?
  exception : outcome.ruleOf? .cssException = fate.exception?
  conflict : outcome.conflict? exceptions = fate.conflict?
  selector : ((outcome.keptRule? exceptions).bind fun rule =>
    if rule.trigger.isRestricted then none else rule.action.selector?) = fate.selector?
  sensitive : ((outcome.keptRule? exceptions).filter fun rule => rule.trigger.isRestricted) =
    fate.ruleOf? .hide
  others : ∀ role, role ≠ .hide → role ≠ .cssException → outcome.ruleOf? role = fate.ruleOf? role

/-- A rule that hides something, or that is folded into such rules, has no other role. -/
theorem others_of_role {role : Role} {line : Text} {content : ContentRule} {fate : Fate}
    (played : content.role = role) (folded : role = .hide ∨ role = .cssException)
    (emitsNoOther : ∀ place, place ≠ .hide → fate.ruleOf? place = none) (place : Role)
    (notHide : place ≠ .hide) (notException : place ≠ .cssException) :
    (Outcome.converted line content).ruleOf? place = fate.ruleOf? place := by
  have differs : content.role ≠ place := by
    rw [played]
    rintro rfl
    rcases folded with hides | excepts
    · exact notHide hides
    · exact notException excepts
  rw [Outcome.ruleOf?_converted, if_neg differs, emitsNoOther place notHide]

theorem contributes_of {parser : FilterRule.Parser} {exceptions : List ContentRule}
    {source : Source} {fate : Fate} (deserved : Of parser exceptions source fate) :
    Contributes exceptions (Outcome.ofSource parser source) fate := by
  cases deserved with
  | comment comment =>
      simp only [Outcome.ofSource, ContentRule.ofLine, comment, if_true]
      exact ⟨rfl, rfl, rfl, rfl, rfl, fun _ _ _ => rfl⟩
  | unreadable noComment refused =>
      simp only [Outcome.ofSource, ContentRule.ofLine, noComment, refused]
      exact ⟨rfl, rfl, rfl, rfl, rfl, fun _ _ _ => rfl⟩
  | inexpressible read refused =>
      rw [Outcome.ofSource_of_read read, refused]
      exact ⟨rfl, rfl, rfl, rfl, rfl, fun _ _ _ => rfl⟩
  | @exception _ rule content selector read converted excepts =>
      rw [Outcome.ofSource_of_read read, converted]
      have role := ContentRule.role_of_excepts converted excepts
      have notKept : (Outcome.converted source.text content).keptRule? exceptions = none := by
        simp [Outcome.keptRule?_converted, role]
      refine ⟨rfl, ?_, ?_, by rw [notKept]; rfl, by rw [notKept]; rfl, ?_⟩
      · rw [Outcome.ruleOf?_converted, if_pos role]
        rfl
      · simp [Outcome.conflict?_converted, role, conflict?]
      · exact others_of_role role (.inr rfl) fun _ _ => rfl
  | @conflict _ rule content selector read converted hides conflict =>
      rw [Outcome.ofSource_of_read read, converted]
      have role := ContentRule.role_of_hides hides
      have notKept : (Outcome.converted source.text content).keptRule? exceptions = none := by
        simp [Outcome.keptRule?_converted, conflict]
      refine ⟨rfl, ?_, ?_, by rw [notKept]; rfl, by rw [notKept]; rfl, ?_⟩
      · simp [Outcome.ruleOf?_converted, role, exception?]
      · simp [Outcome.conflict?_converted, role, conflict, conflict?]
      · exact others_of_role role (.inl rfl) fun _ _ => rfl
  | @everywhere _ rule content selector read converted hides unrestricted =>
      rw [Outcome.ofSource_of_read read, converted]
      have role := ContentRule.role_of_hides hides
      have agrees : (content.spared exceptions).trigger.hasConflict = false := by
        rw [unrestricted]
        rfl
      have kept : (Outcome.converted source.text content).keptRule? exceptions =
          some ⟨Trigger.anyUrl, .cssDisplayNone selector⟩ := by
        rw [Outcome.keptRule?_converted, if_pos ⟨role, agrees⟩, unrestricted]
      refine ⟨rfl, ?_, ?_, by rw [kept]; rfl, by rw [kept]; rfl, ?_⟩
      · simp [Outcome.ruleOf?_converted, role, exception?]
      · simp [Outcome.conflict?_converted, agrees, conflict?]
      · exact others_of_role role (.inl rfl) fun _ _ => rfl
  | @somewhere _ rule content selector read converted hides agrees listed =>
      rw [Outcome.ofSource_of_read read, converted]
      have restricted : (content.spared exceptions).trigger.isRestricted = true := listed
      have role := ContentRule.role_of_hides hides
      have sparedRole : (content.spared exceptions).role = .hide :=
        ContentRule.role_of_hides hides
      have kept : (Outcome.converted source.text content).keptRule? exceptions =
          some (content.spared exceptions) := by
        rw [Outcome.keptRule?_converted, if_pos ⟨role, agrees⟩]
      refine ⟨rfl, ?_, ?_, ?_, ?_, ?_⟩
      · simp [Outcome.ruleOf?_converted, role, exception?]
      · simp [Outcome.conflict?_converted, agrees, conflict?]
      · simp [kept, restricted, selector?]
      · simp [kept, restricted, ruleOf?_emitted, sparedRole]
      · exact others_of_role role (.inl rfl) fun place notHide => by
          rw [ruleOf?_emitted, if_neg (sparedRole ▸ Ne.symm notHide)]
  | @unselected _ rule content read converted unselected =>
      rw [Outcome.ofSource_of_read read, converted]
      obtain ⟨notHide, notException⟩ := ContentRule.role_of_unselected unselected
      have notKept : (Outcome.converted source.text content).keptRule? exceptions = none := by
        simp [Outcome.keptRule?_converted, notHide]
      refine ⟨rfl, ?_, ?_, by rw [notKept]; rfl, ?_, ?_⟩
      · simp [Outcome.ruleOf?_converted, notException, exception?]
      · simp [Outcome.conflict?_converted, notHide, conflict?]
      · simp [notKept, ruleOf?_emitted, notHide]
      · intro place _ _
        rw [Outcome.ruleOf?_converted, ruleOf?_emitted]

end Fate

end Blocklist
