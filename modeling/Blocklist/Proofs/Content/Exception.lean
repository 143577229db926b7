/-
This file says that an exception mirrors the rule that blocks: with the mark of an exception in
front, a line is read alike, and what is read is converted to a rule with the same trigger, unless
the exception is one for whole pages or for hiding.
-/

import Blocklist.Proofs.Content.Conversion
import Blocklist.Proofs.Filter.UrlRule

namespace Blocklist

open Text

/-- The content rule that ignores what the rule does to the requests of its trigger. -/
def ContentRule.ignored (content : ContentRule) : ContentRule :=
  { content with action := .ignorePreviousRules none }

namespace UrlRule

/-- The mark of an exception. -/
def exceptionMark : Text := ['@', '@']

/-- The exception that has the text of the rule. -/
def excepted (rule : UrlRule) : UrlRule :=
  { rule with isException := true, line := exceptionMark ++ rule.line }

theorem build_excepted (text raw : Text) (options : OptionSet) :
    build (exceptionMark ++ text) raw options = (build text raw options).map excepted := by
  unfold build
  split
  case isTrue => rfl
  case isFalse => cases patternTexts raw options.matchCase <;> rfl

section Reading

variable {text : Text} (unmarked : text.startsWith exceptionMark = false)
include unmarked

theorem bodyOf_excepted : bodyOf (exceptionMark ++ text) = bodyOf text := by
  have same : bodyOf text = text := by
    rw [bodyOf]
    exact if_neg (by simpa [exceptionMark] using unmarked)
  rw [same]
  rfl

/-- A line is read with the mark of an exception as it is without, or it fails alike. -/
theorem parse_excepted : parse (exceptionMark ++ text) = (parse text).map excepted := by
  rw [parse_eq_build, parse_eq_build, bodyOf_excepted unmarked]
  split
  case h_1 raw written _ =>
    cases RuleOption.parseAll written with
    | error cause => rfl
    | ok options => exact build_excepted text raw (OptionSet.ofList options)
  case h_2 => exact build_excepted text (bodyOf text) (OptionSet.ofList [])

theorem blocks_of_parse {rule : UrlRule} (parsed : parse text = .ok rule) :
    rule.isException = false ∧ rule.line = text := by
  obtain ⟨_, _, _, -, -, -, rfl⟩ := parse_eq_ok parsed
  exact ⟨unmarked, rfl⟩

end Reading

section Conversion

variable {rule : UrlRule} (noHiding : rule.types.contains .elemHide = false)
  (noUrls : rule.types ≠ .urlBlock ∪ .all)
include noHiding noUrls

theorem exemptsPages_eq_false : rule.exemptsPages = false := by
  have noDocuments : rule.types ≠ .document ∪ .all := by
    intro same
    rw [same] at noHiding
    revert noHiding
    decide
  simp [exemptsPages, noDocuments, noUrls]

/-- An exception that is neither for pages nor for hiding leaves the trigger as it is. -/
theorem exempt_eq_ok (trigger : Trigger) : rule.exempt trigger = .ok trigger := by
  rw [exempt, exemptsPages_eq_false noHiding noUrls, noHiding]
  cases rule.isException <;> rfl

/-- The exception has the trigger of the rule, or fails alike. -/
theorem convert_excepted :
    rule.excepted.convert = rule.convert.map ContentRule.ignored := by
  have sameConditions : rule.excepted.conditions = rule.conditions := rfl
  rw [convert_eq_conditions, convert_eq_conditions, sameConditions]
  cases rule.conditions with
  | error cause => rfl
  | ok trigger =>
      have noHidingEither : rule.excepted.types.contains .elemHide = false := noHiding
      change (rule.excepted.exempt trigger).map _ = ((rule.exempt trigger).map _).map _
      rw [exempt_eq_ok noHiding noUrls, exempt_eq_ok noHidingEither noUrls]
      rfl

end Conversion

/-- With the mark of an exception in front, a line that blocks gives the same rule as an exception,
or the same error; and unless the types of the rule exempt whole pages or hiding, the exception is
converted to a rule with the same trigger that ignores what is blocked, or fails alike. -/
theorem exception_mirrors {text : Text} (unmarked : text.startsWith exceptionMark = false) :
    parse (exceptionMark ++ text) = (parse text).map excepted ∧
      ∀ rule, parse text = .ok rule → rule.isException = false ∧ rule.line = text ∧
        (rule.types.contains .elemHide = false → rule.types ≠ .urlBlock ∪ .all →
          rule.excepted.convert = rule.convert.map ContentRule.ignored ∧
            ∀ content, rule.convert = .ok content → content.action = .block) := by
  refine ⟨parse_excepted unmarked, ?_⟩
  intro rule parsed
  obtain ⟨blocks, whole⟩ := blocks_of_parse unmarked parsed
  refine ⟨blocks, whole, ?_⟩
  intro noHiding noUrls
  refine ⟨convert_excepted noHiding noUrls, ?_⟩
  intro content converted
  obtain ⟨_, _, _, -, -, -, -, action⟩ := convert_eq_ok converted
  rw [action, blocks]
  rfl

/-- A rule whose pattern is a regular expression with a dollar sign, in front of an option. -/
def bannerScripts : UrlRule :=
  ofParts "/banner$/$script".toList ⟨some "banner$".toList, none, "/banner$/".toList⟩
    { OptionSet.empty with wanted := .script }

theorem exception_mirrors_bannerScripts :
    parse bannerScripts.line = .ok bannerScripts ∧
      parse (exceptionMark ++ bannerScripts.line) = .ok bannerScripts.excepted ∧
      bannerScripts.excepted.convert = bannerScripts.convert.map ContentRule.ignored := by
  have parsed : parse bannerScripts.line = .ok bannerScripts := by decide +kernel
  obtain ⟨read, mirrored⟩ := exception_mirrors (show bannerScripts.line.startsWith exceptionMark =
    false by decide)
  rw [parsed] at read
  obtain ⟨-, -, converted⟩ := mirrored bannerScripts parsed
  exact ⟨parsed, read, (converted (by decide) (by decide)).1⟩

end UrlRule

end Blocklist
