/-
This file says what an option of a URL rule is read as, and what the options of a rule say together
about domains: the entries of all domain options count, one option after the other.
-/

import Blocklist.Filter.RuleOption
import Blocklist.Proofs.Correspondence
import Blocklist.Proofs.Filter.DomainEntry

namespace Blocklist

open Text

namespace DomainEntry

/-- An option keeps the entries with a name that is no regular expression. -/
def isNamed (entry : DomainEntry) : Bool := !entry.name.isEmpty && !entry.isSlashed

end DomainEntry

namespace RuleOption

/-- What an option text is read as, given by the name in it and the tilde in front. -/
inductive Means (text : Text) : RuleOption → Prop
  | domains (named : (split text).1 = "domain".toList)
      (someEntry : domainEntries (split text).2 ≠ []) :
      Means text (.domains (domainEntries (split text).2))
  | thirdParty (named : (split text).1 = "third-party".toList ∨ (split text).1 = "3p".toList) :
      Means text (.party !text.startsWith ['~'])
  | firstParty (named : (split text).1 = "first-party".toList ∨ (split text).1 = "1p".toList) :
      Means text (.party (text.startsWith ['~']))
  | matchCase (named : (split text).1 = "match-case".toList)
      (plain : text.startsWith ['~'] = false) : Means text .matchCase
  | request {types : TypeMask} (named : typesNamed? (split text).1 requestTypes = some types) :
      Means text (.request types !text.startsWith ['~'])
  | pageException {types : TypeMask}
      (named : typesNamed? (split text).1 pageExceptions = some types)
      (plain : text.startsWith ['~'] = false) : Means text (.pageException types)

theorem means_of_parse {text : Text} {option : RuleOption} (read : parse text = .ok option) :
    Means text option := by
  unfold parse at read
  dsimp only at read
  split at read
  case isTrue domain =>
    split at read
    case isTrue => cases read
    case isFalse someEntry =>
      obtain rfl := Except.ok.inj read
      exact .domains domain (by simpa using someEntry)
  split at read
  case isTrue third =>
    obtain rfl := Except.ok.inj read
    exact .thirdParty third
  split at read
  case isTrue first =>
    obtain rfl := Except.ok.inj read
    exact .firstParty first
  split at read
  case isTrue matchCase =>
    split at read
    case isTrue => cases read
    case isFalse plain =>
      obtain rfl := Except.ok.inj read
      exact .matchCase matchCase (by simpa using plain)
  split at read
  case h_1 types named =>
    obtain rfl := Except.ok.inj read
    exact .request named
  case h_2 types _ named =>
    split at read
    case isTrue => cases read
    case isFalse plain =>
      obtain rfl := Except.ok.inj read
      exact .pageException named (by simpa using plain)
  case h_3 => cases read

/-- The entries of a domain option. -/
def entries : RuleOption → List DomainEntry
  | .domains entries => entries
  | _ => []

/-- The option text names domains. -/
def isDomains (text : Text) : Bool := (split text).1 == "domain".toList

/-- The domains that an option text names between bars, as they are written. -/
def writtenDomains (text : Text) : List Text :=
  if isDomains text then fields '|' (split text).2 else []

/-- Only a domain option has entries, and it has one at least. -/
theorem Means.entries_eq {text : Text} {option : RuleOption} (means : Means text option) :
    option.entries = ((writtenDomains text).map DomainEntry.ofText).filter DomainEntry.isNamed ∧
      (isDomains text = true → option.entries ≠ []) := by
  have ofOther : (split text).1 ≠ "domain".toList → option.entries = [] →
      option.entries =
          ((writtenDomains text).map DomainEntry.ofText).filter DomainEntry.isNamed ∧
        (isDomains text = true → option.entries ≠ []) := by
    intro other noEntry
    have notDomains : isDomains text = false := by simpa [isDomains] using other
    rw [noEntry, writtenDomains, notDomains]
    simp
  cases means with
  | domains named someEntry =>
      have domains : isDomains text = true := by rw [isDomains, named, beq_self_eq_true]
      rw [writtenDomains, if_pos domains]
      exact ⟨rfl, fun _ => someEntry⟩
  | thirdParty named =>
      apply ofOther _ rfl
      rcases named with same | same <;> rw [same] <;> decide
  | firstParty named =>
      apply ofOther _ rfl
      rcases named with same | same <;> rw [same] <;> decide
  | matchCase named =>
      apply ofOther _ rfl
      rw [named]
      decide
  | request named =>
      apply ofOther _ rfl
      intro domain
      rw [domain] at named
      cases named
  | pageException named =>
      apply ofOther _ rfl
      intro domain
      rw [domain] at named
      cases named

theorem entries_of_parseAll {texts : List Text} {options : List RuleOption}
    (read : List.Forall₂ (fun text option => parse text = .ok option) texts options) :
    options.flatMap entries =
      ((texts.flatMap writtenDomains).map DomainEntry.ofText).filter DomainEntry.isNamed := by
  induction read with
  | nil => rfl
  | cons first _ inductionHypothesis =>
      rw [List.flatMap_cons, inductionHypothesis, (means_of_parse first).entries_eq.1]
      simp

end RuleOption

namespace OptionSet

open RuleOption

theorem foldl_add_domains (options : List RuleOption) (set : OptionSet) :
    (options.foldl add set).includedDomains =
        set.includedDomains ++ DomainEntry.included (options.flatMap entries) ∧
      (options.foldl add set).excludedDomains =
        set.excludedDomains ++ DomainEntry.excludedNames (options.flatMap entries) := by
  induction options generalizing set with
  | nil => simp [DomainEntry.included, DomainEntry.excludedNames]
  | cons option options inductionHypothesis =>
      have step : (set.add option).includedDomains =
            set.includedDomains ++ DomainEntry.included option.entries ∧
          (set.add option).excludedDomains =
            set.excludedDomains ++ DomainEntry.excludedNames option.entries := by
        cases option with
        | domains entries => exact ⟨rfl, rfl⟩
        | request types wanted =>
            cases wanted <;> exact ⟨(List.append_nil _).symm, (List.append_nil _).symm⟩
        | _ => exact ⟨(List.append_nil _).symm, (List.append_nil _).symm⟩
      obtain ⟨included, excluded⟩ := inductionHypothesis (set.add option)
      rw [List.foldl_cons, included, excluded, step.1, step.2]
      simp

/-- The domains of a set of options are those of all entries, in order. -/
theorem ofList_domains (options : List RuleOption) :
    (ofList options).includedDomains = DomainEntry.included (options.flatMap entries) ∧
      (ofList options).excludedDomains =
        DomainEntry.excludedNames (options.flatMap entries) :=
  foldl_add_domains options empty

end OptionSet

end Blocklist
