/-
This file says what a line holds that is read as a URL rule, and what the regular expression means
that is derived for the rule.
-/

import Blocklist.Filter.Url
import Blocklist.Proofs.Filter.PatternNormal

namespace Blocklist

namespace UrlRule

/-- What stands in a line behind the mark of an exception. -/
def bodyOf (line : Text) : Text := if line.startsWith ['@', '@'] then line.drop 2 else line

/-- The body of a line is the text of a pattern, with options behind a dollar sign or without. -/
inductive Holds (body : Text) : Text → List RuleOption → Prop
  | cut {raw written : Text} {options : List RuleOption}
      (found : cutOptions? body = some (raw, written))
      (read : RuleOption.parseAll written = .ok options) : Holds body raw options
  | whole (absent : cutOptions? body = none) : Holds body body []

/-- The rule that a line makes of its parts. -/
def ofParts (line : Text) (pattern : PatternTexts) (options : OptionSet) : UrlRule where
  pattern
  types := options.types
  isException := line.startsWith ['@', '@']
  thirdParty := options.thirdParty
  matchCase := options.matchCase
  includedDomains := options.includedDomains
  excludedDomains := options.excludedDomains
  line

/-- The rule is made once its parts are read. -/
def build (line raw : Text) (options : OptionSet) : Except FilterError UrlRule := do
  if options.types = ∅ then throw .unreadable
  let pattern ← patternTexts raw options.matchCase
  return ofParts line pattern options

theorem parse_eq_build (line : Text) :
    parse line =
      match cutOptions? (bodyOf line) with
      | some (raw, written) =>
          RuleOption.parseAll written >>= fun options => build line raw (OptionSet.ofList options)
      | none => build line (bodyOf line) (OptionSet.ofList []) := by
  unfold parse bodyOf
  dsimp only
  split
  case h_1 raw written found =>
    rw [found]
    rfl
  case h_2 absent =>
    rw [absent]
    -- With the list known, the test of the types would be run instead of compared.
    generalize ([] : List RuleOption) = options
    rfl

theorem build_eq_ok {line raw : Text} {options : OptionSet} {rule : UrlRule}
    (built : build line raw options = .ok rule) :
    options.types ≠ ∅ ∧ ∃ pattern, patternTexts raw options.matchCase = .ok pattern ∧
      rule = ofParts line pattern options := by
  unfold build at built
  split at built
  case isTrue => cases built
  case isFalse someType =>
    obtain ⟨pattern, written, same⟩ := bind_eq_ok.mp built
    exact ⟨someType, pattern, written, (Except.ok.inj same).symm⟩

/-- A line that is read holds options that leave a type, and a pattern that can be written. -/
theorem parse_eq_ok {line : Text} {rule : UrlRule} (parsed : parse line = .ok rule) :
    ∃ raw options pattern, Holds (bodyOf line) raw options ∧
      (OptionSet.ofList options).types ≠ ∅ ∧
      patternTexts raw (OptionSet.ofList options).matchCase = .ok pattern ∧
      rule = ofParts line pattern (OptionSet.ofList options) := by
  rw [parse_eq_build] at parsed
  split at parsed
  case h_1 raw written found =>
    obtain ⟨options, read, built⟩ := bind_eq_ok.mp parsed
    obtain ⟨someType, pattern, ready, made⟩ := build_eq_ok built
    exact ⟨raw, options, pattern, .cut found read, someType, ready, made⟩
  case h_2 absent =>
    obtain ⟨someType, pattern, ready, made⟩ := build_eq_ok parsed
    exact ⟨bodyOf line, [], pattern, .whole absent, someType, ready, made⟩

/-- A pattern is a regular expression between slashes, or one is derived from it. -/
theorem patternTexts_eq_ok {raw : Text} {matchCase : Bool} {texts : PatternTexts}
    (written : patternTexts raw matchCase = .ok texts) :
    (∃ body, (Pattern.ofRaw raw).regexBody? = some body ∧
        texts = ⟨some (Pattern.unescape body), none, raw⟩) ∨
      ∃ derived, (Pattern.ofRaw raw).regexBody? = none ∧
        (Pattern.ofRaw raw).derive matchCase = .ok derived ∧
        texts = ⟨none, some derived, raw⟩ := by
  unfold patternTexts at written
  dsimp only at written
  split at written
  case h_1 body found => exact .inl ⟨body, found, (Except.ok.inj written).symm⟩
  case h_2 absent =>
    obtain ⟨derived, derives, rfl⟩ := map_eq_ok.mp written
    exact .inr ⟨derived, absent, derives, rfl⟩

/-- The rule for images on a host and its subdomains. -/
def bannerRule : UrlRule :=
  ofParts "||Ads.example^*Banner*$image".toList
    ⟨none, some ("^[^:]+:(//)?([^/]+\\.)?ads\\.example([^a-zA-Z0-9_.%-]|$).*banner".toList),
      "||Ads.example^*Banner*".toList⟩
    { OptionSet.empty with wanted := .image }

end UrlRule

end Blocklist
