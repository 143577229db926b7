/-
This file says when the filter of a converted line ends inside an escape, and when it is empty. Bars
before dollar signs are deleted from a filter, be they escaped or not, and the body of a regular
expression may be empty and may end in a backslash.
-/

import Blocklist.Proofs.Content.Restriction
import Blocklist.Proofs.Filter.PatternEnds

namespace Blocklist

open Text

/-- A filter is its pattern without bars before dollar signs. -/
theorem UrlFilter.ofPattern_eq_ok {pattern filter : Text}
    (translated : ofPattern pattern = .ok filter) :
    filter = replacePair '|' '$' [] pattern := by
  unfold ofPattern at translated
  dsimp only at translated
  split at translated
  case isTrue => cases translated
  split at translated
  case isTrue => cases translated
  case isFalse => exact (Except.ok.inj translated).symm

namespace UrlRule

/-- A rule leaves an escape open at the end of its filter. Its pattern is a regular expression with
an odd number of backslashes at the end, or a bar stands in front of the end anchor. -/
inductive LeavesEscapeOpen (rule : UrlRule) : Prop
  | body {body : Text} (delimited : rule.pattern.raw = '/' :: (body ++ ['/']))
      (odd : Pattern.openBackslashes body.reverse % 2 = 1) : LeavesEscapeOpen rule
  | bar {normal : Pattern}
      (normalized : (Pattern.ofRaw rule.pattern.raw).trimStars.normalize rule.matchCase =
        .ok normal)
      (endAnchored : normal.endAnchored = true) (bar : normal.text.getLast? = some '|') :
      LeavesEscapeOpen rule

theorem Exempts.urlFilter {rule : UrlRule} {trigger exempted : Trigger}
    (exempts : rule.Exempts trigger exempted) :
    exempted.urlFilter =
      if rule.pinsDomain then Trigger.anyUrl.urlFilter else trigger.urlFilter := by
  cases exempts with
  | unchanged plain => rw [pinsDomain_of_plain plain, if_neg Bool.false_ne_true]
  | pinned isException exemptsPages => simp [pinsDomain, isException, exemptsPages]
  | documents isException exemptsPages => simp [pinsDomain, exemptsPages]

section Filter

variable {line : Text} {rule : UrlRule}

theorem urlFilter_of_convert {content : ContentRule} (converted : rule.convert = .ok content) :
    content.trigger.urlFilter =
      if rule.pinsDomain then Trigger.anyUrl.urlFilter
      else replacePair '|' '$' [] rule.pattern.urlFilter := by
  obtain ⟨filter, _, _, translated, -, -, exempts, -⟩ := convert_eq_ok converted
  rw [exempts.urlFilter, ← UrlFilter.ofPattern_eq_ok translated]
  rfl

theorem derive_of_plain (parsed : parse line = .ok rule) (plain : rule.pattern.regex = none) :
    (Pattern.ofRaw rule.pattern.raw).derive rule.matchCase = .ok rule.pattern.urlFilter := by
  obtain ⟨raw, options, pattern, -, -, written, rfl⟩ := parse_eq_ok parsed
  rcases patternTexts_eq_ok written with ⟨_, -, rfl⟩ | ⟨derived, -, derives, rfl⟩
  · cases plain
  · obtain ⟨first, rest, rfl, -⟩ := Pattern.head_derive derives
    exact derives

/-- The filter of a rule comes from the body of a regular expression or from what is derived. -/
theorem urlFilter_of_parse (parsed : parse line = .ok rule) :
    (∃ body, rule.pattern.raw = '/' :: (body ++ ['/']) ∧
        rule.pattern.urlFilter = Pattern.unescape body) ∨
      ∃ derived, (∀ body, rule.pattern.raw ≠ '/' :: (body ++ ['/'])) ∧
        (Pattern.ofRaw rule.pattern.raw).derive rule.matchCase = .ok derived ∧
        rule.pattern.urlFilter = derived := by
  obtain ⟨raw, options, pattern, -, -, written, rfl⟩ := parse_eq_ok parsed
  rcases patternTexts_eq_ok written with ⟨body, found, rfl⟩ | ⟨derived, absent, derives, rfl⟩
  · exact .inl ⟨body, Pattern.regexBody?_ofRaw_iff.mp found, rfl⟩
  · refine .inr ⟨derived, fun body delimited => ?_, derives, ?_⟩
    · cases absent.symm.trans (Pattern.regexBody?_ofRaw_iff.mpr delimited)
    · obtain ⟨first, rest, rfl, -⟩ := Pattern.head_derive derives
      rfl

theorem deleted_endsInEscape_iff (parsed : parse line = .ok rule) :
    endsInEscape (replacePair '|' '$' [] rule.pattern.urlFilter) = true ↔
      rule.LeavesEscapeOpen := by
  rcases urlFilter_of_parse parsed with
    ⟨body, delimited, same⟩ | ⟨derived, noBody, derives, rfl⟩
  · have parity := Pattern.endsInEscape_unescape body.reverse
    rw [List.reverse_reverse, ← same] at parity
    rw [parity, decide_eq_true_eq]
    constructor
    · exact .body delimited
    · rintro (⟨sameDelimited, odd⟩ | ⟨normalized, endAnchored, -⟩)
      · obtain ⟨-, sameBody⟩ := List.cons.inj (delimited.symm.trans sameDelimited)
        rwa [List.append_cancel_right sameBody]
      · have whole := Pattern.regexBody?_eq_some_iff.mp
          (Pattern.regexBody?_ofRaw_iff.mpr delimited)
        rw [Pattern.endAnchored_of_normalize normalized, whole] at endAnchored
        cases endAnchored
  · rw [Pattern.endsInEscape_derive_iff derives]
    constructor
    · rintro ⟨normal, normalized, endAnchored, bar⟩
      exact .bar normalized endAnchored bar
    · rintro (⟨delimited, -⟩ | ⟨normalized, endAnchored, bar⟩)
      · exact absurd delimited (noBody _)
      · exact ⟨_, normalized, endAnchored, bar⟩

theorem deleted_eq_nil_iff (parsed : parse line = .ok rule) :
    replacePair '|' '$' [] rule.pattern.urlFilter = [] ↔
      ∃ count, rule.pattern.raw = '/' :: (Pattern.endBars count ++ ['/']) := by
  rcases urlFilter_of_parse parsed with
    ⟨body, delimited, same⟩ | ⟨derived, noBody, derives, rfl⟩
  · rw [same, Pattern.deleted_unescape_eq_nil_iff, delimited]
    simp
  · obtain ⟨first, rest, begins, noBar⟩ := Pattern.head_derive derives
    rw [begins, deletePair_eq_nil_iff]
    constructor
    · rintro ⟨count, bars⟩
      cases count with
      | zero => cases bars
      | succ count => exact absurd (List.cons.inj bars).1 noBar
    · rintro ⟨count, delimited⟩
      exact absurd delimited (noBody _)

end Filter

end UrlRule

theorem FilterRule.parse_eq_url {line : Text} {rule : UrlRule}
    (parsed : FilterRule.parse line = .ok (.url rule)) : UrlRule.parse (trim line) = .ok rule := by
  unfold FilterRule.parse at parsed
  dsimp only at parsed
  split at parsed
  case isTrue => cases parsed
  split at parsed
  case h_1 =>
    obtain ⟨found, read, same⟩ := map_eq_ok.mp parsed
    cases same
    exact read
  case h_2 =>
    obtain ⟨_, -, same⟩ := map_eq_ok.mp parsed
    cases same
  case h_3 => cases parsed
  case h_4 => cases parsed
  case h_5 => cases parsed

namespace ContentRule

section Lines

variable {line : Text} {content : ContentRule}

theorem ofLine_eq_ok {parser : FilterRule.Parser}
    (converted : ofLine parser line = .ok (some content)) :
    ∃ rule, parser (trim line) = .ok rule ∧ rule.convert = .ok content := by
  unfold ofLine at converted
  split at converted
  case isTrue => cases converted
  split at converted
  case h_1 => cases converted
  case h_2 rule parsed =>
    obtain ⟨_, convertedRule, same⟩ := map_eq_ok.mp converted
    exact ⟨rule, parsed, Option.some.inj same ▸ convertedRule⟩

/-- The filter of a line that is converted is the one for any URL, unless the line holds a URL rule
that is pinned to no page. -/
theorem urlFilter_iff (meets : Text → Prop) (notAny : ¬meets Trigger.anyUrl.urlFilter)
    (converted : ofLine FilterRule.parse line = .ok (some content)) :
    meets content.trigger.urlFilter ↔
      ∃ rule, FilterRule.parse (trim line) = .ok (.url rule) ∧ rule.pinsDomain = false ∧
        meets (replacePair '|' '$' [] rule.pattern.urlFilter) := by
  obtain ⟨rule, parsed, convertedRule⟩ := ofLine_eq_ok converted
  rw [parsed]
  cases rule with
  | cosmetic rule =>
      obtain ⟨scope, -, trigger, -⟩ := CosmeticRule.convert_eq_ok convertedRule
      rw [trigger]
      refine iff_of_false notAny ?_
      rintro ⟨_, same, -⟩
      cases same
  | script => cases convertedRule
  | url rule =>
      rw [UrlRule.urlFilter_of_convert convertedRule]
      constructor
      · intro met
        cases pinned : rule.pinsDomain with
        | true =>
            rw [pinned] at met
            exact absurd met notAny
        | false =>
            rw [pinned] at met
            exact ⟨rule, rfl, pinned, met⟩
      · rintro ⟨found, same, unpinned, met⟩
        obtain rfl : rule = found := FilterRule.url.inj (Except.ok.inj same)
        rwa [unpinned, if_neg Bool.false_ne_true]

/-- The filter of a converted line ends in an escape exactly when the line holds a URL rule that
leaves an escape open and is pinned to no page. -/
theorem urlFilter_endsInEscape_iff
    (converted : ofLine FilterRule.parse line = .ok (some content)) :
    endsInEscape content.trigger.urlFilter = true ↔
      ∃ rule, FilterRule.parse (trim line) = .ok (.url rule) ∧ rule.pinsDomain = false ∧
        rule.LeavesEscapeOpen := by
  rw [urlFilter_iff (fun filter => endsInEscape filter = true) (by decide) converted]
  refine exists_congr fun rule => and_congr_right fun parsed => and_congr_right fun _ => ?_
  exact UrlRule.deleted_endsInEscape_iff (FilterRule.parse_eq_url parsed)

/-- The rule that blocks what a filter finds, as it is converted. -/
def blocking (urlFilter : Text) : ContentRule := ⟨Trigger.ofUrlFilter urlFilter, .block⟩

theorem urlFilter_endsInEscape_body :
    ofLine FilterRule.parse "/ads\\|$/".toList = .ok (some (blocking "ads\\".toList)) ∧
      endsInEscape "ads\\".toList = true ∧
      ∃ rule, FilterRule.parse (trim "/ads\\|$/".toList) = .ok (.url rule) ∧
        rule.pinsDomain = false ∧ rule.LeavesEscapeOpen := by
  have converted : ofLine FilterRule.parse "/ads\\|$/".toList =
      .ok (some (blocking "ads\\".toList)) := by decide +kernel
  exact ⟨converted, by decide, (urlFilter_endsInEscape_iff converted).mp (by decide)⟩

/-- A filter ends in an escape when a bar stands before the end anchor of a hostname, and when a
body ends in an escaped slash. -/
theorem urlFilter_brokenEscape :
    ∃ host body, ofLine FilterRule.parse "||example.com||".toList = .ok (some host) ∧
      endsInEscape host.trigger.urlFilter = true ∧
      ofLine FilterRule.parse "/abc\\/".toList = .ok (some body) ∧
      endsInEscape body.trigger.urlFilter = true :=
  ⟨blocking "^[^:]+:(//)?([^/]+\\.)?example\\.com\\".toList, blocking "abc\\".toList,
    by decide +kernel, by decide, by decide +kernel, by decide⟩

/-- The filter of a converted line is empty exactly when the line holds a URL rule whose pattern is
an empty regular expression, or one of bars before dollar signs, and that is pinned to no page. -/
theorem urlFilter_eq_nil_iff
    (converted : ofLine FilterRule.parse line = .ok (some content)) :
    content.trigger.urlFilter = [] ↔
      ∃ rule, FilterRule.parse (trim line) = .ok (.url rule) ∧ rule.pinsDomain = false ∧
        ∃ count, rule.pattern.raw = '/' :: (Pattern.endBars count ++ ['/']) := by
  rw [urlFilter_iff (fun filter => filter = []) (by decide) converted]
  refine exists_congr fun rule => and_congr_right fun parsed => and_congr_right fun _ => ?_
  exact UrlRule.deleted_eq_nil_iff (FilterRule.parse_eq_url parsed)

theorem urlFilter_eq_nil_images :
    ∃ content, ofLine FilterRule.parse "/|$|$/$image".toList = .ok (some content) ∧
      content.trigger.resourceTypes = some [.image] ∧
      ∃ rule, FilterRule.parse (trim "/|$|$/$image".toList) = .ok (.url rule) ∧
        rule.pinsDomain = false ∧
        ∃ count, rule.pattern.raw = '/' :: (Pattern.endBars count ++ ['/']) := by
  have converted : ofLine FilterRule.parse "/|$|$/$image".toList =
      .ok (some ⟨{ Trigger.ofUrlFilter [] with resourceTypes := some [.image] }, .block⟩) := by
    decide +kernel
  exact ⟨_, converted, rfl, (urlFilter_eq_nil_iff converted).mp rfl⟩

/-- Two slashes with nothing between them, or with a bar before a dollar sign, are a filter without
a character. -/
theorem urlFilter_missing :
    ∃ empty barred, ofLine FilterRule.parse "//".toList = .ok (some empty) ∧
      empty.trigger.urlFilter = [] ∧
      ofLine FilterRule.parse "/|$/".toList = .ok (some barred) ∧
      barred.trigger.urlFilter = [] :=
  ⟨blocking [], blocking [], by decide +kernel, rfl, by decide +kernel, rfl⟩

end Lines

end ContentRule

end Blocklist
