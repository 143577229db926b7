/-
This file says when two lines that differ in the case of their pattern give the same rule. The case
counts where fixed words are looked for as they are written: the start of a web socket, and for an
exception for whole pages the scheme of its pattern and the mark of a domain.
-/

import Blocklist.Proofs.Content.PinnedDomain
import Blocklist.Proofs.Content.TypeRestriction
import Blocklist.Proofs.Content.UrlFilter
import Blocklist.Proofs.Filter.LetterCase

namespace Blocklist

open Text

section WebSocket

variable {first second : Pattern}

theorem UrlFilter.ofPattern_webSocket {pattern : Pattern} (webSocket : pattern.isWebSocket = true) :
    ofPattern pattern.regex = .ok pattern.regex ∧ pattern.regex ≠ Pattern.webSocketRegex := by
  obtain ⟨left, text, endAnchored⟩ := pattern
  obtain ⟨rfl, rfl | rfl⟩ := Pattern.isWebSocket_iff.mp webSocket <;> cases endAnchored <;> decide

/-- The filter of a web socket differs from that of a pattern which is not one only by its case. -/
theorem UrlFilter.ofPattern_of_webSocket {firstDerived secondDerived : Text}
    (same : first.uncased = second.uncased) (webSocket : first.isWebSocket = true)
    (noWebSocket : second.isWebSocket = false)
    (derivesFirst : first.derive false = .ok firstDerived)
    (derivesSecond : second.derive false = .ok secondDerived) :
    ofPattern firstDerived = .ok Pattern.webSocketRegex ∧
      ofPattern secondDerived = .ok first.regex ∧ first.regex ≠ Pattern.webSocketRegex := by
  have writesFirst : first.derive false = .ok Pattern.webSocketRegex := by
    rw [Pattern.derive, webSocket, if_pos rfl]
  have writesSecond := Pattern.derive_of_webSocket same webSocket noWebSocket
  obtain rfl := Except.ok.inj (derivesFirst.symm.trans writesFirst)
  obtain rfl := Except.ok.inj (derivesSecond.symm.trans writesSecond)
  have found : ofPattern Pattern.webSocketRegex = .ok Pattern.webSocketRegex := by decide
  exact ⟨found, ofPattern_webSocket webSocket⟩

/-- Patterns that differ in their case have the same filter unless one of them is that of a web
socket, and all of them have one or none. -/
theorem UrlFilter.ofPattern_recased {firstDerived secondDerived : Text}
    (same : first.uncased = second.uncased)
    (derivesFirst : first.derive false = .ok firstDerived)
    (derivesSecond : second.derive false = .ok secondDerived) :
    (ofPattern firstDerived = ofPattern secondDerived ↔
        first.isWebSocket = second.isWebSocket) ∧
      ((∃ filter, ofPattern firstDerived = .ok filter) →
        ∃ filter, ofPattern secondDerived = .ok filter) := by
  by_cases sockets : first.isWebSocket = second.isWebSocket
  · have sameDerived := Pattern.derive_recased same sockets
    rw [derivesFirst, derivesSecond] at sameDerived
    obtain rfl := Except.ok.inj sameDerived
    exact ⟨iff_of_true rfl sockets, id⟩
  cases firstSocket : first.isWebSocket with
  | true =>
      have secondPlain : second.isWebSocket = false := by simpa [firstSocket] using sockets
      obtain ⟨found, translated, apart⟩ :=
        ofPattern_of_webSocket same firstSocket secondPlain derivesFirst derivesSecond
      rw [found, translated, secondPlain]
      refine ⟨iff_of_false (fun equal => ?_) Bool.noConfusion, fun _ => ⟨_, rfl⟩⟩
      exact apart (Except.ok.inj equal).symm
  | false =>
      have secondSocket : second.isWebSocket = true := by simpa [firstSocket] using sockets
      obtain ⟨found, translated, apart⟩ :=
        ofPattern_of_webSocket same.symm secondSocket firstSocket derivesSecond derivesFirst
      rw [found, translated, secondSocket]
      refine ⟨iff_of_false (fun equal => ?_) Bool.noConfusion, fun _ => ⟨_, rfl⟩⟩
      exact apart (Except.ok.inj equal)

end WebSocket

namespace NamedPage

section Page

variable {first second : Text}

/-- Two addresses that differ in their case name the same page. -/
theorem ofText_recased (same : (address first).uncased = (address second).uncased) :
    (ofText first).domain = (ofText second).domain ∧
      (ofText first).isWhole = (ofText second).isWhole := by
  have inName : ∀ c : Char, c.isAlpha = true → (!endsDomain c) = true := fun c letter => by
    rw [endsDomain, beq_false_of_ne (ne_of_isAlpha (by decide) letter),
      beq_false_of_ne (ne_of_isAlpha (by decide) letter)]
    rfl
  have names : (leading (address first)).uncased = (leading (address second)).uncased := by
    rw [leading, leading, ← takeWhile_uncased inName, same, takeWhile_uncased inName]
  have paths : (ofText first).path.uncased = (ofText second).path.uncased := by
    change Text.uncased ((address first).dropWhile _) = Text.uncased ((address second).dropWhile _)
    rw [← dropWhile_uncased inName, same, dropWhile_uncased inName]
  have samePath {ending : Text} (noLetters : ending.any Char.isAlpha = false) :
      ((ofText first).path == ending) = ((ofText second).path == ending) := by
    rw [Bool.eq_iff_iff, beq_iff_eq, beq_iff_eq, ← uncased_eq_iff noLetters, paths,
      uncased_eq_iff noLetters]
  constructor
  · change (Hostname.normalize? (leading (address first))).filter _ =
      (Hostname.normalize? (leading (address second))).filter _
    rw [← Hostname.normalize?_uncased, names, Hostname.normalize?_uncased]
  · rw [isWhole, isWhole, samePath (by decide), samePath (by decide), samePath (by decide)]

/-- The ends of texts that differ in their case do so too. -/
theorem uncased_suffix {front back : Text} {otherFront otherBack : Text}
    (same : (front ++ back).uncased = (otherFront ++ otherBack).uncased)
    (length : back.length = otherBack.length) : back.uncased = otherBack.uncased := by
  rw [uncased_append, uncased_append] at same
  exact (List.append_inj' same (by simp [length])).2

theorem dropScheme_suffix (raw : Text) : ∃ scheme, raw = scheme ++ dropScheme raw := by
  rw [dropScheme]
  cases found : schemes.findSome? fun scheme => after? raw scheme.toList with
  | none => exact ⟨[], rfl⟩
  | some behind =>
      obtain ⟨scheme, -, begins⟩ := List.exists_of_findSome?_eq_some found
      exact ⟨scheme.toList, after?_eq_some_iff.mp begins⟩

variable {written : Text}

theorem address_of_noMark (noMark : behind? domainMark (first ++ '$' :: written) = none) :
    ∃ behind, cutLast? '$' (dropScheme first ++ '$' :: written) =
      some (address (first ++ '$' :: written), behind) := by
  have hasOptions : (first ++ '$' :: written).contains '$' = true := by simp
  obtain ⟨before, behind, cut⟩ : ∃ before behind,
      cutLast? '$' (dropScheme first ++ '$' :: written) = some (before, behind) :=
    exists_cutLast? (by simp)
  have same : address (first ++ '$' :: written) = before := by
    change behind? "domain=".toList _ = none at noMark
    rw [address, if_pos hasOptions, noMark]
    dsimp only
    rw [dropScheme_append_cons, cut]
  exact ⟨behind, same ▸ cut⟩

/-- Two bodies with the same options that differ in the case of their patterns have the same address
but for its case, if a scheme and the mark of a domain are found alike in both patterns. -/
theorem address_recased (same : first.uncased = second.uncased)
    (schemes : (dropScheme first).length = (dropScheme second).length)
    (marks : (behind? domainMark first).map List.length =
      (behind? domainMark second).map List.length) :
    (address (first ++ '$' :: written)).uncased = (address (second ++ '$' :: written)).uncased := by
  have noComma : ∀ c : Char, c.isAlpha = true → decide (c ≠ ',') = true := fun c letter =>
    decide_eq_true (ne_of_isAlpha (by decide) letter)
  cases foundFirst : behind? domainMark first with
  | some behindFirst =>
      rw [foundFirst, Option.map_some, eq_comm, Option.map_eq_some_iff] at marks
      obtain ⟨behindSecond, foundSecond, length⟩ := marks
      obtain ⟨beforeFirst, rfl⟩ := exists_before_of_behind? foundFirst
      obtain ⟨beforeSecond, rfl⟩ := exists_before_of_behind? foundSecond
      have values := uncased_suffix same length.symm
      have taken {raw behind : Text} (found : behind? domainMark raw = some behind) :
          address (raw ++ '$' :: written) = (behind ++ '$' :: written).takeWhile (· ≠ ',') := by
        apply address_of_behind?
        rw [behind?_body, found]
        rfl
      rw [taken foundFirst, taken foundSecond, ← takeWhile_uncased noComma, uncased_append, values,
        ← uncased_append, takeWhile_uncased noComma]
  | none =>
      rw [foundFirst, Option.map_none, eq_comm, Option.map_eq_none_iff] at marks
      cases found : behind? domainMark written with
      | some behind =>
          have taken {raw : Text} (absent : behind? domainMark raw = none) :
              address (raw ++ '$' :: written) = behind.takeWhile (· ≠ ',') := by
            apply address_of_behind?
            rw [behind?_body, absent, found]
            rfl
          rw [taken foundFirst, taken marks]
      | none =>
          have noMark {raw : Text} (absent : behind? domainMark raw = none) :
              behind? domainMark (raw ++ '$' :: written) = none := by
            rw [behind?_body, absent, found]
            rfl
          obtain ⟨_, cutFirst⟩ := address_of_noMark (noMark foundFirst)
          obtain ⟨_, cutSecond⟩ := address_of_noMark (noMark marks)
          obtain ⟨schemeFirst, wholeFirst⟩ := dropScheme_suffix first
          obtain ⟨schemeSecond, wholeSecond⟩ := dropScheme_suffix second
          rw [wholeFirst, wholeSecond] at same
          have patterns := uncased_suffix same schemes
          have cut : cutLast? '$' _ = _ :=
            cutLast?_uncased (by decide) (dropScheme first ++ '$' :: written)
          rw [uncased_append, patterns, ← uncased_append, cutLast?_uncased (by decide), cutFirst,
            cutSecond] at cut
          exact (Prod.mk.inj (Option.some.inj cut)).1.symm

end Page

end NamedPage

namespace UrlRule

/-- The lines differ in the case of ASCII letters in front of their options at most. -/
structure SameButCase (first second : Text) : Prop where
  letters : first.uncased = second.uncased
  options : (cutOptions? (bodyOf first)).map Prod.snd = (cutOptions? (bodyOf second)).map Prod.snd

/-- The fixed words that are looked for in a pattern as they are written are found alike in both. -/
structure ReadsAlike (first second : Text) : Prop where
  sockets : (Pattern.ofRaw first).isWebSocket = (Pattern.ofRaw second).isWebSocket
  schemes : (NamedPage.dropScheme first).length = (NamedPage.dropScheme second).length
  marks : (NamedPage.behind? NamedPage.domainMark first).map List.length =
    (NamedPage.behind? NamedPage.domainMark second).map List.length

/-- The other rule has a whole page, which is that of the rule. -/
def SamePage (first second : UrlRule) : Prop :=
  (NamedPage.ofText second.body).isWhole = true ∧
    (NamedPage.ofText second.body).domain = (NamedPage.ofText first.body).domain

section Lines

variable {firstLine secondLine : Text} {first second : UrlRule}

/-- Two lines that differ in their case hold the same options, and patterns that differ in their
case. -/
theorem SameButCase.exists_holds {raw : Text} {options : List RuleOption}
    (same : SameButCase firstLine secondLine) (holds : Holds (bodyOf firstLine) raw options) :
    ∃ other, Holds (bodyOf secondLine) other options ∧ raw.uncased = other.uncased := by
  have bodies : (bodyOf firstLine).uncased = (bodyOf secondLine).uncased := by
    rw [← bodyOf_uncased, same.letters, bodyOf_uncased]
  have written := same.options
  cases holds with
  | whole absent =>
      rw [absent, Option.map_none, eq_comm, Option.map_eq_none_iff] at written
      exact ⟨bodyOf secondLine, .whole written, bodies⟩
  | cut found read =>
      rw [found, Option.map_some, eq_comm, Option.map_eq_some_iff] at written
      obtain ⟨⟨other, _⟩, foundOther, rfl⟩ := written
      have cuts : (cutOptions? (bodyOf firstLine)).map (Prod.map uncased uncased) =
          (cutOptions? (bodyOf secondLine)).map (Prod.map uncased uncased) := by
        rw [← cutOptions?_uncased, bodies, cutOptions?_uncased]
      rw [found, foundOther] at cuts
      exact ⟨other, .cut foundOther read, (Prod.mk.inj (Option.some.inj cuts)).1⟩

theorem SameButCase.exists_isMadeOf (same : SameButCase firstLine secondLine)
    (parsedFirst : parse firstLine = .ok first) (parsedSecond : parse secondLine = .ok second) :
    ∃ options : OptionSet, first.IsMadeOf first.pattern.raw options ∧
      second.IsMadeOf second.pattern.raw options ∧
      first.pattern.raw.uncased = second.pattern.raw.uncased := by
  obtain ⟨rawFirst, options, holdsFirst, madeFirst⟩ := holds_of_parse parsedFirst
  obtain ⟨rawSecond, holdsSecond, raws⟩ := same.exists_holds holdsFirst
  have madeSecond := isMadeOf_of_holds parsedSecond holdsSecond
  rw [madeFirst.raw, madeSecond.raw]
  exact ⟨OptionSet.ofList options, madeFirst, madeSecond, raws⟩

end Lines

/-- The rules have the same options, and they both block or both exempt. -/
structure SameOptions (first second : UrlRule) : Prop where
  isException : first.isException = second.isException
  types : first.types = second.types
  thirdParty : first.thirdParty = second.thirdParty
  matchCase : first.matchCase = second.matchCase
  includedDomains : first.includedDomains = second.includedDomains
  excludedDomains : first.excludedDomains = second.excludedDomains

namespace SameOptions

variable {first second : UrlRule} (same : SameOptions first second)
include same

theorem exemptsPages_eq : first.exemptsPages = second.exemptsPages := by
  rw [exemptsPages, exemptsPages, same.types]

theorem pinsDomain_eq : first.pinsDomain = second.pinsDomain := by
  rw [pinsDomain, pinsDomain, same.isException, same.exemptsPages_eq]

theorem requestTrigger_eq (urlFilter : Text) (resourceTypes : Option (List ResourceType)) :
    first.requestTrigger urlFilter resourceTypes =
      second.requestTrigger urlFilter resourceTypes := by
  rw [requestTrigger, requestTrigger, loadTypes, loadTypes, same.thirdParty, same.matchCase]

/-- Rules that are pinned to no domain exempt alike. -/
theorem exempt_eq (unpinned : first.pinsDomain = false) (trigger : Trigger) :
    first.exempt trigger = second.exempt trigger := by
  rw [exempt, exempt, same.isException, same.types, same.exemptsPages_eq]
  cases excepts : second.isException with
  | false => rfl
  | true =>
      rw [same.pinsDomain_eq, pinsDomain, excepts, Bool.true_and] at unpinned
      rw [unpinned]
      rfl

variable {content : ContentRule} (converted : first.convert = .ok content)
include converted

/-- Rules that are pinned to no domain are converted alike if their filters are. -/
theorem convert_iff_of_unpinned (unpinned : first.pinsDomain = false) :
    second.convert = .ok content ↔
      UrlFilter.ofPattern first.pattern.urlFilter =
        UrlFilter.ofPattern second.pattern.urlFilter := by
  obtain ⟨urlFilter, resourceTypes, scope, trigger, translated, mapped, resolved, exempted, rfl⟩ :=
    convert_eq_ok_iff.mp converted
  constructor
  · intro convertedSecond
    have filterFirst := urlFilter_of_convert converted
    have filterSecond := urlFilter_of_convert convertedSecond
    obtain ⟨_, _, _, _, translatedSecond, -⟩ := convert_eq_ok_iff.mp convertedSecond
    rw [unpinned] at filterFirst
    rw [← same.pinsDomain_eq, unpinned] at filterSecond
    rw [translated, translatedSecond, UrlFilter.ofPattern_eq_ok translated,
      UrlFilter.ofPattern_eq_ok translatedSecond]
    exact congrArg Except.ok (filterFirst.symm.trans filterSecond)
  · intro filters
    refine convert_eq_ok_iff.mpr ⟨urlFilter, resourceTypes, scope, trigger, ?_, ?_, ?_, ?_, ?_⟩
    · rw [← filters, translated]
    · rw [← same.types, mapped]
    · rw [← same.includedDomains, ← same.excludedDomains, resolved]
    · rw [← same.requestTrigger_eq, ← same.exempt_eq unpinned, exempted]
    · rw [same.isException]

/-- Rules that are pinned to a domain are converted alike if their pages are the same. -/
theorem convert_iff_of_pins (pins : first.pinsDomain = true)
    (translates : ∃ filter, UrlFilter.ofPattern second.pattern.urlFilter = .ok filter) :
    second.convert = .ok content ↔ SamePage first second := by
  obtain ⟨urlFilter, resourceTypes, scope, trigger, translated, mapped, resolved, exempted, rfl⟩ :=
    convert_eq_ok_iff.mp converted
  obtain ⟨-, noneSpared, domain, named, rfl⟩ := (exempt_eq_ok_iff_of_pins pins).mp exempted
  have pinsSecond : second.pinsDomain = true := same.pinsDomain_eq.symm.trans pins
  constructor
  · intro convertedSecond
    obtain ⟨other, pinned, whole, namedSecond⟩ := page_of_convert convertedSecond pinsSecond
    refine ⟨whole, ?_⟩
    rw [namedSecond, named]
    exact congrArg List.head? (Option.some.inj pinned).symm
  · rintro ⟨whole, samePage⟩
    obtain ⟨filter, translatedSecond⟩ := translates
    refine convert_eq_ok_iff.mpr ⟨filter, resourceTypes, scope,
      (scope.narrow (first.requestTrigger urlFilter resourceTypes)).pinnedTo domain,
      translatedSecond, ?_, ?_, ?_, ?_⟩
    · rw [← same.types, mapped]
    · rw [← same.includedDomains, ← same.excludedDomains, resolved]
    · -- The filters of the rules may differ, but a pinned trigger has neither.
      rw [← same.requestTrigger_eq]
      exact (exempt_eq_ok_iff_of_pins pinsSecond).mpr
        ⟨whole, noneSpared, domain, samePage.trans named, rfl⟩
    · rw [same.isException]

end SameOptions

section Case

variable {firstLine secondLine : Text} {first second : UrlRule}

theorem sameOptions_of_sameButCase (same : SameButCase firstLine secondLine)
    (parsedFirst : parse firstLine = .ok first) (parsedSecond : parse secondLine = .ok second) :
    SameOptions first second := by
  obtain ⟨options, madeFirst, madeSecond, -⟩ := same.exists_isMadeOf parsedFirst parsedSecond
  constructor
  case isException =>
    rw [isException_of_parse parsedFirst, isException_of_parse parsedSecond,
      ← startsWith_uncased (by decide), same.letters, startsWith_uncased (by decide)]
  case types => rw [madeFirst.types, madeSecond.types]
  case thirdParty => rw [madeFirst.thirdParty, madeSecond.thirdParty]
  case matchCase => rw [madeFirst.matchCase, madeSecond.matchCase]
  case includedDomains => rw [madeFirst.includedDomains, madeSecond.includedDomains]
  case excludedDomains => rw [madeFirst.excludedDomains, madeSecond.excludedDomains]

/-- The bodies of exceptions for whole pages have the same options behind their patterns. -/
theorem bodies_of_sameButCase (same : SameButCase firstLine secondLine)
    (parsedFirst : parse firstLine = .ok first) (parsedSecond : parse secondLine = .ok second)
    (pins : first.pinsDomain = true) :
    ∃ written, first.body = first.pattern.raw ++ '$' :: written ∧
      second.body = second.pattern.raw ++ '$' :: written := by
  have pinsSecond : second.pinsDomain = true := by
    rw [← (sameOptions_of_sameButCase same parsedFirst parsedSecond).pinsDomain_eq, pins]
  obtain ⟨written, cutFirst⟩ := exists_cut_of_pins parsedFirst pins
  obtain ⟨writtenSecond, cutSecond⟩ := exists_cut_of_pins parsedSecond pinsSecond
  have options := same.options
  rw [cutFirst, cutSecond] at options
  obtain rfl : written = writtenSecond := Option.some.inj options
  exact ⟨written, body_of_cut parsedFirst cutFirst, body_of_cut parsedSecond cutSecond⟩

/-- Bodies in which the fixed words are found alike give the same page. -/
theorem samePage_of_readsAlike {content : ContentRule} (same : SameButCase firstLine secondLine)
    (parsedFirst : parse firstLine = .ok first) (parsedSecond : parse secondLine = .ok second)
    (converted : first.convert = .ok content) (pins : first.pinsDomain = true)
    (alike : ReadsAlike first.pattern.raw second.pattern.raw) : SamePage first second := by
  obtain ⟨-, -, -, raws⟩ := same.exists_isMadeOf parsedFirst parsedSecond
  obtain ⟨written, bodyFirst, bodySecond⟩ :=
    bodies_of_sameButCase same parsedFirst parsedSecond pins
  obtain ⟨-, -, whole, -⟩ := page_of_convert converted pins
  have addresses : (NamedPage.address (first.pattern.raw ++ '$' :: written)).uncased =
      (NamedPage.address (second.pattern.raw ++ '$' :: written)).uncased :=
    NamedPage.address_recased raws alike.schemes alike.marks
  obtain ⟨domains, wholes⟩ := NamedPage.ofText_recased addresses
  rw [SamePage, bodySecond, ← wholes, ← domains, ← bodyFirst]
  exact ⟨whole, rfl⟩

/-- A line that differs in the case of a plain pattern gives the same rule, unless only one of the
patterns is that of a web socket or, for an exception for whole pages, another page is named. None
of these happens where the fixed words are found alike in both patterns. -/
theorem convert_recased {content : ContentRule} (same : SameButCase firstLine secondLine)
    (parsedFirst : parse firstLine = .ok first) (parsedSecond : parse secondLine = .ok second)
    (plainFirst : first.pattern.regex = none) (plainSecond : second.pattern.regex = none)
    (noMatchCase : first.matchCase = false) (converted : first.convert = .ok content) :
    (second.convert = .ok content ↔
      if first.pinsDomain then SamePage first second
      else (Pattern.ofRaw first.pattern.raw).isWebSocket =
        (Pattern.ofRaw second.pattern.raw).isWebSocket) ∧
      (ReadsAlike first.pattern.raw second.pattern.raw → second.convert = .ok content) := by
  have options := sameOptions_of_sameButCase same parsedFirst parsedSecond
  obtain ⟨-, -, -, raws⟩ := same.exists_isMadeOf parsedFirst parsedSecond
  have patterns : (Pattern.ofRaw first.pattern.raw).uncased =
      (Pattern.ofRaw second.pattern.raw).uncased := by
    rw [← Pattern.ofRaw_uncased, raws, Pattern.ofRaw_uncased]
  have derivesFirst := derive_of_plain parsedFirst plainFirst
  have derivesSecond := derive_of_plain parsedSecond plainSecond
  rw [noMatchCase] at derivesFirst
  rw [← options.matchCase, noMatchCase] at derivesSecond
  obtain ⟨filters, translates⟩ := UrlFilter.ofPattern_recased patterns derivesFirst derivesSecond
  cases pins : first.pinsDomain with
  | false =>
      have convertedIff := (options.convert_iff_of_unpinned converted pins).trans filters
      rw [if_neg Bool.false_ne_true]
      exact ⟨convertedIff, fun alike => convertedIff.mpr alike.sockets⟩
  | true =>
      obtain ⟨filter, -, -, -, translated, -⟩ := convert_eq_ok_iff.mp converted
      have convertedIff :=
        options.convert_iff_of_pins converted pins (translates ⟨filter, translated⟩)
      rw [if_pos rfl]
      refine ⟨convertedIff, fun alike => convertedIff.mpr ?_⟩
      exact samePage_of_readsAlike same parsedFirst parsedSecond converted pins alike

end Case

/-- The exception for the pages of a site. -/
def siteRule (host : Text) : UrlRule :=
  ofParts ("@@http://".toList ++ host ++ "^$document".toList)
    ⟨none, some "http://www\\.example\\.com([^a-zA-Z0-9_.%-]|$)".toList,
      "http://".toList ++ host ++ ['^']⟩
    { OptionSet.empty with pageExceptions := .document }

theorem convert_recased_site :
    SameButCase (siteRule "www.example.com".toList).line (siteRule "www.EXAMPLE.Com".toList).line ∧
      parse (siteRule "www.example.com".toList).line = .ok (siteRule "www.example.com".toList) ∧
      parse (siteRule "www.EXAMPLE.Com".toList).line = .ok (siteRule "www.EXAMPLE.Com".toList) ∧
      (siteRule "www.example.com".toList).matchCase = false ∧
      (siteRule "www.example.com".toList).convert = .ok (pageContent "example.com".toList) ∧
      (siteRule "www.EXAMPLE.Com".toList).convert = .ok (pageContent "example.com".toList) := by
  have same : SameButCase (siteRule "www.example.com".toList).line
      (siteRule "www.EXAMPLE.Com".toList).line := ⟨by decide +kernel, by decide +kernel⟩
  have parsedFirst : parse (siteRule "www.example.com".toList).line =
      .ok (siteRule "www.example.com".toList) := by decide +kernel
  have parsedSecond : parse (siteRule "www.EXAMPLE.Com".toList).line =
      .ok (siteRule "www.EXAMPLE.Com".toList) := by decide +kernel
  have converted : (siteRule "www.example.com".toList).convert =
      .ok (pageContent "example.com".toList) := by decide +kernel
  have alike : ReadsAlike (siteRule "www.example.com".toList).pattern.raw
      (siteRule "www.EXAMPLE.Com".toList).pattern.raw :=
    ⟨by decide +kernel, by decide +kernel, by decide +kernel⟩
  exact ⟨same, parsedFirst, parsedSecond, rfl, converted,
    (convert_recased same parsedFirst parsedSecond rfl rfl rfl converted).2 alike⟩

/-- The rule that blocks web sockets. -/
def socketRule (raw derived : Text) : UrlRule :=
  ofParts raw ⟨none, some derived, raw⟩ OptionSet.empty

/-- The rule for web sockets leaves the secure ones out if it is written in capitals, and an
exception names another page if the first label of its host is. -/
theorem recased_differs :
    SameButCase "|ws://".toList "|WS://".toList ∧
      parse "|ws://".toList = .ok (socketRule "|ws://".toList "^wss?://".toList) ∧
      parse "|WS://".toList = .ok (socketRule "|WS://".toList "^ws://".toList) ∧
      (socketRule "|ws://".toList "^wss?://".toList).convert =
        .ok ⟨Trigger.ofUrlFilter "^wss?://".toList, .block⟩ ∧
      (socketRule "|WS://".toList "^ws://".toList).convert =
        .ok ⟨Trigger.ofUrlFilter "^ws://".toList, .block⟩ ∧
      SameButCase (siteRule "www.example.com".toList).line
        (siteRule "WWW.example.com".toList).line ∧
      (siteRule "www.example.com".toList).convert = .ok (pageContent "example.com".toList) ∧
      parse (siteRule "WWW.example.com".toList).line = .ok (siteRule "WWW.example.com".toList) ∧
      (siteRule "WWW.example.com".toList).convert =
        .ok (pageContent "www.example.com".toList) := by
  refine ⟨⟨?_, ?_⟩, ?_, ?_, ?_, ?_, ⟨?_, ?_⟩, ?_, ?_, ?_⟩ <;> decide +kernel

end UrlRule

end Blocklist
