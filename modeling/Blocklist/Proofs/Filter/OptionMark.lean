/-
This file says where the options of a line begin. The dollar sign in front of them is the last one
of the line, but behind a slash at the start it is looked for past the last slash, which may stand
in the options themselves. The sign is then overlooked, and the options are taken for the pattern.
-/

import Blocklist.Proofs.Filter.UrlRule

namespace Blocklist

open Text

theorem Text.startsWith_single {text : Text} {c : Char} :
    text.startsWith [c] = true ↔ ∃ rest, text = c :: rest := by
  rw [startsWith, List.isPrefixOf_iff_prefix]
  exact exists_congr fun rest => eq_comm

theorem Text.endsWith_single {text : Text} {c : Char} :
    text.endsWith [c] = true ↔ ∃ front, text = front ++ [c] := by
  rw [endsWith, List.isSuffixOf_iff_suffix]
  exact exists_congr fun front => eq_comm

/-- What stands in front of a text does not matter for the character at its end. -/
theorem Text.endsWith_append_single {text : Text} (some : text ≠ []) (front : Text) (c : Char) :
    endsWith (front ++ text) [c] = endsWith text [c] := by
  rw [Bool.eq_iff_iff, endsWith_single, endsWith_single]
  rcases text.eq_nil_or_concat with rfl | ⟨inside, last, rfl⟩
  · exact absurd rfl some
  · simp [← List.append_assoc]

/-- A text that has a mark is cut at the last one. -/
theorem Text.exists_cutLast? {mark : Char} {text : Text} (member : mark ∈ text) :
    ∃ before behind, cutLast? mark text = some (before, behind) := by
  cases cut : cutLast? mark text with
  | none => exact absurd member (cutLast?_eq_none_iff.mp cut)
  | some pieces => exact ⟨pieces.1, pieces.2, rfl⟩

namespace UrlRule

/-- The pattern begins with a slash, and another one stands in the options. -/
def HidesOptions (front written : Text) : Prop :=
  front.startsWith ['/'] = true ∧ '/' ∈ written

section Cut

variable {front written : Text}

theorem cutOptions?_of_plain {body : Text} (plain : body.startsWith ['/'] = false) :
    cutOptions? body = cutLast? '$' body := by
  unfold cutOptions?
  split
  case h_1 => cases plain
  case h_2 => rfl

/-- The options and their mark are the end of the body. -/
theorem eq_append_of_cutOptions? {body raw : Text}
    (cut : cutOptions? body = some (raw, written)) : body = raw ++ '$' :: written := by
  unfold cutOptions? at cut
  split at cut
  case h_1 rest =>
    split at cut
    case h_1 inside behind found =>
      obtain ⟨⟨before, options⟩, first, same⟩ := Option.map_eq_some_iff.mp cut
      obtain ⟨rfl, rfl⟩ := Prod.mk.inj same
      rw [(cutLast?_eq_some_iff.mp found).1, (cutFirst?_eq_some_iff.mp first).1]
      simp
    case h_2 => exact (cutLast?_eq_some_iff.mp cut).1
  case h_2 => exact (cutLast?_eq_some_iff.mp cut).1

/-- The only mark of a body is found unless the options have a slash behind that of the pattern. -/
theorem cutOptions?_append (noMark : '$' ∉ front) (noMarkBehind : '$' ∉ written)
    (shown : ¬HidesOptions front written) :
    cutOptions? (front ++ '$' :: written) = some (front, written) := by
  have last : cutLast? '$' (front ++ '$' :: written) = some (front, written) :=
    cutLast?Append '$' front noMarkBehind
  cases slashed : front.startsWith ['/'] with
  | false =>
      rw [cutOptions?_of_plain _, last]
      cases front with
      | nil => rfl
      | cons => exact slashed
  | true =>
      have noSlash : '/' ∉ written := fun member => shown ⟨slashed, member⟩
      obtain ⟨rest, rfl⟩ := startsWith_single.mp slashed
      have absent : '/' ∉ '$' :: written := by simp [noSlash]
      rw [List.cons_append, cutOptions?]
      by_cases another : '/' ∈ rest
      · obtain ⟨inside, behind, cut⟩ := exists_cutLast? another
        obtain ⟨split, noSlashBehind⟩ := cutLast?_eq_some_iff.mp cut
        rw [split] at noMark ⊢
        have lastSlash : cutLast? '/' (inside ++ '/' :: behind ++ '$' :: written) =
            some (inside, behind ++ '$' :: written) := by
          rw [List.append_assoc, List.cons_append]
          exact cutLast?Append '/' inside (by simp [noSlashBehind, noSlash])
        have firstMark : cutFirst? '$' (behind ++ '$' :: written) = some (behind, written) :=
          cutFirst?_eq_some_iff.mpr ⟨rfl, fun member => noMark (by simp [member])⟩
        rw [lastSlash]
        dsimp only
        rw [firstMark]
        rfl
      · have noneFound : cutLast? '/' (rest ++ '$' :: written) = none :=
          cutLast?_eq_none_iff.mpr (by simp [another, noSlash])
        rw [noneFound]
        exact last

/-- The mark in front of the last slash of a body that begins with one is overlooked. -/
theorem cutOptions?_of_hidesOptions (noMarkBehind : '$' ∉ written)
    (hidden : HidesOptions front written) : cutOptions? (front ++ '$' :: written) = none := by
  obtain ⟨slashed, another⟩ := hidden
  obtain ⟨rest, rfl⟩ := startsWith_single.mp slashed
  obtain ⟨inside, behind, cut⟩ := exists_cutLast? another
  obtain ⟨rfl, noSlashBehind⟩ := cutLast?_eq_some_iff.mp cut
  have lastSlash : cutLast? '/' (rest ++ '$' :: (inside ++ '/' :: behind)) =
      some (rest ++ '$' :: inside, behind) :=
    cutLast?_eq_some_iff.mpr ⟨by simp, noSlashBehind⟩
  have noneBehind : cutFirst? '$' behind = none := by
    cases found : cutFirst? '$' behind with
    | none => rfl
    | some pieces =>
        have split := (cutFirst?_eq_some_iff.mp found).1
        exact absurd (by simp [split]) noMarkBehind
  rw [List.cons_append, cutOptions?, lastSlash]
  dsimp only
  rw [noneBehind]
  rfl

/-- The mark of an exception stands in front of the mark of the options. -/
theorem bodyOf_append (front written : Text) :
    bodyOf (front ++ '$' :: written) = bodyOf front ++ '$' :: written := by
  unfold bodyOf
  rcases front with - | ⟨c, - | ⟨next, front⟩⟩
  · rfl
  · by_cases isAt : c = '@' <;> simp [startsWith, List.isPrefixOf, isAt]
  · have same : startsWith (c :: next :: front ++ '$' :: written) ['@', '@'] =
        startsWith (c :: next :: front) ['@', '@'] := rfl
    rw [same]
    split <;> rfl

theorem not_mem_bodyOf {c : Char} {line : Text} (absent : c ∉ line) : c ∉ bodyOf line := by
  unfold bodyOf
  split
  · exact fun member => absent (List.mem_of_mem_drop member)
  · exact absent

end Cut

/-- The rule is made of a text for its pattern and of what some options say together. -/
structure IsMadeOf (rule : UrlRule) (text : Text) (options : OptionSet) : Prop where
  raw : rule.pattern.raw = text
  pattern : patternTexts text options.matchCase = .ok rule.pattern
  types : rule.types = options.types
  thirdParty : rule.thirdParty = options.thirdParty
  matchCase : rule.matchCase = options.matchCase
  includedDomains : rule.includedDomains = options.includedDomains
  excludedDomains : rule.excludedDomains = options.excludedDomains

theorem raw_of_patternTexts {raw : Text} {matchCase : Bool} {texts : PatternTexts}
    (written : patternTexts raw matchCase = .ok texts) : texts.raw = raw := by
  rcases patternTexts_eq_ok written with ⟨_, -, rfl⟩ | ⟨_, -, -, rfl⟩ <;> rfl

/-- A rule is made of what its line holds. -/
theorem holds_of_parse {line : Text} {rule : UrlRule} (parsed : parse line = .ok rule) :
    ∃ raw options, Holds (bodyOf line) raw options ∧
      rule.IsMadeOf raw (OptionSet.ofList options) := by
  obtain ⟨raw, options, pattern, holds, -, written, rfl⟩ := parse_eq_ok parsed
  exact ⟨raw, options, holds, raw_of_patternTexts written, written, rfl, rfl, rfl, rfl, rfl⟩

theorem line_of_parse {line : Text} {rule : UrlRule} (parsed : parse line = .ok rule) :
    rule.line = line := by
  obtain ⟨_, _, _, -, -, -, rfl⟩ := parse_eq_ok parsed
  rfl

/-- A body holds one pattern and one list of options. -/
theorem Holds.unique {body raw otherRaw : Text} {options otherOptions : List RuleOption}
    (holds : Holds body raw options) (holdsOther : Holds body otherRaw otherOptions) :
    raw = otherRaw ∧ options = otherOptions := by
  cases holds with
  | cut found read =>
      cases holdsOther with
      | cut foundOther readOther =>
          obtain ⟨rfl, rfl⟩ := Prod.mk.inj (Option.some.inj (found.symm.trans foundOther))
          exact ⟨rfl, Except.ok.inj (read.symm.trans readOther)⟩
      | whole absent => cases found.symm.trans absent
  | whole absent =>
      cases holdsOther with
      | cut foundOther => cases absent.symm.trans foundOther
      | whole => exact ⟨rfl, rfl⟩

theorem isMadeOf_of_holds {line raw : Text} {options : List RuleOption} {rule : UrlRule}
    (parsed : parse line = .ok rule) (holds : Holds (bodyOf line) raw options) :
    rule.IsMadeOf raw (OptionSet.ofList options) := by
  obtain ⟨_, _, holdsToo, made⟩ := holds_of_parse parsed
  obtain ⟨rfl, rfl⟩ := holds.unique holdsToo
  exact made

section Mark

variable {front written : Text} {options : List RuleOption} {rule : UrlRule}

/-- A line with one mark is read as what stands in front of it and behind it, unless that mark is
overlooked. -/
theorem isMadeOf_of_shown (noMark : '$' ∉ front) (noMarkBehind : '$' ∉ written)
    (read : RuleOption.parseAll written = .ok options)
    (shown : ¬HidesOptions (bodyOf front) written)
    (parsed : parse (front ++ '$' :: written) = .ok rule) :
    rule.IsMadeOf (bodyOf front) (OptionSet.ofList options) := by
  have cut := cutOptions?_append (not_mem_bodyOf noMark) noMarkBehind shown
  rw [← bodyOf_append] at cut
  exact isMadeOf_of_holds parsed (.cut cut read)

theorem isMadeOf_of_hidden (noMarkBehind : '$' ∉ written)
    (hidden : HidesOptions (bodyOf front) written)
    (parsed : parse (front ++ '$' :: written) = .ok rule) :
    rule.IsMadeOf (bodyOf front ++ '$' :: written) OptionSet.empty := by
  have absent := cutOptions?_of_hidesOptions noMarkBehind hidden
  rw [← bodyOf_append] at absent ⊢
  exact isMadeOf_of_holds parsed (.whole absent)

/-- A rule has the pattern in front of the only mark of its line, and what the options behind the
mark say, unless the pattern begins with a slash and the options have another one. Then the whole
body is the pattern, and no option counts. -/
theorem parse_isMadeOf_iff (noMark : '$' ∉ front) (noMarkBehind : '$' ∉ written)
    (read : RuleOption.parseAll written = .ok options)
    (parsed : parse (front ++ '$' :: written) = .ok rule) :
    (rule.IsMadeOf (bodyOf front) (OptionSet.ofList options) ↔
        ¬HidesOptions (bodyOf front) written) ∧
      (HidesOptions (bodyOf front) written →
        rule.IsMadeOf (bodyOf front ++ '$' :: written) OptionSet.empty) := by
  refine ⟨⟨fun made hidden => ?_, fun shown => ?_⟩, fun hidden => ?_⟩
  · -- The pattern of a rule with overlooked options is longer than the text in front of them.
    have whole := isMadeOf_of_hidden noMarkBehind hidden parsed
    have same := made.raw.symm.trans whole.raw
    simp at same
  · exact isMadeOf_of_shown noMark noMarkBehind read shown parsed
  · exact isMadeOf_of_hidden noMarkBehind hidden parsed

end Mark

/-- The exception for images below a path, on the pages of a domain. -/
def pathRule : UrlRule :=
  ofParts "@@/Ads/*$domain=Foo.com|~bar.com,image".toList
    ⟨none, some "/ads/".toList, "/Ads/*".toList⟩
    { OptionSet.empty with
      includedDomains := ["Foo.com".toList]
      excludedDomains := ["bar.com".toList]
      wanted := .image }

/-- The options of the exception. -/
def pathOptions : List RuleOption :=
  [.domains [⟨"Foo.com".toList, false⟩, ⟨"bar.com".toList, true⟩], .request .image true]

theorem parse_isMadeOf_iff_path :
    '$' ∉ "@@/Ads/*".toList ∧ '$' ∉ "domain=Foo.com|~bar.com,image".toList ∧
      RuleOption.parseAll "domain=Foo.com|~bar.com,image".toList = .ok pathOptions ∧
      parse ("@@/Ads/*".toList ++ '$' :: "domain=Foo.com|~bar.com,image".toList) = .ok pathRule ∧
      pathRule.IsMadeOf "/Ads/*".toList (OptionSet.ofList pathOptions) := by
  have noMark : '$' ∉ "@@/Ads/*".toList := by decide
  have noMarkBehind : '$' ∉ "domain=Foo.com|~bar.com,image".toList := by decide
  have read : RuleOption.parseAll "domain=Foo.com|~bar.com,image".toList = .ok pathOptions := by
    decide +kernel
  have parsed : parse ("@@/Ads/*".toList ++ '$' :: "domain=Foo.com|~bar.com,image".toList) =
      .ok pathRule := by decide +kernel
  have shown : ¬HidesOptions (bodyOf "@@/Ads/*".toList) "domain=Foo.com|~bar.com,image".toList :=
    fun hidden => absurd hidden.2 (by decide)
  have made := (parse_isMadeOf_iff noMark noMarkBehind read parsed).1.mpr shown
  exact ⟨noMark, noMarkBehind, read, parsed, made⟩

/-- A regular expression among the domains of a pattern that begins with a slash makes the options
a part of the pattern, so that the rule acts on the pages of every domain. -/
theorem overlookedOptions_lost :
    ∃ options rule, RuleOption.parseAll "domain=/re/|example.com".toList = .ok options ∧
      (OptionSet.ofList options).includedDomains = ["example.com".toList] ∧
      parse ("/ads".toList ++ '$' :: "domain=/re/|example.com".toList) = .ok rule ∧
      rule.pattern.raw = "/ads$domain=/re/|example.com".toList ∧ rule.includedDomains = [] :=
  ⟨[.domains [⟨"example.com".toList, false⟩]],
    ofParts "/ads$domain=/re/|example.com".toList
      ⟨none, some "/ads\\$domain=/re/\\|example\\.com".toList,
        "/ads$domain=/re/|example.com".toList⟩ OptionSet.empty,
    by decide +kernel, by decide, by decide +kernel, rfl, rfl⟩

end UrlRule

end Blocklist
