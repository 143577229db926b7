/-
This file says that the options of a URL rule can stand in any order if only one of them is on the
party of a request, and which types the rule has by a formula over the options: those that are asked
for, or else the usual ones, without those that are refused, and with those of page exceptions.
-/

import Blocklist.Proofs.Filter.OptionMark
import Blocklist.Proofs.Filter.RequestType
import Blocklist.Proofs.Text.Fields

namespace Blocklist

open Text

namespace RuleOption

/-- The words for options on the party that a request goes to. -/
def partyNames : List String := ["third-party", "3p", "first-party", "1p"]

def isParty (text : Text) : Bool := partyNames.any fun name => name.toList == (split text).1

/-- The types that a page exception is for. -/
def exemptedTypes (text : Text) : TypeMask :=
  (typesNamed? (split text).1 pageExceptions).getD ∅

/-- The types that options leave a rule. -/
def typesOf (texts : List Text) : TypeMask :=
  ((if texts.filterMap asked? = [] then .all else RequestType.mask (texts.filterMap asked?)) \
      RequestType.mask (texts.filterMap refused?)) ∪
    texts.foldr (fun text types => exemptedTypes text ∪ types) ∅

/-- The party that an option is for. -/
def party? : RuleOption → Option Bool
  | .party isThird => some isThird
  | _ => none

def isMatchCase : RuleOption → Bool
  | .matchCase => true
  | _ => false

section Means

variable {text : Text} {option : RuleOption}

theorem isParty_iff : isParty text = true ↔ ∃ name ∈ partyNames, (split text).1 = name.toList := by
  rw [isParty, List.any_eq_true]
  simp only [beq_iff_eq, @eq_comm Text]

/-- The words for the party are no words for anything else. -/
theorem party_apart {name : String} (member : name ∈ partyNames) :
    name.toList ≠ "domain".toList ∧ name.toList ≠ "match-case".toList ∧
      typesNamed? name.toList requestTypes = none ∧
      typesNamed? name.toList pageExceptions = none := by
  have every : ∀ name ∈ partyNames, name.toList ≠ "domain".toList ∧
      name.toList ≠ "match-case".toList ∧ typesNamed? name.toList requestTypes = none ∧
      typesNamed? name.toList pageExceptions = none := by decide
  exact every name member

theorem Means.isSome_party? (means : Means text option) : option.party?.isSome = isParty text := by
  have ofOther : (∀ name ∈ partyNames, (split text).1 ≠ name.toList) → isParty text = false := by
    intro apart
    rw [← Bool.not_eq_true, isParty_iff]
    intro ⟨name, member, same⟩
    exact apart name member same
  cases means with
  | domains named =>
      refine (ofOther fun name member same => ?_).symm
      exact (party_apart member).1 (same.symm.trans named)
  | thirdParty named =>
      refine (isParty_iff.mpr ?_).symm
      rcases named with named | named
      · exact ⟨"third-party", by decide, named⟩
      · exact ⟨"3p", by decide, named⟩
  | firstParty named =>
      refine (isParty_iff.mpr ?_).symm
      rcases named with named | named
      · exact ⟨"first-party", by decide, named⟩
      · exact ⟨"1p", by decide, named⟩
  | matchCase named =>
      refine (ofOther fun name member same => ?_).symm
      exact (party_apart member).2.1 (same.symm.trans named)
  | request named =>
      refine (ofOther fun name member same => ?_).symm
      rw [same, (party_apart member).2.2.1] at named
      cases named
  | pageException named =>
      refine (ofOther fun name member same => ?_).symm
      rw [same, (party_apart member).2.2.2] at named
      cases named

/-- An option sets the bits of the page exception that it is, if it is one. -/
theorem Concerns.exceptedTypes_eq_exemptedTypes (concerns : Concerns text option) :
    option.exceptedTypes = exemptedTypes text := by
  cases concerns with
  | nothing member named _ noPage =>
      rw [noPage, exemptedTypes, named, (untyped_apart member).2]
      rfl
  | requests named same =>
      have noPage : typesNamed? (split text).1 pageExceptions = none := by
        cases found : typesNamed? (split text).1 pageExceptions with
        | none => rfl
        | some types =>
            rw [(pageExceptions_apart found).1] at named
            cases named
      rw [same, exemptedTypes, noPage]
      rfl
  | pages named same =>
      rw [same, exemptedTypes, named]
      rfl

end Means

/-- The options of a list that is joined are read one by one. -/
theorem parseAll_intercalate {texts : List Text} (some : texts ≠ [])
    (noComma : ∀ text ∈ texts, ',' ∉ text) :
    parseAll ([','].intercalate texts) = texts.mapM parse := by
  rw [parseAll, fields_intercalate some noComma]

end RuleOption

namespace OptionSet

open RuleOption

/-- The party is that of the last option on it, and one option is enough for the letter case. -/
theorem foldl_add_flags (options : List RuleOption) (set : OptionSet) :
    (options.foldl add set).thirdParty =
        ((options.filterMap party?).getLast?).or set.thirdParty ∧
      (options.foldl add set).matchCase = (set.matchCase || options.any isMatchCase) := by
  induction options generalizing set with
  | nil => simp
  | cons option options inductionHypothesis =>
      obtain ⟨party, matchCase⟩ := inductionHypothesis (set.add option)
      rw [List.foldl_cons, party, matchCase]
      rcases option with entries | isThird | _ | ⟨types, _ | _⟩ | types <;>
        simp [add, party?, isMatchCase, List.getLast?_cons]

theorem eq_of_perm_of_length_le_one {A : Type} {items others : List A}
    (reordered : items.Perm others) (short : items.length ≤ 1) : items = others := by
  cases items with
  | nil => exact reordered.nil_eq
  | cons item items =>
      obtain rfl : items = [] := by simpa using short
      exact (List.singleton_perm.mp reordered)

/-- Two sets of options say the same, but they may list the domains in another order. -/
structure SameButOrder (set other : OptionSet) : Prop where
  types : set.types = other.types
  thirdParty : set.thirdParty = other.thirdParty
  matchCase : set.matchCase = other.matchCase
  includedDomains : set.includedDomains.Perm other.includedDomains
  excludedDomains : set.excludedDomains.Perm other.excludedDomains

section Order

variable {options others : List RuleOption}

theorem ofList_masks_of_perm (reordered : options.Perm others) :
    (ofList options).wanted = (ofList others).wanted ∧
      (ofList options).unwanted = (ofList others).unwanted ∧
      (ofList options).pageExceptions = (ofList others).pageExceptions := by
  refine ⟨TypeMask.eqOfHas fun index _ => ?_, TypeMask.eqOfHas fun index _ => ?_,
    TypeMask.eqOfHas fun index _ => ?_⟩
  · rw [(ofList_has options index).1, (ofList_has others index).1, reordered.any_eq]
  · rw [(ofList_has options index).2.1, (ofList_has others index).2.1, reordered.any_eq]
  · rw [(ofList_has options index).2.2, (ofList_has others index).2.2, reordered.any_eq]

/-- Only of several options on the party, the order decides. -/
theorem ofList_sameButOrder (reordered : options.Perm others)
    (oneParty : (options.filterMap party?).length ≤ 1) :
    (ofList options).SameButOrder (ofList others) := by
  obtain ⟨wanted, unwanted, pageExceptions⟩ := ofList_masks_of_perm reordered
  obtain ⟨party, matchCase⟩ := foldl_add_flags options empty
  obtain ⟨otherParty, otherMatchCase⟩ := foldl_add_flags others empty
  obtain ⟨included, excluded⟩ := ofList_domains options
  obtain ⟨otherIncluded, otherExcluded⟩ := ofList_domains others
  have sameParty := eq_of_perm_of_length_le_one (reordered.filterMap party?) oneParty
  have entriesPerm : (options.flatMap entries).Perm (others.flatMap entries) :=
    reordered.flatMap_right entries
  constructor
  · rw [types, types, wanted, unwanted, pageExceptions]
  · rw [ofList, ofList, party, otherParty, sameParty]
  · rw [ofList, ofList, matchCase, otherMatchCase, reordered.any_eq]
  · rw [included, otherIncluded]
    exact (entriesPerm.filter _).map _
  · rw [excluded, otherExcluded]
    exact (entriesPerm.filter _).map _

end Order

section Read

variable {texts : List Text} {options : List RuleOption}
  (read : List.Forall₂ (fun text option => parse text = .ok option) texts options)

include read

theorem length_parties : (options.filterMap party?).length = texts.countP isParty := by
  induction read with
  | nil => rfl
  | @cons text option texts options first _ inductionHypothesis =>
      have same := (means_of_parse first).isSome_party?
      rw [List.countP_cons, ← inductionHypothesis, ← same]
      cases found : option.party? with
      | none => simp [found]
      | some isThird => simp [found]

theorem wanted_eq : (ofList options).wanted = RequestType.mask (texts.filterMap asked?) := by
  refine TypeMask.eqOfHas fun index _ => ?_
  rw [Bool.eq_iff_iff, wanted_has_iff read, RequestType.has_mask]
  simp only [List.mem_filterMap]

theorem unwanted_eq : (ofList options).unwanted = RequestType.mask (texts.filterMap refused?) := by
  refine TypeMask.eqOfHas fun index _ => ?_
  rw [Bool.eq_iff_iff, unwanted_has_iff read, RequestType.has_mask]
  simp only [List.mem_filterMap]

/-- The induction is on the options, of which each adds the types of its own. -/
theorem pageExceptions_eq : (ofList options).pageExceptions =
    texts.foldr (fun text types => exemptedTypes text ∪ types) ∅ := by
  refine TypeMask.eqOfHas fun index _ => ?_
  rw [(ofList_has options index).2.2]
  induction read with
  | nil => exact (TypeMask.has_empty index).symm
  | cons first _ inductionHypothesis =>
      rw [List.any_cons, inductionHypothesis, List.foldr_cons, TypeMask.hasUnion,
        (means_of_parse first).concerns.exceptedTypes_eq_exemptedTypes]

/-- The types of a rule are given by a formula over its options. -/
theorem types_eq : (ofList options).types = typesOf texts := by
  have noneWanted : RequestType.mask (texts.filterMap asked?) = ∅ ↔
      texts.filterMap asked? = [] := by
    constructor
    · intro empty
      by_contra some
      obtain ⟨type, member⟩ := List.exists_mem_of_ne_nil _ some
      have present := RequestType.has_mask_index.mpr member
      rw [empty, TypeMask.has_empty] at present
      cases present
    · intro none
      rw [none]
      rfl
  rw [types, wanted_eq read, unwanted_eq read, pageExceptions_eq read, typesOf]
  simp only [noneWanted]

end Read

end OptionSet

namespace UrlRule

/-- The pattern with options behind it. -/
def lineOf (front : Text) (texts : List Text) : Text := front ++ '$' :: [','].intercalate texts

/-- Two rules are alike apart from their lines and from the order of their domains. -/
structure SameButOrder (rule other : UrlRule) : Prop where
  pattern : rule.pattern = other.pattern
  types : rule.types = other.types
  isException : rule.isException = other.isException
  thirdParty : rule.thirdParty = other.thirdParty
  matchCase : rule.matchCase = other.matchCase
  includedDomains : rule.includedDomains.Perm other.includedDomains
  excludedDomains : rule.excludedDomains.Perm other.excludedDomains

/-- The text is a pattern that no option mark ends, and that begins with no slash. -/
structure IsPlainFront (front : Text) : Prop where
  noMark : '$' ∉ front
  noSlash : front.startsWith ['/'] = false
  noSlashBehind : front.startsWith "@@/".toList = false

/-- The text is one of several options. -/
structure IsOption (text : Text) : Prop where
  noMark : '$' ∉ text
  noComma : ',' ∉ text

section Line

variable {front : Text} {texts : List Text}

theorem IsPlainFront.shown (plain : IsPlainFront front) (written : Text) :
    ¬HidesOptions (bodyOf front) written := by
  have noSlash : (bodyOf front).startsWith ['/'] = false := by
    unfold bodyOf
    split
    case isTrue excepted =>
      obtain ⟨rest, rfl⟩ := List.isPrefixOf_iff_prefix.mp excepted
      exact plain.noSlashBehind
    case isFalse => exact plain.noSlash
  intro hidden
  have slashed := hidden.1
  rw [noSlash] at slashed
  cases slashed

/-- A line is read by its options one by one, and by its pattern. -/
theorem parse_lineOf_eq (plain : IsPlainFront front) (some : texts ≠ [])
    (options : ∀ text ∈ texts, IsOption text) :
    parse (lineOf front texts) = texts.mapM RuleOption.parse >>= fun options =>
      build (lineOf front texts) (bodyOf front) (OptionSet.ofList options) := by
  have noMark : '$' ∉ [','].intercalate texts := by
    intro member
    obtain ⟨text, present, inText⟩ := exists_mem_of_mem_intercalate (by decide) member
    exact (options text present).noMark inText
  have cut : cutOptions? (bodyOf (lineOf front texts)) =
      Option.some (bodyOf front, [','].intercalate texts) := by
    rw [lineOf, bodyOf_append]
    exact cutOptions?_append (not_mem_bodyOf plain.noMark) noMark (plain.shown _)
  rw [parse_eq_build, cut]
  dsimp only
  rw [RuleOption.parseAll_intercalate some fun text member => (options text member).noComma]

/-- The options make a rule once they are all read and leave it a type. -/
theorem parse_lineOf_eq_ok_iff (plain : IsPlainFront front) (some : texts ≠ [])
    (options : ∀ text ∈ texts, IsOption text) {rule : UrlRule} :
    parse (lineOf front texts) = .ok rule ↔
      ∃ options, texts.mapM RuleOption.parse = .ok options ∧
        (OptionSet.ofList options).types ≠ ∅ ∧
        ∃ pattern, patternTexts (bodyOf front) (OptionSet.ofList options).matchCase = .ok pattern ∧
          rule = ofParts (lineOf front texts) pattern (OptionSet.ofList options) := by
  rw [parse_lineOf_eq plain some options, bind_eq_ok]
  refine exists_congr fun options => and_congr_right fun _ => ?_
  constructor
  · exact build_eq_ok
  · intro ⟨someType, pattern, ready, made⟩
    rw [build, if_neg someType, ready, made]
    rfl

theorem isException_lineOf (front : Text) (texts others : List Text) :
    (lineOf front texts).startsWith ['@', '@'] = (lineOf front others).startsWith ['@', '@'] := by
  rcases front with - | ⟨c, - | ⟨next, front⟩⟩
  · rfl
  · by_cases isAt : c = '@' <;> simp [lineOf, startsWith, List.isPrefixOf, isAt]
  · rfl

/-- The options in another order make a rule that lists the same domains, and is alike apart from
that. -/
theorem exists_sameButOrder {others : List Text} (plain : IsPlainFront front) (some : texts ≠ [])
    (options : ∀ text ∈ texts, IsOption text) (oneParty : texts.countP RuleOption.isParty ≤ 1)
    (reordered : texts.Perm others) {rule : UrlRule}
    (parsed : parse (lineOf front texts) = .ok rule) :
    ∃ other, parse (lineOf front others) = .ok other ∧ rule.SameButOrder other := by
  obtain ⟨read, succeeded, someType, pattern, ready, rfl⟩ :=
    (parse_lineOf_eq_ok_iff plain some options).mp parsed
  obtain ⟨readToo, succeededToo, perm⟩ := exists_perm_of_mapM_eq_ok reordered succeeded
  have onePartyRead : (read.filterMap RuleOption.party?).length ≤ 1 := by
    rwa [OptionSet.length_parties (forall₂_of_mapM_eq_ok succeeded)]
  have same := OptionSet.ofList_sameButOrder perm onePartyRead
  have someOther : others ≠ [] := fun none => some (reordered.trans (.of_eq none)).eq_nil
  have otherOptions : ∀ text ∈ others, IsOption text := fun text member =>
    options text (reordered.mem_iff.mpr member)
  refine ⟨ofParts (lineOf front others) pattern (OptionSet.ofList readToo), ?_, ?_⟩
  · refine (parse_lineOf_eq_ok_iff plain someOther otherOptions).mpr
      ⟨readToo, succeededToo, ?_, pattern, ?_, rfl⟩
    · rwa [← same.types]
    · rwa [← same.matchCase]
  · exact ⟨rfl, same.types, isException_lineOf front texts others, same.thirdParty,
      same.matchCase, same.includedDomains, same.excludedDomains⟩

/-- The order of options does not matter where one at most is on the party: they make a rule in
every order or in none, and the rule is the same but for its line and the order of its domains. Its
types are given by a formula over the options, and there is no rule where the formula gives no
type. -/
theorem parse_reordered {others : List Text} (plain : IsPlainFront front) (some : texts ≠ [])
    (options : ∀ text ∈ texts, IsOption text) (oneParty : texts.countP RuleOption.isParty ≤ 1)
    (reordered : texts.Perm others) :
    ((∃ rule, parse (lineOf front texts) = .ok rule) ↔
        ∃ other, parse (lineOf front others) = .ok other) ∧
      (∀ rule other, parse (lineOf front texts) = .ok rule →
        parse (lineOf front others) = .ok other → rule.SameButOrder other) ∧
      (∀ rule, parse (lineOf front texts) = .ok rule → rule.types = RuleOption.typesOf texts) ∧
      (RuleOption.typesOf texts = ∅ → ∃ cause, parse (lineOf front texts) = .error cause) := by
  have typesOfRule : ∀ rule, parse (lineOf front texts) = .ok rule →
      rule.types = RuleOption.typesOf texts ∧ rule.types ≠ ∅ := by
    intro rule parsed
    obtain ⟨read, succeeded, someType, pattern, -, rfl⟩ :=
      (parse_lineOf_eq_ok_iff plain some options).mp parsed
    exact ⟨OptionSet.types_eq (forall₂_of_mapM_eq_ok succeeded), someType⟩
  refine ⟨⟨?_, ?_⟩, ?_, fun rule parsed => (typesOfRule rule parsed).1, ?_⟩
  · intro ⟨rule, parsed⟩
    obtain ⟨other, parsedToo, -⟩ :=
      exists_sameButOrder plain some options oneParty reordered parsed
    exact ⟨other, parsedToo⟩
  · intro ⟨other, parsed⟩
    have someOther : others ≠ [] := fun none => some (reordered.trans (.of_eq none)).eq_nil
    have otherOptions : ∀ text ∈ others, IsOption text := fun text member =>
      options text (reordered.mem_iff.mpr member)
    have oneOther : others.countP RuleOption.isParty ≤ 1 := by rwa [← reordered.countP_eq]
    obtain ⟨rule, parsedToo, -⟩ :=
      exists_sameButOrder plain someOther otherOptions oneOther reordered.symm parsed
    exact ⟨rule, parsedToo⟩
  · intro rule other parsed parsedToo
    obtain ⟨found, parsedFound, same⟩ :=
      exists_sameButOrder plain some options oneParty reordered parsed
    obtain rfl := Except.ok.inj (parsedToo.symm.trans parsedFound)
    exact same
  · intro noType
    cases parsed : parse (lineOf front texts) with
    | error cause => exact ⟨cause, rfl⟩
    | ok rule =>
        obtain ⟨same, someType⟩ := typesOfRule rule parsed
        exact absurd (same.trans noType) someType

end Line

/-- Options of all kinds, of which some are repeated, contrary or other words for the same. -/
def mixedOptions : List Text :=
  ["image", "domain=Shop.com|~m.shop.com", "~script", "css", "script", "~1p", "elemhide",
    "match-case", "domain=example.org", "stylesheet", "ehide"].map String.toList

/-- The same options, with each domain option at another place. -/
def shuffledOptions : List Text :=
  ["domain=example.org", "ehide", "match-case", "stylesheet", "~1p", "script", "css", "~script",
    "elemhide", "domain=Shop.com|~m.shop.com", "image"].map String.toList

/-- The rule that the options make, with its included domains in the order of its line. -/
def optionRule (texts : List Text) (includedDomains : List Text) : UrlRule :=
  ofParts (lineOf "@@||Ads.com^".toList texts)
    ⟨none, some "^[^:]+:(//)?([^/]+\\.)?Ads\\.com([^a-zA-Z0-9_.%-]|$)".toList, "||Ads.com^".toList⟩
    { includedDomains
      excludedDomains := ["m.shop.com".toList]
      thirdParty := some true
      matchCase := true
      wanted := .image ∪ .styleSheet ∪ .script
      unwanted := .script
      pageExceptions := .elemHide }

instance (text : Text) : Decidable (IsOption text) :=
  decidable_of_iff ('$' ∉ text ∧ ',' ∉ text)
    ⟨fun absent => ⟨absent.1, absent.2⟩, fun option => ⟨option.noMark, option.noComma⟩⟩

theorem parse_reordered_mixed :
    parse (lineOf "@@||Ads.com^".toList mixedOptions) =
        .ok (optionRule mixedOptions ["Shop.com".toList, "example.org".toList]) ∧
      parse (lineOf "@@||Ads.com^".toList shuffledOptions) =
        .ok (optionRule shuffledOptions ["example.org".toList, "Shop.com".toList]) ∧
      (optionRule mixedOptions ["Shop.com".toList, "example.org".toList]).SameButOrder
        (optionRule shuffledOptions ["example.org".toList, "Shop.com".toList]) ∧
      RuleOption.typesOf mixedOptions = .image ∪ .styleSheet ∪ .elemHide ∧
      ∃ cause, parse (lineOf "@@||Ads.com^".toList ["~image".toList, "image".toList]) =
        .error cause := by
  have plain : IsPlainFront "@@||Ads.com^".toList := by constructor <;> decide
  have options : ∀ text ∈ mixedOptions, IsOption text := by decide
  have contrary : ∀ text ∈ ["~image".toList, "image".toList], IsOption text := by decide
  have reordered : mixedOptions.Perm shuffledOptions := by decide
  have parsed : parse (lineOf "@@||Ads.com^".toList mixedOptions) =
      .ok (optionRule mixedOptions ["Shop.com".toList, "example.org".toList]) := by decide +kernel
  have parsedToo : parse (lineOf "@@||Ads.com^".toList shuffledOptions) =
      .ok (optionRule shuffledOptions ["example.org".toList, "Shop.com".toList]) := by
    decide +kernel
  have types : RuleOption.typesOf mixedOptions = .image ∪ .styleSheet ∪ .elemHide := by decide
  obtain ⟨-, same, -, -⟩ :=
    parse_reordered plain (by decide) options (by decide) reordered
  obtain ⟨-, -, -, refused⟩ :=
    parse_reordered plain (by decide) contrary (by decide) (List.Perm.refl _)
  exact ⟨parsed, parsedToo, same _ _ parsed parsedToo, types, refused (by decide)⟩

end UrlRule

end Blocklist
