/-
This file names the types of requests, and says which of them an option of a URL rule asks for or
refuses. The bits that the options set in the masks of a rule are the places of these types, apart
from the bits of page exceptions, which are the place of no type of request.
-/

import Blocklist.Proofs.Filter.RuleOption

namespace Blocklist

namespace TypeMask

theorem has_empty (index : Nat) : has ∅ index = false := BitVec.getLsbD_zero

theorem has_single {index : Nat} (inside : index < 32) (other : Nat) :
    (single index).has other = decide (index = other) := by
  change (1#32 <<< index).getLsbD other = _
  rw [← BitVec.twoPow_eq, BitVec.getLsbD_twoPow]
  simp [inside]

/-- A mask is empty unless it has some type. -/
theorem eq_empty_iff {mask : TypeMask} : mask = ∅ ↔ ∀ index, mask.has index = false := by
  constructor
  · rintro rfl index
    exact has_empty index
  · intro noType
    exact eqOfHas fun index _ => (noType index).trans (has_empty index).symm

theorem contains_single {index : Nat} (inside : index < 32) (mask : TypeMask) :
    mask.contains (single index) = mask.has index := by
  rw [Bool.eq_iff_iff, contains, beq_iff_eq]
  constructor
  · intro same
    have both : (mask ∩ single index).has index = true := by
      rw [same, has_single inside, decide_eq_true rfl]
    rw [hasInter, Bool.and_eq_true] at both
    exact both.1
  · intro present
    apply eqOfHas
    intro other _
    rw [hasInter, has_single inside]
    by_cases same : index = other
    · subst same
      simp [present]
    · simp [same]

theorem meets_iff {mask part : TypeMask} :
    mask.meets part = true ↔ ∃ index, mask.has index = true ∧ part.has index = true := by
  rw [meets, bne_iff_ne, ne_eq, eq_empty_iff]
  simp [hasInter]

end TypeMask

inductive RequestType where
  | other
  | script
  | styleSheet
  | object
  | image
  | xmlHttpRequest
  | objectSubrequest
  | media
  | font
  | subdocument
  | webSocket
  | popup
deriving DecidableEq, Repr

namespace RequestType

/-- The types of the requests to which a rule applies that asks for none. -/
def usual : List RequestType :=
  [.other, .script, .styleSheet, .object, .image, .xmlHttpRequest, .objectSubrequest, .media]

/-- The place of a type in a mask. -/
def index : RequestType → Nat
  | .other => 0
  | .script => 1
  | .styleSheet => 2
  | .object => 3
  | .image => 4
  | .xmlHttpRequest => 5
  | .objectSubrequest => 6
  | .media => 7
  | .font => 8
  | .subdocument => 9
  | .webSocket => 10
  | .popup => 24

theorem index_lt (type : RequestType) : type.index < 32 := by
  cases type <;> decide

theorem index_injective : Function.Injective index := by
  intro first second same
  cases first <;> cases second <;> first | rfl | cases same

/-- The words for the types. -/
def names : List (String × RequestType) := [
  ("image", .image), ("stylesheet", .styleSheet), ("css", .styleSheet), ("script", .script),
  ("media", .media), ("popup", .popup), ("xmlhttprequest", .xmlHttpRequest),
  ("xhr", .xmlHttpRequest), ("other", .other), ("font", .font), ("subdocument", .subdocument),
  ("frame", .subdocument), ("object", .object), ("object-subrequest", .objectSubrequest),
  ("websocket", .webSocket)]

def ofName? (name : Text) : Option RequestType :=
  (names.find? fun entry => entry.1.toList == name).map Prod.snd

def mask (types : List RequestType) : TypeMask :=
  types.foldr (fun type mask => .single type.index ∪ mask) ∅

theorem has_mask {types : List RequestType} {index : Nat} :
    (mask types).has index = true ↔ ∃ type ∈ types, type.index = index := by
  induction types with
  | nil => simp [mask, TypeMask.has_empty]
  | cons type types inductionHypothesis =>
      change (TypeMask.single type.index ∪ mask types).has index = true ↔ _
      rw [TypeMask.hasUnion, Bool.or_eq_true, TypeMask.has_single type.index_lt,
        decide_eq_true_eq, inductionHypothesis]
      simp

theorem has_mask_index {types : List RequestType} {type : RequestType} :
    (mask types).has type.index = true ↔ type ∈ types := by
  rw [has_mask]
  constructor
  · rintro ⟨found, member, same⟩
    rwa [← index_injective same]
  · intro member
    exact ⟨type, member, rfl⟩

theorem all_eq_mask : TypeMask.all = mask usual := by decide

theorem typesNamed?_requestTypes (name : Text) :
    RuleOption.typesNamed? name RuleOption.requestTypes =
      (ofName? name).map fun type => mask [type] := by
  have table : RuleOption.requestTypes =
      names.map fun entry => (entry.1, mask [entry.2]) := by decide
  rw [RuleOption.typesNamed?, table, List.find?_map, ofName?, Option.map_map, Option.map_map]
  rfl

end RequestType

namespace RuleOption

/-- The type of requests that an option without a tilde asks for. -/
def asked? (text : Text) : Option RequestType :=
  if text.startsWith ['~'] then none else RequestType.ofName? (split text).1

/-- The type of requests that an option with a tilde refuses. -/
def refused? (text : Text) : Option RequestType :=
  if text.startsWith ['~'] then RequestType.ofName? (split text).1 else none

/-- The option turns some filtering off for pages. -/
def isPageException (text : Text) : Bool :=
  (typesNamed? (split text).1 pageExceptions).isSome

/-- The words for options that say nothing about types. -/
def untyped : List String :=
  ["domain", "third-party", "3p", "first-party", "1p", "match-case"]

theorem untyped_apart {word : String} (member : word ∈ untyped) :
    RequestType.ofName? word.toList = none ∧ typesNamed? word.toList pageExceptions = none := by
  have every : ∀ word ∈ untyped, RequestType.ofName? word.toList = none ∧
      typesNamed? word.toList pageExceptions = none := by decide
  exact every word member

/-- The words for page exceptions are no words for types of requests, and what they stand for has
other places. -/
theorem pageExceptions_apart {name : Text} {types : TypeMask}
    (named : typesNamed? name pageExceptions = some types) :
    RequestType.ofName? name = none ∧ types ≠ ∅ ∧
      ∀ type : RequestType, types.has type.index = false := by
  have apart : ∀ entry ∈ pageExceptions, RequestType.ofName? entry.1.toList = none ∧
      entry.2 ≠ ∅ ∧ ∀ index ∈ [0, 1, 2, 3, 4, 5, 6, 7, 8, 9, 10, 24],
        entry.2.has index = false := by decide
  obtain ⟨entry, found, rfl⟩ := Option.map_eq_some_iff.mp named
  obtain rfl : entry.1.toList = name := by simpa using List.find?_some found
  obtain ⟨noName, some, places⟩ := apart entry (List.mem_of_find?_eq_some found)
  refine ⟨noName, some, fun type => places type.index ?_⟩
  cases type <;> decide

def wantedTypes : RuleOption → TypeMask
  | .request types true => types
  | _ => ∅

def unwantedTypes : RuleOption → TypeMask
  | .request types false => types
  | _ => ∅

def exceptedTypes : RuleOption → TypeMask
  | .pageException types => types
  | _ => ∅

/-- What an option says about types: nothing, that requests of one type are asked for or refused, or
that pages are exempted. -/
inductive Concerns (text : Text) (option : RuleOption) : Prop
  | nothing {word : String} (member : word ∈ untyped) (named : (split text).1 = word.toList)
      (noRequest : option.wantedTypes = ∅ ∧ option.unwantedTypes = ∅)
      (noPage : option.exceptedTypes = ∅)
  | requests {type : RequestType} (named : RequestType.ofName? (split text).1 = some type)
      (same : option = .request (RequestType.mask [type]) !text.startsWith ['~'])
  | pages {types : TypeMask} (named : typesNamed? (split text).1 pageExceptions = some types)
      (same : option = .pageException types)

section Masks

variable {text : Text} {option : RuleOption}

theorem Means.concerns (means : Means text option) : Concerns text option := by
  cases means with
  | domains named => exact .nothing (by decide) named ⟨rfl, rfl⟩ rfl
  | thirdParty named =>
      rcases named with named | named
      · exact .nothing (by decide) named ⟨rfl, rfl⟩ rfl
      · exact .nothing (by decide) named ⟨rfl, rfl⟩ rfl
  | firstParty named =>
      rcases named with named | named
      · exact .nothing (by decide) named ⟨rfl, rfl⟩ rfl
      · exact .nothing (by decide) named ⟨rfl, rfl⟩ rfl
  | matchCase named => exact .nothing (by decide) named ⟨rfl, rfl⟩ rfl
  | request named =>
      rw [RequestType.typesNamed?_requestTypes] at named
      obtain ⟨type, found, rfl⟩ := Option.map_eq_some_iff.mp named
      exact .requests found rfl
  | pageException named => exact .pages named rfl

/-- The bits that an option sets in the masks of requests are the place of the type that it asks
for or refuses. -/
theorem Concerns.requestTypes_eq (concerns : Concerns text option) :
    option.wantedTypes = RequestType.mask (asked? text).toList ∧
      option.unwantedTypes = RequestType.mask (refused? text).toList := by
  have ofUnnamed : RequestType.ofName? (split text).1 = none →
      RequestType.mask (asked? text).toList = ∅ ∧ RequestType.mask (refused? text).toList = ∅ := by
    intro unnamed
    simp [asked?, refused?, unnamed, RequestType.mask]
  cases concerns with
  | nothing member named noRequest =>
      obtain ⟨asked, refused⟩ := ofUnnamed (by rw [named, (untyped_apart member).1])
      rwa [asked, refused]
  | requests named same =>
      rw [same, asked?, refused?, named]
      cases text.startsWith ['~'] <;> exact ⟨rfl, rfl⟩
  | pages named same =>
      obtain ⟨asked, refused⟩ := ofUnnamed (pageExceptions_apart named).1
      rw [same, asked, refused]
      exact ⟨rfl, rfl⟩

/-- An option sets a bit in the mask of page exceptions when it is one, and none that is the place
of a type of requests. -/
theorem Concerns.exceptedTypes_eq (concerns : Concerns text option) :
    (option.exceptedTypes = ∅ ↔ isPageException text = false) ∧
      ∀ type : RequestType, option.exceptedTypes.has type.index = false := by
  cases concerns with
  | nothing member named _ noPage =>
      rw [noPage, isPageException, named, (untyped_apart member).2]
      exact ⟨by simp, fun type => TypeMask.has_empty type.index⟩
  | requests named same =>
      have noPage : typesNamed? (split text).1 pageExceptions = none := by
        cases found : typesNamed? (split text).1 pageExceptions with
        | none => rfl
        | some types =>
            rw [(pageExceptions_apart found).1] at named
            cases named
      rw [same, isPageException, noPage]
      exact ⟨by simp [exceptedTypes], fun type => TypeMask.has_empty type.index⟩
  | pages named same =>
      obtain ⟨-, some, places⟩ := pageExceptions_apart named
      rw [same, isPageException, named]
      exact ⟨by simpa [exceptedTypes] using some, places⟩

end Masks

end RuleOption

namespace OptionSet

/-- The masks of a set of options have the bits of all its options. -/
theorem foldl_add_has (options : List RuleOption) (set : OptionSet) (index : Nat) :
    (options.foldl add set).wanted.has index =
        (set.wanted.has index || options.any fun option => option.wantedTypes.has index) ∧
      (options.foldl add set).unwanted.has index =
        (set.unwanted.has index || options.any fun option => option.unwantedTypes.has index) ∧
      (options.foldl add set).pageExceptions.has index =
        (set.pageExceptions.has index ||
          options.any fun option => option.exceptedTypes.has index) := by
  induction options generalizing set with
  | nil => simp
  | cons option options inductionHypothesis =>
      have step : (set.add option).wanted.has index =
            (set.wanted.has index || option.wantedTypes.has index) ∧
          (set.add option).unwanted.has index =
            (set.unwanted.has index || option.unwantedTypes.has index) ∧
          (set.add option).pageExceptions.has index =
            (set.pageExceptions.has index || option.exceptedTypes.has index) := by
        rcases option with entries | isThird | _ | ⟨types, _ | _⟩ | types <;>
          simp [add, RuleOption.wantedTypes, RuleOption.unwantedTypes, RuleOption.exceptedTypes,
            TypeMask.hasUnion, TypeMask.has_empty]
      obtain ⟨wanted, unwanted, excepted⟩ := inductionHypothesis (set.add option)
      rw [List.foldl_cons, wanted, unwanted, excepted, step.1, step.2.1, step.2.2]
      simp [Bool.or_assoc]

theorem ofList_has (options : List RuleOption) (index : Nat) :
    (ofList options).wanted.has index =
        options.any (fun option => option.wantedTypes.has index) ∧
      (ofList options).unwanted.has index =
        options.any (fun option => option.unwantedTypes.has index) ∧
      (ofList options).pageExceptions.has index =
        options.any (fun option => option.exceptedTypes.has index) := by
  obtain ⟨wanted, unwanted, excepted⟩ := foldl_add_has options empty index
  simp only [empty, TypeMask.has_empty, Bool.false_or] at wanted unwanted excepted
  exact ⟨wanted, unwanted, excepted⟩

open RuleOption

/-- The places of the types that some texts name. -/
theorem exists_named_iff {texts : List Text} {named? : Text → Option RequestType} {index : Nat} :
    (∃ text ∈ texts, (RequestType.mask (named? text).toList).has index = true) ↔
      ∃ type, (∃ text ∈ texts, named? text = some type) ∧ type.index = index := by
  simp only [RequestType.has_mask, Option.mem_toList]
  constructor
  · rintro ⟨text, member, type, named, place⟩
    exact ⟨type, ⟨text, member, named⟩, place⟩
  · rintro ⟨type, ⟨text, member, named⟩, place⟩
    exact ⟨text, member, type, named, place⟩

section Read

variable {texts : List Text} {options : List RuleOption}
  (read : List.Forall₂ (fun text option => parse text = .ok option) texts options)

include read

theorem wanted_has_iff {index : Nat} : (ofList options).wanted.has index = true ↔
    ∃ type, (∃ text ∈ texts, asked? text = some type) ∧ type.index = index := by
  rw [(ofList_has options index).1, List.any_eq_true, ← exists_named_iff]
  refine (exists_iff_of_forall₂ read fun text option parsed => ?_).symm
  rw [(means_of_parse parsed).concerns.requestTypes_eq.1]

theorem unwanted_has_iff {index : Nat} : (ofList options).unwanted.has index = true ↔
    ∃ type, (∃ text ∈ texts, refused? text = some type) ∧ type.index = index := by
  rw [(ofList_has options index).2.1, List.any_eq_true, ← exists_named_iff]
  refine (exists_iff_of_forall₂ read fun text option parsed => ?_).symm
  rw [(means_of_parse parsed).concerns.requestTypes_eq.2]

theorem pageExceptions_has (type : RequestType) :
    (ofList options).pageExceptions.has type.index = false := by
  rw [(ofList_has options type.index).2.2, List.any_eq_false]
  intro option member
  obtain ⟨text, -, parsed⟩ := exists_image_of_forall₂ read.flip member
  simpa using (means_of_parse parsed).concerns.exceptedTypes_eq.2 type

theorem pageExceptions_ne_empty_iff : (ofList options).pageExceptions ≠ ∅ ↔
    ∃ text ∈ texts, isPageException text = true := by
  have none : (ofList options).pageExceptions = ∅ ↔
      ∀ option ∈ options, option.exceptedTypes = ∅ := by
    simp only [TypeMask.eq_empty_iff, (ofList_has options _).2.2, List.any_eq_false,
      Bool.not_eq_true]
    exact ⟨fun absent option member index => absent index option member,
      fun absent index option member => absent option member index⟩
  rw [ne_eq, none]
  simp only [not_forall, exists_prop]
  refine (exists_iff_of_forall₂ read fun text option parsed => ?_).symm
  rw [(means_of_parse parsed).concerns.exceptedTypes_eq.1, Bool.not_eq_false]

end Read

end OptionSet

end Blocklist
