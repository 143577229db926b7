/-
This file says to which types of requests a converted rule is restricted, in terms of the types that
the options of its line ask for and refuse.
-/

import Blocklist.Proofs.Content.Restriction
import Blocklist.Proofs.Filter.RequestType

namespace Blocklist

/-- The resource type that stands for a type of requests. -/
def RequestType.counterpart? : RequestType → Option ResourceType
  | .image => some .image
  | .styleSheet => some .styleSheet
  | .script => some .script
  | .media => some .media
  | .popup => some .popup
  | .font => some .font
  | .xmlHttpRequest | .other | .webSocket => some .raw
  | .subdocument => some .document
  | .object | .objectSubrequest => none

theorem ResourceType.mem_selected {condition : Bool} {type token : ResourceType} :
    token ∈ selected condition type ↔ condition = true ∧ token = type := by
  cases condition <;> simp [selected]

/-- The counterparts of a mask are those of its types, but frames have theirs only when they are
alone. -/
theorem ResourceType.mem_counterparts {types : TypeMask} {token : ResourceType} :
    token ∈ counterparts types ↔ ∃ type : RequestType, types.has type.index = true ∧
      type.counterpart? = some token ∧ (type = .subdocument → types = .subdocument) := by
  have has (type : RequestType) :
      types.contains (.single type.index) = types.has type.index :=
    TypeMask.contains_single type.index_lt types
  have raw : types.meets (.xmlHttpRequest ∪ .other ∪ .webSocket) = true ↔
      types.has RequestType.xmlHttpRequest.index = true ∨
        types.has RequestType.other.index = true ∨
        types.has RequestType.webSocket.index = true := by
    rw [TypeMask.meets_iff]
    simp [TypeMask.hasUnion, TypeMask.xmlHttpRequest, TypeMask.other, TypeMask.webSocket,
      TypeMask.has_single, and_or_left, exists_or, or_assoc, RequestType.index]
  have written : token ∈ counterparts types ↔
      (types.has RequestType.image.index = true ∧ token = .image) ∨
      (types.has RequestType.styleSheet.index = true ∧ token = .styleSheet) ∨
      (types.has RequestType.script.index = true ∧ token = .script) ∨
      (types.has RequestType.media.index = true ∧ token = .media) ∨
      (types.has RequestType.popup.index = true ∧ token = .popup) ∨
      (types.meets (.xmlHttpRequest ∪ .other ∪ .webSocket) = true ∧ token = .raw) ∨
      (types.has RequestType.font.index = true ∧ token = .font) ∨
      (types = .subdocument ∧ token = .document) := by
    simp only [counterparts, List.mem_append, mem_selected, beq_iff_eq, or_assoc, ← has]
    rfl
  have noFrame {type : RequestType} (other : type ≠ .subdocument) :
      type = .subdocument → types = .subdocument := fun frame => absurd frame other
  rw [written, raw]
  constructor
  · rintro (⟨present, rfl⟩ | ⟨present, rfl⟩ | ⟨present, rfl⟩ | ⟨present, rfl⟩ | ⟨present, rfl⟩ |
      ⟨present | present | present, rfl⟩ | ⟨present, rfl⟩ | ⟨rfl, rfl⟩)
    · exact ⟨.image, present, rfl, noFrame (by decide)⟩
    · exact ⟨.styleSheet, present, rfl, noFrame (by decide)⟩
    · exact ⟨.script, present, rfl, noFrame (by decide)⟩
    · exact ⟨.media, present, rfl, noFrame (by decide)⟩
    · exact ⟨.popup, present, rfl, noFrame (by decide)⟩
    · exact ⟨.xmlHttpRequest, present, rfl, noFrame (by decide)⟩
    · exact ⟨.other, present, rfl, noFrame (by decide)⟩
    · exact ⟨.webSocket, present, rfl, noFrame (by decide)⟩
    · exact ⟨.font, present, rfl, noFrame (by decide)⟩
    · exact ⟨.subdocument, by decide, rfl, fun _ => rfl⟩
  · rintro ⟨type, present, counterpart, alone⟩
    cases type <;> cases counterpart <;> simp [present, alone]

/-- All counterparts of a mask are given, but none for the usual types. -/
theorem ResourceType.mem_ofMask {types : TypeMask} {resourceTypes : Option (List ResourceType)}
    (mapped : ofMask types = .ok resourceTypes) {token : ResourceType} :
    token ∈ resourceTypes.getD [] ↔ types ≠ .all ∧ token ∈ counterparts types := by
  unfold ofMask at mapped
  split at mapped
  case isTrue usual =>
    rw [← Except.ok.inj mapped]
    simp [usual]
  case isFalse unusual =>
    split at mapped
    case isTrue => cases mapped
    split at mapped
    case isTrue => cases mapped
    split at mapped
    case isTrue => cases mapped
    split at mapped
    case h_1 none =>
      rw [← Except.ok.inj mapped, none]
      simp
    case h_2 =>
      rw [← Except.ok.inj mapped]
      simp [unusual]

namespace UrlRule

/-- An option of the line asks for requests of the type. -/
def Requests (line : Text) (type : RequestType) : Prop :=
  ∃ option ∈ writtenOptions line, RuleOption.asked? option = some type

/-- An option of the line refuses requests of the type. -/
def Refuses (line : Text) (type : RequestType) : Prop :=
  ∃ option ∈ writtenOptions line, RuleOption.refused? option = some type

instance (line : Text) (type : RequestType) : Decidable (Requests line type) :=
  inferInstanceAs (Decidable (∃ option ∈ writtenOptions line, _))

instance (line : Text) (type : RequestType) : Decidable (Refuses line type) :=
  inferInstanceAs (Decidable (∃ option ∈ writtenOptions line, _))

def NamesPageException (line : Text) : Prop :=
  ∃ option ∈ writtenOptions line, RuleOption.isPageException option = true

/-- A rule is for the types that its options ask for, or for the usual ones if they ask for none,
without those that they refuse. -/
def IsFor (line : Text) (type : RequestType) : Prop :=
  (Requests line type ∨ (∀ wanted, ¬Requests line wanted) ∧ type ∈ RequestType.usual) ∧
    ¬Refuses line type

/-- The rule is for these types and nothing else. -/
def IsForOnly (line : Text) (types : List RequestType) : Prop :=
  (∀ type, IsFor line type ↔ type ∈ types) ∧ ¬NamesPageException line

section Masks

variable {line raw : Text} {options : List RuleOption}

theorem Holds.wanted_has_iff (holds : Holds (bodyOf line) raw options) {index : Nat} :
    (OptionSet.ofList options).wanted.has index = true ↔
      ∃ type, Requests line type ∧ type.index = index :=
  OptionSet.wanted_has_iff holds.options_read

theorem Holds.unwanted_has_iff (holds : Holds (bodyOf line) raw options) {index : Nat} :
    (OptionSet.ofList options).unwanted.has index = true ↔
      ∃ type, Refuses line type ∧ type.index = index :=
  OptionSet.unwanted_has_iff holds.options_read

/-- The types that are left when no page is exempted are those that the rule is for. -/
theorem Holds.types_has_iff (holds : Holds (bodyOf line) raw options) {index : Nat}
    (noPage : (OptionSet.ofList options).pageExceptions.has index = false) :
    (OptionSet.ofList options).types.has index = true ↔
      ∃ type, IsFor line type ∧ type.index = index := by
  have asksForNone : (OptionSet.ofList options).wanted = ∅ ↔ ∀ type, ¬Requests line type := by
    rw [TypeMask.eq_empty_iff]
    constructor
    · intro absent type requested
      have present := holds.wanted_has_iff.mpr ⟨type, requested, rfl⟩
      rw [absent] at present
      cases present
    · intro absent index
      rw [Bool.eq_false_iff, ne_eq, holds.wanted_has_iff]
      rintro ⟨type, requested, -⟩
      exact absent type requested
  have base : (if (OptionSet.ofList options).wanted = ∅ then TypeMask.all
        else (OptionSet.ofList options).wanted).has index = true ↔
      ∃ type, (Requests line type ∨
        (∀ wanted, ¬Requests line wanted) ∧ type ∈ RequestType.usual) ∧ type.index = index := by
    by_cases none : (OptionSet.ofList options).wanted = ∅
    · have noRequest := asksForNone.mp none
      rw [if_pos none, RequestType.all_eq_mask, RequestType.has_mask]
      simp [noRequest]
    · have someRequest : ¬∀ wanted, ¬Requests line wanted := fun absent =>
        none (asksForNone.mpr absent)
      rw [if_neg none, holds.wanted_has_iff]
      simp only [someRequest, false_and, or_false]
  rw [OptionSet.types, TypeMask.hasUnion, noPage, Bool.or_false, TypeMask.hasDiff,
    Bool.and_eq_true, base, Bool.not_eq_true', Bool.eq_false_iff, ne_eq, holds.unwanted_has_iff]
  constructor
  · rintro ⟨⟨type, asked, rfl⟩, notRefused⟩
    exact ⟨type, ⟨asked, fun refused => notRefused ⟨type, refused, rfl⟩⟩, rfl⟩
  · rintro ⟨type, ⟨asked, notRefused⟩, rfl⟩
    refine ⟨⟨type, asked, rfl⟩, ?_⟩
    rintro ⟨found, refused, same⟩
    rw [RequestType.index_injective same] at refused
    exact notRefused refused

end Masks

section Types

variable {line : Text} {rule : UrlRule}

theorem types_has_iff (parsed : parse line = .ok rule) (type : RequestType) :
    rule.types.has type.index = true ↔ IsFor line type := by
  obtain ⟨raw, options, pattern, holds, -, -, rfl⟩ := parse_eq_ok parsed
  have noPage := OptionSet.pageExceptions_has holds.options_read type
  refine (holds.types_has_iff noPage).trans ?_
  constructor
  · rintro ⟨found, isFor, same⟩
    rwa [← RequestType.index_injective same]
  · intro isFor
    exact ⟨type, isFor, rfl⟩

/-- The mask of a rule holds just some types when the line is for these and nothing else. -/
theorem types_eq_mask_iff (parsed : parse line = .ok rule) (types : List RequestType) :
    rule.types = RequestType.mask types ↔ IsForOnly line types := by
  constructor
  · intro same
    refine ⟨fun type => ?_, fun namesPage => ?_⟩
    · rw [← types_has_iff parsed, same, RequestType.has_mask_index]
    · obtain ⟨raw, options, pattern, holds, -, -, rfl⟩ := parse_eq_ok parsed
      have some := (OptionSet.pageExceptions_ne_empty_iff holds.options_read).mpr namesPage
      rw [ne_eq, TypeMask.eq_empty_iff, not_forall] at some
      obtain ⟨index, present⟩ := some
      rw [Bool.not_eq_false] at present
      -- The bit of the page exception would be the place of a type of requests.
      have among : (OptionSet.ofList options).types.has index = true := by
        rw [OptionSet.types, TypeMask.hasUnion, present, Bool.or_true]
      change (OptionSet.ofList options).types = _ at same
      rw [same, RequestType.has_mask] at among
      obtain ⟨type, -, rfl⟩ := among
      rw [OptionSet.pageExceptions_has holds.options_read type] at present
      cases present
  · rintro ⟨exact, noPage⟩
    obtain ⟨raw, options, pattern, holds, -, -, rfl⟩ := parse_eq_ok parsed
    have none : (OptionSet.ofList options).pageExceptions = ∅ := by
      by_contra some
      exact noPage ((OptionSet.pageExceptions_ne_empty_iff holds.options_read).mp some)
    apply TypeMask.eqOfHas
    intro index _
    have noBit : (OptionSet.ofList options).pageExceptions.has index = false := by
      rw [none, TypeMask.has_empty]
    rw [Bool.eq_iff_iff, RequestType.has_mask]
    change (OptionSet.ofList options).types.has index = true ↔ _
    rw [holds.types_has_iff noBit]
    simp only [exact]

end Types

/-- A rule that blocks keeps its conditions. -/
theorem Exempts.eq_of_blocks {rule : UrlRule} {trigger exempted : Trigger}
    (exempts : rule.Exempts trigger exempted) (blocks : rule.isException = false) :
    exempted = trigger := by
  cases exempts with
  | unchanged => rfl
  | pinned isException =>
      rw [blocks] at isException
      cases isException
  | documents isException =>
      rw [blocks] at isException
      cases isException

theorem isException_of_parse {line : Text} {rule : UrlRule} (parsed : parse line = .ok rule) :
    rule.isException = line.startsWith ['@', '@'] := by
  obtain ⟨raw, options, pattern, -, -, -, rfl⟩ := parse_eq_ok parsed
  rfl

/-- The resource types of a rule that blocks are the counterparts of the types that its line is for,
unless these are the usual ones. -/
theorem mem_resourceTypes {line : Text} {rule : UrlRule} {content : ContentRule}
    (parsed : parse line = .ok rule) (blocks : line.startsWith ['@', '@'] = false)
    (converted : rule.convert = .ok content) :
    content.trigger.resourceTypes ≠ some [] ∧ ∀ token,
      token ∈ content.trigger.resourceTypes.getD [] ↔
        ¬IsForOnly line RequestType.usual ∧ ∃ type, IsFor line type ∧
          type.counterpart? = some token ∧
          (type = .subdocument → IsForOnly line [.subdocument]) := by
  obtain ⟨_, resourceTypes, scope, -, mapped, -, exempts, -⟩ := convert_eq_ok converted
  rw [exempts.eq_of_blocks ((isException_of_parse parsed).trans blocks)]
  refine ⟨ResourceType.ofMask_ne_nil mapped, fun token => ?_⟩
  have usual : rule.types = .all ↔ IsForOnly line RequestType.usual := by
    rw [RequestType.all_eq_mask]
    exact types_eq_mask_iff parsed RequestType.usual
  have frames : rule.types = .subdocument ↔ IsForOnly line [.subdocument] :=
    types_eq_mask_iff parsed [.subdocument]
  change token ∈ resourceTypes.getD [] ↔ _
  rw [ResourceType.mem_ofMask mapped, ResourceType.mem_counterparts, ne_eq, usual, frames]
  simp only [types_has_iff parsed]

theorem isFor_of_requests {line : Text} (requests : ∃ type, Requests line type)
    (type : RequestType) : IsFor line type ↔ Requests line type ∧ ¬Refuses line type := by
  have asks : ¬∀ wanted, ¬Requests line wanted := not_forall_not.mpr requests
  simp only [IsFor, asks, false_and, or_false]

/-- The types that a line asks for restrict a trigger: it has only the counterparts of types that
are asked for and not refused, and it has all of these, where frames count when they are alone. The
usual types together are left out, as they are when none is asked for. -/
structure KeepsRequests (line : Text) (trigger : Trigger) : Prop where
  someType : trigger.resourceTypes ≠ some []
  named : ∀ token ∈ trigger.resourceTypes.getD [],
    ∃ type, Requests line type ∧ ¬Refuses line type ∧ type.counterpart? = some token
  kept : ¬IsForOnly line RequestType.usual → ∀ type token, Requests line type →
    ¬Refuses line type → type.counterpart? = some token →
    (type = .subdocument → IsForOnly line [.subdocument]) →
    token ∈ trigger.resourceTypes.getD []
  usual : IsForOnly line RequestType.usual → trigger.resourceTypes = none

/-- A rule that blocks and whose line asks for some type keeps to the types that are asked for. For
objects alone there is no such rule. -/
theorem requests_restrict {line : Text} {rule : UrlRule} (parsed : parse line = .ok rule)
    (blocks : line.startsWith ['@', '@'] = false) (requests : ∃ type, Requests line type) :
    (∀ type, type = .object ∨ type = .objectSubrequest → IsForOnly line [type] →
      ∃ cause, rule.convert = .error cause) ∧
    ∀ content, rule.convert = .ok content → KeepsRequests line content.trigger := by
  constructor
  · intro type isObject only
    have types := (types_eq_mask_iff parsed [type]).mpr only
    cases converted : rule.convert with
    | error cause => exact ⟨cause, rfl⟩
    | ok content =>
        obtain ⟨_, _, _, -, mapped, -⟩ := convert_eq_ok converted
        rw [types] at mapped
        rcases isObject with rfl | rfl <;> cases mapped
  · intro content converted
    obtain ⟨someType, members⟩ := mem_resourceTypes parsed blocks converted
    constructor
    case someType => exact someType
    case named =>
      intro token member
      obtain ⟨-, type, isFor, counterpart, -⟩ := (members token).mp member
      obtain ⟨requested, notRefused⟩ := (isFor_of_requests requests type).mp isFor
      exact ⟨type, requested, notRefused, counterpart⟩
    case kept =>
      intro unusual type token requested notRefused counterpart frames
      have isFor := (isFor_of_requests requests type).mpr ⟨requested, notRefused⟩
      exact (members token).mpr ⟨unusual, type, isFor, counterpart, frames⟩
    case usual =>
      intro usual
      cases given : content.trigger.resourceTypes with
      | none => rfl
      | some tokens =>
          cases tokens with
          | nil => exact absurd given someType
          | cons token tokens =>
              have member : token ∈ content.trigger.resourceTypes.getD [] := by simp [given]
              exact absurd usual ((members token).mp member).1

/-- The line of a rule for some types, one of which is refused as well. -/
def someTypesLine : Text := "||ads.com^$css,font,xhr,~font,object".toList

theorem requests_restrict_someTypes :
    ∃ rule content, parse someTypesLine = .ok rule ∧
      someTypesLine.startsWith ['@', '@'] = false ∧ Requests someTypesLine .styleSheet ∧
      rule.convert = .ok content ∧ content.trigger.resourceTypes = some [.styleSheet, .raw] ∧
      KeepsRequests someTypesLine content.trigger := by
  have parsed : parse someTypesLine =
      .ok (hostRule (.styleSheet ∪ .xmlHttpRequest ∪ .object) [] [] someTypesLine) := by
    decide +kernel
  have converted :
      (hostRule (.styleSheet ∪ .xmlHttpRequest ∪ .object) [] [] someTypesLine).convert =
        .ok (hostContent (some [.styleSheet, .raw]) none none) := by decide +kernel
  have requested : Requests someTypesLine .styleSheet := by decide
  refine ⟨_, _, parsed, by decide, requested, converted, rfl, ?_⟩
  exact (requests_restrict parsed (by decide) ⟨.styleSheet, requested⟩).2 _ converted

/-- The line of a rule for each of the usual types. -/
def usualTypesLine : Text :=
  "||ads.com^$other,script,stylesheet,object,image,xmlhttprequest,object-subrequest,media".toList

/-- A rule that asks for each of the usual types has no resource types. -/
theorem usualTypes_unrestricted :
    ∃ rule content, parse usualTypesLine = .ok rule ∧
      usualTypesLine.startsWith ['@', '@'] = false ∧
      (∀ type ∈ RequestType.usual, Requests usualTypesLine type ∧ ¬Refuses usualTypesLine type) ∧
      rule.convert = .ok content ∧ content.trigger.resourceTypes = none :=
  ⟨hostRule .all [] [] usualTypesLine, hostContent none none none, by decide +kernel, by decide,
    by decide, by decide +kernel, rfl⟩

end UrlRule

/-- The trigger holds for no request of a type. -/
def Trigger.Excludes (trigger : Trigger) (token : ResourceType) : Prop :=
  ∃ tokens, trigger.resourceTypes = some tokens ∧ token ∉ tokens

/-- The types that a resource type of their own stands for. -/
def RequestType.separate : List RequestType :=
  [.image, .styleSheet, .script, .media, .popup, .font]

theorem RequestType.eq_of_separate {type found : RequestType} {token : ResourceType}
    (separate : type ∈ RequestType.separate) (counterpart : type.counterpart? = some token)
    (same : found.counterpart? = some token) : found = type := by
  simp only [RequestType.separate, List.mem_cons, List.not_mem_nil, or_false] at separate
  rcases separate with rfl | rfl | rfl | rfl | rfl | rfl <;> cases counterpart <;>
    cases found <;> first | rfl | cases same

namespace UrlRule

/-- A rule that blocks excludes a type that its line refuses, unless the types that the line is for
are the usual ones or none of them has a counterpart. -/
theorem refused_excluded_iff {line : Text} {rule : UrlRule} {content : ContentRule}
    (parsed : parse line = .ok rule) (blocks : line.startsWith ['@', '@'] = false)
    (converted : rule.convert = .ok content) {type : RequestType} {token : ResourceType}
    (separate : type ∈ RequestType.separate) (counterpart : type.counterpart? = some token)
    (refused : Refuses line type) :
    content.trigger.Excludes token ↔
      ¬IsForOnly line RequestType.usual ∧ ∃ kept, IsFor line kept ∧
        kept.counterpart? ≠ none ∧ (kept = .subdocument → IsForOnly line [.subdocument]) := by
  obtain ⟨someType, members⟩ := mem_resourceTypes parsed blocks converted
  constructor
  · rintro ⟨tokens, given, -⟩
    have some : tokens ≠ [] := by
      rintro rfl
      exact someType given
    obtain ⟨first, member⟩ := List.exists_mem_of_ne_nil tokens some
    have present : first ∈ content.trigger.resourceTypes.getD [] := by rwa [given]
    obtain ⟨unusual, kept, isFor, keptCounterpart, frames⟩ := (members first).mp present
    exact ⟨unusual, kept, isFor, by simp [keptCounterpart], frames⟩
  · rintro ⟨unusual, kept, isFor, hasCounterpart, frames⟩
    obtain ⟨first, keptCounterpart⟩ := Option.ne_none_iff_exists'.mp hasCounterpart
    have present := (members first).mpr ⟨unusual, kept, isFor, keptCounterpart, frames⟩
    cases given : content.trigger.resourceTypes with
    | none =>
        rw [given] at present
        cases present
    | some tokens =>
        refine ⟨tokens, given, fun member => ?_⟩
        have listed : token ∈ content.trigger.resourceTypes.getD [] := by rwa [given]
        obtain ⟨-, found, isForFound, foundCounterpart, -⟩ := (members token).mp listed
        rw [RequestType.eq_of_separate separate counterpart foundCounterpart] at isForFound
        exact isForFound.2 refused

/-- The line of a rule for all usual types but images. -/
def noImagesLine : Text := "||ads.com^$~image".toList

theorem refused_excluded_images :
    ∃ rule content, parse noImagesLine = .ok rule ∧
      noImagesLine.startsWith ['@', '@'] = false ∧ Refuses noImagesLine .image ∧
      rule.convert = .ok content ∧ content.trigger.Excludes .image := by
  have parsed : parse noImagesLine = .ok (hostRule (.all \ .image) [] [] noImagesLine) := by
    decide +kernel
  have converted : (hostRule (.all \ .image) [] [] noImagesLine).convert =
      .ok (hostContent (some [.styleSheet, .script, .media, .raw]) none none) := by decide +kernel
  have refused : Refuses noImagesLine .image := by decide
  refine ⟨_, _, parsed, by decide, refused, converted, ?_⟩
  refine (refused_excluded_iff parsed (by decide) converted (by decide) rfl refused).mpr ?_
  have asksForNone : ∀ wanted, ¬Requests noImagesLine wanted := by
    intro wanted
    cases wanted <;> decide
  refine ⟨fun usual => ?_, .script, ⟨.inr ⟨asksForNone, by decide⟩, by decide⟩, by decide, nofun⟩
  exact ((usual.1 .image).mpr (by decide)).2 refused

/-- The line of a rule that refuses fonts, which are no usual type. -/
def noFontsLine : Text := "||ads.com^$~font".toList

/-- The line of a rule that refuses all usual types that have a counterpart. -/
def noCounterpartLine : Text :=
  "||ads.com^$~image,~stylesheet,~script,~media,~xmlhttprequest,~other".toList

/-- A rule applies to fonts that its line refuses, when the usual types are left, and to images that
its line refuses, when only types without a counterpart are left. -/
theorem refused_included :
    ∃ noFonts noCounterpart, parse noFontsLine = .ok noFonts ∧
      noFontsLine.startsWith ['@', '@'] = false ∧ Refuses noFontsLine .font ∧
      noFonts.convert = .ok (hostContent none none none) ∧
      parse noCounterpartLine = .ok noCounterpart ∧
      noCounterpartLine.startsWith ['@', '@'] = false ∧ Refuses noCounterpartLine .image ∧
      noCounterpart.convert = .ok (hostContent none none none) ∧
      ∀ token, ¬(hostContent none none none).trigger.Excludes token := by
  refine ⟨hostRule .all [] [] noFontsLine,
    hostRule (.object ∪ .objectSubrequest) [] [] noCounterpartLine, by decide +kernel, by decide,
    by decide, by decide +kernel, by decide +kernel, by decide, by decide, by decide +kernel, ?_⟩
  rintro token ⟨tokens, given, -⟩
  cases given

end UrlRule

end Blocklist
