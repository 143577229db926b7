/-
This file shows that the rules of a content blocker are read back from the JSON that they are
written as.
-/

import Blocklist.Content.Json
import Blocklist.Proofs.Json.RoundTrip

namespace Blocklist

open Json

namespace Json.Value

theorem mapM_map_eq_some {A B : Type} (encode : A → B) {decode : B → Option A}
    (inverse : ∀ item, decode (encode item) = some item) (items : List A) :
    (items.map encode).mapM decode = some items := by
  induction items with
  | nil => rfl
  | cons item items inductionHypothesis =>
      rw [List.map_cons, List.mapM_cons, inverse item, inductionHypothesis]
      rfl

theorem array?_map {A : Type} (encode : A → Value) {decode : Value → Option A}
    (inverse : ∀ item, decode (encode item) = some item) (items : List A) :
    (Value.array (items.map encode)).array? decode = some items :=
  mapM_map_eq_some encode inverse items

theorem texts?_ofTexts (texts : List Text) : (Value.ofTexts texts).texts? = some texts :=
  array?_map Value.text (fun _ => rfl) texts

theorem readable_ofTexts (texts : List Text) : (Value.ofTexts texts).Readable := by
  apply readable_array
  intro item member
  obtain ⟨text, -, rfl⟩ := List.mem_map.mp member
  exact readable_text text

/-- An object of members that may be absent. -/
def ofMembers (entries : List (Text × Option Value)) : Value :=
  .object (entries.flatMap fun entry => Trigger.member entry.1 entry.2)

theorem readable_ofMembers {entries : List (Text × Option Value)}
    (readable : ∀ entry ∈ entries, ∀ value, entry.2 = some value → value.Readable) :
    (ofMembers entries).Readable := by
  apply readable_object
  intro part member
  obtain ⟨entry, present, listed⟩ := List.mem_flatMap.mp member
  rw [Trigger.member, Option.mem_toList, Option.map_eq_some_iff] at listed
  obtain ⟨value, held, rfl⟩ := listed
  exact readable entry present value held

theorem find?_absent {key : Text} {entries : List (Text × Option Value)}
    (absent : key ∉ entries.map Prod.fst) :
    (entries.flatMap fun entry => Trigger.member entry.1 entry.2).find?
      (fun entry => entry.1 == key) = none := by
  refine List.find?_eq_none.mpr ?_
  intro part member
  obtain ⟨entry, present, listed⟩ := List.mem_flatMap.mp member
  rw [Trigger.member, Option.mem_toList, Option.map_eq_some_iff] at listed
  obtain ⟨value, -, rfl⟩ := listed
  intro same
  exact absent (List.mem_map.mpr ⟨entry, present, beq_iff_eq.mp same⟩)

/-- Under distinct keys, a look-up finds the member with the key if it is there. -/
theorem member?_ofMembers {entries : List (Text × Option Value)} {key : Text}
    {value : Option Value} (distinct : (entries.map Prod.fst).Nodup)
    (listed : (key, value) ∈ entries) : (ofMembers entries).member? key = value := by
  induction entries with
  | nil => cases listed
  | cons entry entries inductionHypothesis =>
      rw [List.map_cons, List.nodup_cons] at distinct
      obtain ⟨fresh, distinctOthers⟩ := distinct
      change Option.map Prod.snd (List.find? _ (List.flatMap _ (entry :: entries))) = value
      rw [List.flatMap_cons, List.find?_append]
      rcases List.mem_cons.mp listed with rfl | later
      · cases value with
        | none =>
            rw [find?_absent fresh, Option.or_none]
            rfl
        | some present => simp [Trigger.member]
      · have other : entry.1 ≠ key := by
          rintro rfl
          exact fresh (List.mem_map.mpr ⟨_, later, rfl⟩)
        have skipped : (Trigger.member entry.1 entry.2).find? (fun part => part.1 == key) =
            none := by
          cases held : entry.2 <;> simp [Trigger.member, other]
        rw [skipped, Option.none_or]
        exact inductionHypothesis distinctOthers later

theorem required?_ofMember {A : Type} (encode : A → Value) {key : Text}
    {decode : Value → Option A} {value : Value} {item : A}
    (held : value.member? key = some (encode item))
    (inverse : decode (encode item) = some item) : value.required? key decode = some item := by
  rw [required?, held]
  exact inverse

theorem optional?_ofMember {A : Type} (encode : A → Value) {key : Text}
    {decode : Value → Option A} {value : Value} {item : Option A}
    (held : value.member? key = item.map encode)
    (inverse : ∀ present, decode (encode present) = some present)
    (notNull : ∀ present, encode present ≠ .null) :
    value.optional? key decode = some item := by
  rw [optional?, held]
  cases item with
  | none => rfl
  | some present =>
      rw [Option.map_some]
      split
      case h_1 absent => cases absent
      case h_2 null => exact absurd (Option.some.inj null) (notNull present)
      case h_3 _ same =>
        obtain rfl := Option.some.inj same
        rw [inverse present]
        rfl

end Json.Value

namespace Trigger

/-- The members of a trigger, by their keys. -/
def entries (trigger : Trigger) : List (Text × Option Value) := [
  (urlFilterKey, some (.text trigger.urlFilter)),
  (caseSensitiveKey, trigger.caseSensitive.map .bool),
  (ifDomainKey, trigger.ifDomain.map Value.ofTexts),
  (unlessDomainKey, trigger.unlessDomain.map Value.ofTexts),
  (resourceTypesKey,
    trigger.resourceTypes.map fun types => Value.ofTexts (types.map ResourceType.name)),
  (loadTypesKey, trigger.loadTypes.map fun types => Value.ofTexts (types.map LoadType.name))]

theorem toJson_eq (trigger : Trigger) : trigger.toJson = Value.ofMembers trigger.entries := by
  simp [toJson, Value.ofMembers, entries, member]

theorem entries_distinct (trigger : Trigger) : (trigger.entries.map Prod.fst).Nodup := by
  change [urlFilterKey, caseSensitiveKey, ifDomainKey, unlessDomainKey, resourceTypesKey,
    loadTypesKey].Nodup
  decide

theorem readable_toJson (trigger : Trigger) : trigger.toJson.Readable := by
  rw [toJson_eq]
  apply Value.readable_ofMembers
  intro entry listed value held
  simp only [entries, List.mem_cons, List.not_mem_nil, or_false] at listed
  rcases listed with rfl | rfl | rfl | rfl | rfl | rfl
  case inl =>
    obtain rfl := Option.some.inj held
    exact Value.readable_text trigger.urlFilter
  case inr.inl =>
    obtain ⟨flag, -, rfl⟩ := Option.map_eq_some_iff.mp held
    exact Value.readable_bool flag
  all_goals
    obtain ⟨names, -, rfl⟩ := Option.map_eq_some_iff.mp held
    exact Value.readable_ofTexts _

theorem ofJson?_toJson (trigger : Trigger) : ofJson? trigger.toJson = some trigger := by
  have held : ∀ {key : Text} {value : Option Value}, (key, value) ∈ trigger.entries →
      trigger.toJson.member? key = value := by
    intro key value listed
    rw [toJson_eq]
    exact Value.member?_ofMembers trigger.entries_distinct listed
  have urlFilter : trigger.toJson.required? urlFilterKey Value.text? = some trigger.urlFilter :=
    Value.required?_ofMember Value.text (held (by simp [entries])) rfl
  have caseSensitive : trigger.toJson.optional? caseSensitiveKey Value.bool? =
      some trigger.caseSensitive :=
    Value.optional?_ofMember Value.bool (held (by simp [entries])) (fun _ => rfl) (by simp)
  have ifDomain : trigger.toJson.optional? ifDomainKey Value.texts? = some trigger.ifDomain :=
    Value.optional?_ofMember Value.ofTexts (held (by simp [entries])) Value.texts?_ofTexts
      (by simp [Value.ofTexts])
  have unlessDomain : trigger.toJson.optional? unlessDomainKey Value.texts? =
      some trigger.unlessDomain :=
    Value.optional?_ofMember Value.ofTexts (held (by simp [entries])) Value.texts?_ofTexts
      (by simp [Value.ofTexts])
  have resourceTypes : trigger.toJson.optional? resourceTypesKey
      (Value.array? fun item => item.text?.bind ResourceType.ofName?) =
        some trigger.resourceTypes :=
    Value.optional?_ofMember (fun types => Value.ofTexts (types.map ResourceType.name))
      (held (by simp [entries])) (fun types => by
        rw [Value.ofTexts, List.map_map]
        exact Value.array?_map _ ResourceType.ofName?Name types) (by simp [Value.ofTexts])
  have loadTypes : trigger.toJson.optional? loadTypesKey
      (Value.array? fun item => item.text?.bind LoadType.ofName?) = some trigger.loadTypes :=
    Value.optional?_ofMember (fun types => Value.ofTexts (types.map LoadType.name))
      (held (by simp [entries])) (fun types => by
        rw [Value.ofTexts, List.map_map]
        exact Value.array?_map _ LoadType.ofName?Name types) (by simp [Value.ofTexts])
  unfold ofJson?
  simp only [urlFilter, caseSensitive, ifDomain, unlessDomain, resourceTypes, loadTypes,
    Option.bind_eq_bind, Option.bind_some]
  rfl

end Trigger

namespace Action

/-- All that an action holds is written as text. -/
theorem readable_toJson (action : Action) : action.toJson.Readable := by
  have texts : ∃ members : List (Text × Text),
      action.toJson = .object (members.map fun part => (part.1, .text part.2)) := by
    cases action with
    | block => exact ⟨[(typeKey, blockName)], rfl⟩
    | cssDisplayNone selector => exact ⟨[(typeKey, hideName), (selectorKey, selector)], rfl⟩
    | ignorePreviousRules selector =>
        cases selector with
        | none => exact ⟨[(typeKey, ignoreName)], rfl⟩
        | some selector => exact ⟨[(typeKey, ignoreName), (selectorKey, selector)], rfl⟩
  obtain ⟨members, written⟩ := texts
  rw [written]
  apply Value.readable_object
  intro part listed
  obtain ⟨source, -, rfl⟩ := List.mem_map.mp listed
  exact Value.readable_text source.2

theorem ofJson?_toJson (action : Action) : ofJson? action.toJson = some action := by
  cases action with
  | block => rfl
  | cssDisplayNone selector => rfl
  | ignorePreviousRules selector => cases selector <;> rfl

end Action

namespace ContentRule

theorem readable_toJson (rule : ContentRule) : rule.toJson.Readable := by
  apply Value.readable_object
  intro part listed
  simp only [List.mem_cons, List.not_mem_nil, or_false] at listed
  rcases listed with rfl | rfl
  · exact rule.trigger.readable_toJson
  · exact rule.action.readable_toJson

theorem ofJson?_toJson (rule : ContentRule) : ofJson? rule.toJson = some rule := by
  have trigger : rule.toJson.required? triggerKey Trigger.ofJson? = some rule.trigger :=
    Value.required?_ofMember Trigger.toJson rfl rule.trigger.ofJson?_toJson
  have action : rule.toJson.required? actionKey Action.ofJson? = some rule.action :=
    Value.required?_ofMember Action.toJson rfl rule.action.ofJson?_toJson
  unfold ofJson?
  simp only [trigger, action, Option.bind_eq_bind, Option.bind_some]
  rfl

/-- The rules that are written are read back. -/
theorem readAll?_writeAll (rules : List ContentRule) : readAll? (writeAll rules) = some rules := by
  have readable : (Value.array (rules.map toJson)).Readable := by
    apply Value.readable_array
    intro item member
    obtain ⟨rule, -, rfl⟩ := List.mem_map.mp member
    exact rule.readable_toJson
  rw [readAll?, writeAll, Value.read?_indented readable]
  exact Value.array?_map toJson ofJson?_toJson rules

end ContentRule

end Blocklist
