/-
This file says how a list of domains is written in front of a cosmetic marker: entries with commas
between them, a tilde in front of a name that is excluded, and blanks wherever the list allows
them. Such a list is read as its entries, in their order.
-/

import Blocklist.Proofs.Filter.CosmeticRule
import Blocklist.Proofs.Filter.DomainEntry
import Blocklist.Proofs.Text.Blank
import Blocklist.Proofs.Text.Fields

namespace Blocklist

open Text

namespace DomainEntry

/-- The entry as it stands in a list. -/
def written (entry : DomainEntry) : Text :=
  if entry.excluded then '~' :: entry.name else entry.name

/-- The name holds neither the mark between entries nor the mark of the marker, has no blanks around
it, and is not that of an open-ended domain or of a regular expression. -/
structure Writable (entry : DomainEntry) : Prop where
  named : entry.name ≠ []
  noComma : ',' ∉ entry.name
  noMarker : '#' ∉ entry.name
  trimmed : trim entry.name = entry.name
  closed : entry.name.endsWith ".*".toList = false
  noRegex : 1 < entry.name.length → entry.name.startsWith ['/'] = true →
    entry.name.endsWith ['/'] = false
  noTilde : entry.excluded = false → entry.name.startsWith ['~'] = false

theorem writable_iff (entry : DomainEntry) :
    entry.Writable ↔ entry.name ≠ [] ∧ ',' ∉ entry.name ∧ '#' ∉ entry.name ∧
      trim entry.name = entry.name ∧ entry.name.endsWith ".*".toList = false ∧
      (1 < entry.name.length → entry.name.startsWith ['/'] = true →
        entry.name.endsWith ['/'] = false) ∧
      (entry.excluded = false → entry.name.startsWith ['~'] = false) := by
  constructor
  · intro writable
    exact ⟨writable.named, writable.noComma, writable.noMarker, writable.trimmed, writable.closed,
      writable.noRegex, writable.noTilde⟩
  · intro ⟨named, noComma, noMarker, trimmed, closed, noRegex, noTilde⟩
    exact ⟨named, noComma, noMarker, trimmed, closed, noRegex, noTilde⟩

instance (entry : DomainEntry) : Decidable entry.Writable :=
  decidable_of_iff _ entry.writable_iff.symm

theorem not_mem_written {entry : DomainEntry} {c : Char} (apart : c ≠ '~')
    (absent : c ∉ entry.name) : c ∉ entry.written := by
  rw [written]
  split
  case isTrue =>
    rw [List.mem_cons, not_or]
    exact ⟨apart, absent⟩
  case isFalse => exact absent

namespace Writable

variable {entry : DomainEntry} (writable : entry.Writable)
include writable

theorem written_ne_nil : entry.written ≠ [] := by
  rw [written]
  split
  case isTrue => exact List.cons_ne_nil _ _
  case isFalse => exact writable.named

theorem trim_written : trim entry.written = entry.written := by
  rw [written]
  split
  case isTrue =>
    apply trim_eq_self
    · rintro c ⟨⟩
      decide
    · intro c last
      rw [List.getLast?_cons_of_ne_nil writable.named, ← writable.trimmed] at last
      exact dropTrailingGetLast? last
  case isFalse => exact writable.trimmed

theorem ofText_written : ofText entry.written = entry := by
  obtain ⟨name, excluded⟩ := entry
  cases excluded with
  | true => rfl
  | false =>
      change ofText name = ⟨name, false⟩
      rw [ofText]
      rintro rest rfl
      cases writable.noTilde rfl

theorem isForeign_eq : entry.isForeign = false := by
  have noRegex : (entry.isSlashed && entry.name != ['/']) = false := by
    rw [← Bool.not_eq_true, Bool.and_eq_true, bne_iff_ne]
    rintro ⟨slashed, long⟩
    obtain ⟨starts, ends⟩ := Bool.and_eq_true_iff.mp slashed
    obtain ⟨rest, name⟩ := List.isPrefixOf_iff_prefix.mp starts
    cases rest with
    | nil => exact long name.symm
    | cons c rest =>
        have twoAtLeast : 1 < entry.name.length := by simp [← name]
        rw [writable.noRegex twoAtLeast starts] at ends
        cases ends
  rw [isForeign, noRegex, Bool.false_or]
  exact writable.closed

end Writable

end DomainEntry

/-- An entry in a list with blanks around it, or blanks alone. -/
structure DomainField where
  before : Text
  entry : Option DomainEntry
  behind : Text
deriving DecidableEq, Repr

namespace DomainField

def text (field : DomainField) : Text :=
  field.before ++ (field.entry.map DomainEntry.written).getD [] ++ field.behind

/-- Only blanks are around the entry, and its name can be written. -/
structure Regular (field : DomainField) : Prop where
  blankBefore : ∀ c ∈ field.before, isBlank c = true
  blankBehind : ∀ c ∈ field.behind, isBlank c = true
  writable : ∀ entry, field.entry = some entry → entry.Writable

theorem regular_iff (field : DomainField) :
    field.Regular ↔ field.before.all isBlank = true ∧ field.behind.all isBlank = true ∧
      ∀ entry ∈ field.entry, entry.Writable := by
  rw [List.all_eq_true, List.all_eq_true]
  constructor
  · intro regular
    exact ⟨regular.blankBefore, regular.blankBehind, regular.writable⟩
  · intro ⟨blankBefore, blankBehind, writable⟩
    exact ⟨blankBefore, blankBehind, writable⟩

instance (field : DomainField) : Decidable field.Regular :=
  decidable_of_iff _ field.regular_iff.symm

namespace Regular

variable {field : DomainField} (regular : field.Regular)
include regular

theorem not_mem_text {c : Char} (apart : c ≠ '~') (noBlank : isBlank c = false)
    (absent : ∀ entry, field.entry = some entry → c ∉ entry.name) : c ∉ field.text := by
  have notAmong : ∀ {text : Text}, (∀ other ∈ text, isBlank other = true) → c ∉ text := by
    intro text blank member
    rw [blank c member] at noBlank
    cases noBlank
  rw [text, List.mem_append, List.mem_append, not_or, not_or]
  refine ⟨⟨notAmong regular.blankBefore, ?_⟩, notAmong regular.blankBehind⟩
  cases present : field.entry with
  | none => exact List.not_mem_nil
  | some entry => exact DomainEntry.not_mem_written apart (absent entry present)

theorem trim_text : trim field.text = (field.entry.map DomainEntry.written).getD [] := by
  rw [text, trim_append regular.blankBefore regular.blankBehind]
  cases present : field.entry with
  | none => rfl
  | some entry => exact (regular.writable entry present).trim_written

end Regular

/-- The list that the fields make with commas between them. -/
def listed (fields : List DomainField) : Text := [','].intercalate (fields.map text)

section Listed

variable {list : List DomainField} (regular : ∀ field ∈ list, field.Regular)
include regular

/-- The induction is on the fields, of which those without an entry are passed over. -/
theorem entries_of_fields :
    (((list.map text).map trim).filter (!·.isEmpty)).map DomainEntry.ofText =
      list.filterMap entry := by
  induction list with
  | nil => rfl
  | cons field list inductionHypothesis =>
      have here := regular field List.mem_cons_self
      have later := inductionHypothesis fun other member =>
        regular other (List.mem_cons_of_mem field member)
      rw [List.map_cons, List.map_cons, here.trim_text, List.filter_cons]
      cases present : field.entry with
      | none => simpa [present] using later
      | some entry =>
          have writable := here.writable entry present
          simpa [present, writable.written_ne_nil, writable.ofText_written] using later

theorem ofList_listed : DomainEntry.ofList (listed list) = list.filterMap entry := by
  rw [← entries_of_fields regular, DomainEntry.ofList, listed]
  cases list with
  | nil => rfl
  | cons field list =>
      rw [fields_intercalate (by simp)]
      intro text member
      obtain ⟨other, present, rfl⟩ := List.mem_map.mp member
      apply (regular other present).not_mem_text (by decide) (by decide)
      intro entry found
      exact ((regular other present).writable entry found).noComma

theorem not_mem_listed : '#' ∉ listed list := by
  intro member
  obtain ⟨text, among, inText⟩ := exists_mem_of_mem_intercalate (by decide) member
  obtain ⟨field, present, rfl⟩ := List.mem_map.mp among
  refine (regular field present).not_mem_text (by decide) (by decide) ?_ inText
  intro entry found
  exact ((regular field present).writable entry found).noMarker

theorem supportedDomains_listed :
    CosmeticRule.supportedDomains (listed list) = .ok (list.filterMap entry) := by
  have read := ofList_listed regular
  rw [← read]
  apply CosmeticRule.supportedDomains_of_known
  rw [read]
  intro found member
  obtain ⟨field, present, same⟩ := List.mem_filterMap.mp member
  exact ((regular field present).writable found same).isForeign_eq

end Listed

end DomainField

end Blocklist
