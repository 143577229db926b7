/-
This file says which names the entries of a domain list give: an entry with a tilde in front spares
the pages of its name, and every other entry includes them.
-/

import Blocklist.Filter.DomainEntry

namespace Blocklist.DomainEntry

open Text

@[simp] theorem included_append (first second : List DomainEntry) :
    included (first ++ second) = included first ++ included second := by
  simp [included]

@[simp] theorem excludedNames_append (first second : List DomainEntry) :
    excludedNames (first ++ second) = excludedNames first ++ excludedNames second := by
  simp [excludedNames]

theorem mem_included {entries : List DomainEntry} {name : Text} :
    name ∈ included entries ↔ ∃ entry ∈ entries, entry.excluded = false ∧ entry.name = name := by
  simp [included, and_assoc]

theorem mem_excludedNames {entries : List DomainEntry} {name : Text} :
    name ∈ excludedNames entries ↔
      ∃ entry ∈ entries, entry.excluded = true ∧ entry.name = name := by
  simp [excludedNames, and_assoc]

theorem ofText_excluded (text : Text) : (ofText text).excluded = text.startsWith ['~'] := by
  cases text with
  | nil => rfl
  | cons c rest =>
      by_cases tilde : c = '~'
      · subst tilde
        rfl
      · have plain : ofText (c :: rest) = ⟨c :: rest, false⟩ := by
          rw [ofText]
          rintro name ⟨⟩
          exact tilde rfl
        rw [plain]
        simp [startsWith, List.isPrefixOf, Ne.symm tilde]

theorem ofText_of_included {text : Text} (included : text.startsWith ['~'] = false) :
    (ofText text).name = text := by
  cases text with
  | nil => rfl
  | cons c rest =>
      rw [ofText]
      rintro name ⟨⟩
      simp [startsWith] at included

variable {fields : List Text} {keeps : DomainEntry → Bool} {fits : Text → Prop}

/-- The included names are the fields without a tilde that are kept. -/
theorem exists_included_iff :
    (∃ name ∈ included ((fields.map ofText).filter keeps), fits name) ↔
      ∃ field ∈ fields, field.startsWith ['~'] = false ∧ keeps (ofText field) = true ∧
        fits field := by
  simp only [mem_included, List.mem_filter, List.mem_map]
  constructor
  · rintro ⟨name, ⟨entry, ⟨⟨field, member, rfl⟩, kept⟩, included, rfl⟩, fit⟩
    rw [ofText_excluded] at included
    rw [ofText_of_included included] at fit
    exact ⟨field, member, included, kept, fit⟩
  · rintro ⟨field, member, included, kept, fit⟩
    exact ⟨field, ⟨ofText field, ⟨⟨field, member, rfl⟩, kept⟩,
      by rwa [ofText_excluded], ofText_of_included included⟩, fit⟩

/-- Every field that is kept gives a name, included or excluded. -/
theorem exists_name_iff :
    (∃ name ∈ included ((fields.map ofText).filter keeps) ++
        excludedNames ((fields.map ofText).filter keeps), fits name) ↔
      ∃ field ∈ fields, keeps (ofText field) = true ∧ fits (ofText field).name := by
  simp only [List.mem_append, mem_included, mem_excludedNames, List.mem_filter, List.mem_map]
  constructor
  · rintro ⟨name, ⟨entry, ⟨⟨field, member, rfl⟩, kept⟩, -, rfl⟩ |
      ⟨entry, ⟨⟨field, member, rfl⟩, kept⟩, -, rfl⟩, fit⟩
    · exact ⟨field, member, kept, fit⟩
    · exact ⟨field, member, kept, fit⟩
  · rintro ⟨field, member, kept, fit⟩
    refine ⟨(ofText field).name, ?_, fit⟩
    cases excluded : (ofText field).excluded with
    | false => exact .inl ⟨ofText field, ⟨⟨field, member, rfl⟩, kept⟩, excluded, rfl⟩
    | true => exact .inr ⟨ofText field, ⟨⟨field, member, rfl⟩, kept⟩, excluded, rfl⟩

end Blocklist.DomainEntry
