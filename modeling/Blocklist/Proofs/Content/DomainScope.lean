/-
This file says which domains restrict a trigger. The normal forms of a list of names are those of
the names that are not blank, each once, so that a list of names restricts a trigger exactly when
one of them is not blank.
-/

import Blocklist.Proofs.Content.Conversion
import Blocklist.Proofs.Content.NameList
import Blocklist.Proofs.Correspondence

namespace Blocklist

open Text

namespace Hostname

/-- The names that are not just blank. -/
def written (names : List Text) : List Text := names.filter fun name => !(trim name).isEmpty

theorem mem_written {names : List Text} {name : Text} :
    name ∈ written names ↔ name ∈ names ∧ trim name ≠ [] := by
  simp [written]

/-- The induction is on the names, for all lists of names that are already there. -/
theorem normalizeFrom_eq_ok {names : List Text} :
    ∀ {seen normals : List Text}, normalizeFrom seen names = .ok normals →
      ∃ images, List.Forall₂ (fun name image => normalize? name = some image)
          (written names) images ∧
        normals = images.foldl joinName seen := by
  induction names with
  | nil =>
      intro seen normals result
      exact ⟨[], .nil, (Except.ok.inj result).symm⟩
  | cons name names inductionHypothesis =>
      intro seen normals result
      unfold normalizeFrom at result
      split at result
      case isTrue blank =>
        obtain ⟨images, normalized, joined⟩ := inductionHypothesis result
        refine ⟨images, ?_, joined⟩
        rwa [written, List.filter_cons_of_neg (by simpa using blank)]
      case isFalse notBlank =>
        split at result
        case h_1 => cases result
        case h_2 normal found =>
          obtain ⟨images, normalized, joined⟩ := inductionHypothesis result
          refine ⟨normal :: images, ?_, joined⟩
          rw [written, List.filter_cons_of_pos (by simpa using notBlank)]
          exact .cons found normalized

/-- The names that are not blank have normal forms, and these are kept once each. -/
theorem normalizeAll_eq_ok {names normals : List Text} (result : normalizeAll names = .ok normals) :
    ∃ images, List.Forall₂ (fun name image => normalize? name = some image) (written names) images ∧
      normals = images.eraseDups := by
  obtain ⟨images, normalized, joined⟩ := normalizeFrom_eq_ok result
  refine ⟨images, normalized, ?_⟩
  rw [joined, foldl_joinName, List.nil_append, List.filter_eq_self.mpr (by simp)]

theorem exists_name_of_mem_normalizeAll {names normals : List Text} {normal : Text}
    (result : normalizeAll names = .ok normals) (member : normal ∈ normals) :
    ∃ name ∈ written names, normalize? name = some normal := by
  obtain ⟨images, normalized, rfl⟩ := normalizeAll_eq_ok result
  exact exists_image_of_forall₂ normalized.flip (List.mem_eraseDups.mp member)

theorem normalizeAll_ne_nil_iff {names normals : List Text}
    (result : normalizeAll names = .ok normals) :
    normals ≠ [] ↔ ∃ name ∈ names, trim name ≠ [] := by
  constructor
  · intro someNormal
    obtain ⟨normal, member⟩ := List.exists_mem_of_ne_nil normals someNormal
    obtain ⟨name, present, -⟩ := exists_name_of_mem_normalizeAll result member
    exact ⟨name, mem_written.mp present⟩
  · rintro ⟨name, present, notBlank⟩
    obtain ⟨images, normalized, rfl⟩ := normalizeAll_eq_ok result
    obtain ⟨image, member, -⟩ :=
      exists_image_of_forall₂ normalized (mem_written.mpr ⟨present, notBlank⟩)
    exact List.ne_nil_of_mem (List.mem_eraseDups.mpr member)

end Hostname

namespace Trigger

/-- Only pages of some domains are meant. -/
def requiresDomain (trigger : Trigger) : Bool := !(trigger.ifDomain.getD []).isEmpty

end Trigger

namespace DomainScope

variable {included excluded : List Text} {scope : DomainScope} {trigger : Trigger}

theorem narrow_ifDomain (scope : DomainScope) (noneRequired : trigger.ifDomain = none) :
    (scope.narrow trigger).ifDomain.getD [] = scope.included := by
  by_cases empty : scope.included = []
  · simp [narrow, empty, noneRequired]
  · simp [narrow, empty]

/-- Domains are required exactly when a name is included that is not blank. -/
theorem narrow_requiresDomain (resolved : ofNames included excluded = .ok scope)
    (noneRequired : trigger.ifDomain = none) :
    (scope.narrow trigger).requiresDomain = true ↔ ∃ name ∈ included, trim name ≠ [] := by
  obtain ⟨includedNormal, -, -⟩ := ofNames_eq_ok resolved
  rw [← Hostname.normalizeAll_ne_nil_iff includedNormal, Trigger.requiresDomain,
    narrow_ifDomain scope noneRequired]
  simp

/-- There is a list of domains exactly when a name is given that is not blank. -/
theorem narrow_isRestricted (resolved : ofNames included excluded = .ok scope)
    (bare : trigger.isRestricted = false) :
    (scope.narrow trigger).isRestricted = true ↔
      ∃ name ∈ included ++ excluded, trim name ≠ [] := by
  obtain ⟨includedNormal, excludedNormal, -⟩ := ofNames_eq_ok resolved
  simp only [List.mem_append, or_and_right, exists_or]
  rw [← Hostname.normalizeAll_ne_nil_iff includedNormal,
    ← Hostname.normalizeAll_ne_nil_iff excludedNormal]
  simp only [Trigger.isRestricted, Bool.or_eq_false_iff, Option.isSome_eq_false_iff,
    Option.isNone_iff_eq_none] at bare
  by_cases noneIncluded : scope.included = [] <;> by_cases noneExcluded : scope.excluded = [] <;>
    simp [narrow, Trigger.isRestricted, noneIncluded, noneExcluded, bare]

end DomainScope

end Blocklist
