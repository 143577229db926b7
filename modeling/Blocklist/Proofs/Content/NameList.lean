/-
This file holds lists of distinct names, and how a name joins such a list.
-/

import Blocklist.Text
import Mathlib.Data.List.Nodup

namespace Blocklist

/-- The names differ from each other, and all of them are of the given form. -/
structure NameList (isName : Text → Prop) (names : List Text) : Prop where
  distinct : names.Nodup
  named : ∀ name ∈ names, isName name

/-- A name that is there already does not join again. -/
def joinName (names : List Text) (name : Text) : List Text :=
  if names.contains name then names else names ++ [name]

theorem mem_joinName {names : List Text} {name other : Text} :
    other ∈ joinName names name ↔ other ∈ names ∨ other = name := by
  unfold joinName
  split
  case isTrue present =>
    have member : name ∈ names := List.contains_iff_mem.mp present
    constructor
    · exact Or.inl
    · rintro (old | rfl)
      · exact old
      · exact member
  case isFalse => simp

theorem joinName_ne_nil (names : List Text) (name : Text) : joinName names name ≠ [] :=
  List.ne_nil_of_mem (mem_joinName.mpr (Or.inr rfl))

/-- The names that join a list are the first occurrences of those that are not there. -/
theorem foldl_joinName (names others : List Text) :
    others.foldl joinName names =
      names ++ (others.filter fun other => !names.contains other).eraseDups := by
  induction others generalizing names with
  | nil => simp
  | cons other others inductionHypothesis =>
      rw [List.foldl_cons, inductionHypothesis, joinName]
      split
      case isTrue present =>
        rw [List.filter_cons_of_neg (by simpa using present)]
      case isFalse absent =>
        rw [List.filter_cons_of_pos (by simpa using absent), List.eraseDups_cons,
          List.filter_filter, List.append_assoc, List.singleton_append]
        congr 3
        apply List.filter_congr
        intro later _
        rw [List.contains_append, Bool.not_or, Bool.and_comm, List.contains_cons,
          List.contains_nil, Bool.or_false]

namespace NameList

theorem nil (isName : Text → Prop) : NameList isName [] := ⟨List.nodup_nil, by simp⟩

theorem single {isName : Text → Prop} {name : Text} (fits : isName name) :
    NameList isName [name] :=
  ⟨List.nodup_singleton name, by simpa using fits⟩

theorem join {isName : Text → Prop} {names : List Text} {name : Text}
    (list : NameList isName names) (fits : isName name) :
    NameList isName (joinName names name) := by
  constructor
  · unfold joinName
    split
    case isTrue => exact list.distinct
    case isFalse absent =>
      have fresh : name ∉ names := fun member => absent (List.contains_iff_mem.mpr member)
      refine List.nodup_append.mpr ⟨list.distinct, List.nodup_singleton name, ?_⟩
      intro first firstMember second secondMember same
      rw [List.mem_singleton.mp secondMember] at same
      exact fresh (same ▸ firstMember)
  · intro other member
    rcases mem_joinName.mp member with old | rfl
    · exact list.named other old
    · exact fits

/-- An injective image of the names keeps them distinct. -/
theorem map {isName isImage : Text → Prop} {names : List Text} {image : Text → Text}
    (list : NameList isName names) (injective : Function.Injective image)
    (fits : ∀ name, isName name → isImage (image name)) :
    NameList isImage (names.map image) := by
  constructor
  · exact list.distinct.map injective
  · intro entry member
    obtain ⟨name, present, rfl⟩ := List.mem_map.mp member
    exact fits name (list.named name present)

end NameList

end Blocklist
