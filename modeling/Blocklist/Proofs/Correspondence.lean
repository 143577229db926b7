/-
This file says what two lists share whose entries correspond, and that the results of a list of
computations correspond to these, in whatever order they are made.
-/

import Blocklist.Proofs.Except
import Mathlib.Data.List.Forall2
import Mathlib.Data.List.Perm.Basic

namespace Blocklist

/-- Two lists whose entries correspond contribute the same entries to a third one. -/
theorem filterMap_eq_of_forall₂ {A B C : Type} {relation : A → B → Prop} {first : A → Option C}
    {second : B → Option C} {items : List A} {images : List B}
    (related : List.Forall₂ relation items images)
    (agree : ∀ item image, relation item image → first item = second image) :
    items.filterMap first = images.filterMap second := by
  induction related with
  | nil => rfl
  | cons pair _ inductionHypothesis =>
      rw [List.filterMap_cons, List.filterMap_cons, agree _ _ pair, inductionHypothesis]

theorem exists_image_of_forall₂ {A B : Type} {relation : A → B → Prop} {items : List A}
    {images : List B} (related : List.Forall₂ relation items images) {item : A}
    (member : item ∈ items) : ∃ image ∈ images, relation item image := by
  induction related with
  | nil => cases member
  | @cons head image _ _ pair _ inductionHypothesis =>
      rcases List.mem_cons.mp member with rfl | later
      · exact ⟨image, List.mem_cons_self, pair⟩
      · obtain ⟨found, present, holds⟩ := inductionHypothesis later
        exact ⟨found, List.mem_cons_of_mem image present, holds⟩

/-- Two lists whose entries correspond have entries of a kind together. -/
theorem exists_iff_of_forall₂ {A B : Type} {relation : A → B → Prop} {items : List A}
    {images : List B} (related : List.Forall₂ relation items images) {kind : A → Prop}
    {imageKind : B → Prop} (agree : ∀ item image, relation item image →
      (kind item ↔ imageKind image)) :
    (∃ item ∈ items, kind item) ↔ ∃ image ∈ images, imageKind image := by
  induction related with
  | nil => simp
  | cons pair _ inductionHypothesis =>
      rw [List.exists_mem_cons_iff, List.exists_mem_cons_iff, agree _ _ pair, inductionHypothesis]

/-- A list of computations succeeds when each of them does. -/
theorem forall₂_of_mapM_eq_ok {E A B : Type} {step : A → Except E B} {items : List A}
    {results : List B} (succeeded : items.mapM step = .ok results) :
    List.Forall₂ (fun item result => step item = .ok result) items results := by
  induction items generalizing results with
  | nil =>
      rw [List.mapM_nil] at succeeded
      obtain rfl := Except.ok.inj succeeded
      exact .nil
  | cons item items inductionHypothesis =>
      rw [List.mapM_cons] at succeeded
      obtain ⟨first, stepped, rest⟩ := bind_eq_ok.mp succeeded
      obtain ⟨others, steppedToo, built⟩ := bind_eq_ok.mp rest
      obtain rfl := Except.ok.inj built
      exact .cons stepped (inductionHypothesis steppedToo)

theorem mapM_eq_ok_of_forall₂ {E A B : Type} {step : A → Except E B} {items : List A}
    {results : List B}
    (related : List.Forall₂ (fun item result => step item = .ok result) items results) :
    items.mapM step = .ok results := by
  induction related with
  | nil => rfl
  | cons stepped _ inductionHypothesis =>
      rw [List.mapM_cons]
      exact bind_eq_ok.mpr ⟨_, stepped, bind_eq_ok.mpr ⟨_, inductionHypothesis, rfl⟩⟩

/-- A list of computations that may fail gives the results of each. -/
theorem mapM_cons_eq_some_iff {A B : Type} {step : A → Option B} {item : A} {items : List A}
    {results : List B} :
    (item :: items).mapM step = some results ↔
      ∃ first others, step item = some first ∧ items.mapM step = some others ∧
        first :: others = results := by
  rw [List.mapM_cons]
  constructor
  · intro succeeded
    obtain ⟨first, stepped, rest⟩ := Option.bind_eq_some_iff.mp succeeded
    obtain ⟨others, steppedToo, built⟩ := Option.bind_eq_some_iff.mp rest
    exact ⟨first, others, stepped, steppedToo, Option.some.inj built⟩
  · rintro ⟨first, others, stepped, steppedToo, rfl⟩
    rw [stepped, steppedToo]
    rfl

theorem forall₂_of_mapM_eq_some {A B : Type} {step : A → Option B} {items : List A}
    {results : List B} (succeeded : items.mapM step = some results) :
    List.Forall₂ (fun item result => step item = some result) items results := by
  induction items generalizing results with
  | nil =>
      obtain rfl : [] = results := by simpa using succeeded
      exact .nil
  | cons item items inductionHypothesis =>
      obtain ⟨first, others, stepped, steppedToo, rfl⟩ := mapM_cons_eq_some_iff.mp succeeded
      exact .cons stepped (inductionHypothesis steppedToo)

/-- The last of a list of computations gives the last result. -/
theorem mapM_concat_eq_some_iff {A B : Type} {step : A → Option B} {items : List A} {item : A}
    {results : List B} :
    (items ++ [item]).mapM step = some results ↔
      ∃ others last, items.mapM step = some others ∧ step item = some last ∧
        others ++ [last] = results := by
  induction items generalizing results with
  | nil =>
      rw [List.nil_append]
      simp [mapM_cons_eq_some_iff, -List.mapM_cons]
  | cons first items inductionHypothesis =>
      simp only [List.cons_append, mapM_cons_eq_some_iff, inductionHypothesis]
      constructor
      · rintro ⟨result, _, stepped, ⟨others, last, steppedOthers, steppedLast, rfl⟩, rfl⟩
        exact ⟨_, last, ⟨result, others, stepped, steppedOthers, rfl⟩, steppedLast, rfl⟩
      · rintro ⟨_, last, ⟨result, others, stepped, steppedOthers, rfl⟩, steppedLast, rfl⟩
        exact ⟨result, _, stepped, ⟨others, last, steppedOthers, steppedLast, rfl⟩, rfl⟩

/-- Computations in another order give the results in another order. -/
theorem exists_perm_of_mapM_eq_ok {E A B : Type} {step : A → Except E B} {items others : List A}
    {results : List B} (reordered : items.Perm others)
    (succeeded : items.mapM step = .ok results) :
    ∃ otherResults, others.mapM step = .ok otherResults ∧ results.Perm otherResults := by
  obtain ⟨otherResults, related, perm⟩ :=
    List.perm_comp_forall₂ reordered.symm (forall₂_of_mapM_eq_ok succeeded)
  exact ⟨otherResults, mapM_eq_ok_of_forall₂ related, perm.symm⟩

end Blocklist
