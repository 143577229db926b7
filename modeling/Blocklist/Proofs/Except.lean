/-
This file says when a computation that can fail succeeds and when it fails, in terms of its steps.
-/

namespace Blocklist

theorem ok_bind {E A B : Type} (value : A) (next : A → Except E B) :
    (Except.ok value >>= next) = next value := rfl

theorem bind_eq_ok {E A B : Type} {first : Except E A} {next : A → Except E B} {result : B} :
    (first >>= next) = .ok result ↔ ∃ value, first = .ok value ∧ next value = .ok result := by
  cases first <;> simp [bind, Except.bind]

theorem mapError_eq_ok {E F A : Type} {first : Except E A} {wrap : E → F} {value : A} :
    first.mapError wrap = .ok value ↔ first = .ok value := by
  cases first with
  | error cause => constructor <;> intro impossible <;> cases impossible
  | ok found =>
      constructor <;> intro same
      · exact congrArg Except.ok (Except.ok.inj same)
      · exact congrArg Except.ok (Except.ok.inj same)

theorem mapError_bind {E F A B : Type} (first : Except E A) (next : A → Except E B) (wrap : E → F) :
    (first >>= next).mapError wrap =
      first.mapError wrap >>= fun value => (next value).mapError wrap := by
  cases first <;> rfl

theorem mapError_map {E F A B : Type} (first : Except E A) (image : A → B) (wrap : E → F) :
    (first.map image).mapError wrap = (first.mapError wrap).map image := by
  cases first <;> rfl

theorem map_eq_ok {E A B : Type} {first : Except E A} {image : A → B} {result : B} :
    first.map image = .ok result ↔ ∃ value, first = .ok value ∧ image value = result := by
  cases first <;> simp [Except.map]

theorem bind_eq_error {E A B : Type} {first : Except E A} {next : A → Except E B} {cause : E} :
    (first >>= next) = .error cause ↔
      first = .error cause ∨ ∃ value, first = .ok value ∧ next value = .error cause := by
  cases first <;> simp [bind, Except.bind]

theorem mapError_eq_error {E F A : Type} {first : Except E A} {wrap : E → F} {cause : F} :
    first.mapError wrap = .error cause ↔ ∃ fault, first = .error fault ∧ wrap fault = cause := by
  cases first with
  | error fault =>
      constructor
      · intro failed
        exact ⟨fault, rfl, Except.error.inj failed⟩
      · rintro ⟨_, same, rfl⟩
        exact congrArg (fun fault => Except.error (wrap fault)) (Except.error.inj same)
  | ok value =>
      constructor
      · intro impossible
        cases impossible
      · rintro ⟨_, impossible, -⟩
        cases impossible

theorem map_eq_error {E A B : Type} {first : Except E A} {image : A → B} {cause : E} :
    first.map image = .error cause ↔ first = .error cause := by
  cases first <;> simp [Except.map]

end Blocklist
