/-
This file says what the normal form of a hostname is made of: the labels of the name in Unicode,
each of which is written in ASCII by itself. From them it tells which names have a normal form that
is no name, since it is empty or begins with a star.
-/

import Blocklist.Hostname
import Blocklist.Proofs.Correspondence
import Blocklist.Proofs.Hostname.Punycode
import Blocklist.Proofs.Text.Fields

namespace Blocklist.Hostname

open Text

/-- The labels of a name after its characters are mapped and composed. -/
def mappedLabels? (name : Text) : Option (List Text) :=
  (Mapping.mapText? name).map fun mapped => fields '.' (Composition.normalForm mapped)

theorem mappedLabels?_ne_nil {name : Text} {mapped : List Text}
    (found : mappedLabels? name = some mapped) : mapped ≠ [] := by
  obtain ⟨mappedText, -, rfl⟩ := Option.map_eq_some_iff.mp found
  exact fields_ne_nil '.' _

/-- A label from right to left asks all labels to obey the rules of direction. -/
def KeepsDirections (labels : List Text) : Prop :=
  labels.any Direction.turns = true → labels.all Direction.obeys = true

theorem toAscii?_eq_some_iff {name normal : Text} :
    toAscii? name = some normal ↔ ∃ mapped labels parts, mappedLabels? name = some mapped ∧
      mapped.mapM readLabel? = some labels ∧ KeepsDirections labels ∧
      labels.mapM writeLabel? = some parts ∧ ['.'].intercalate parts = normal := by
  constructor
  · intro result
    obtain ⟨mappedText, found, afterMapping⟩ := Option.bind_eq_some_iff.mp result
    obtain ⟨labels, read, checked⟩ := Option.bind_eq_some_iff.mp afterMapping
    have mappedLabels := congrArg
      (Option.map fun mapped => fields '.' (Composition.normalForm mapped)) found
    split at checked
    case isTrue => cases checked
    case isFalse keeps =>
      obtain ⟨parts, wrote, joined⟩ := Option.bind_eq_some_iff.mp checked
      exact ⟨_, labels, parts, mappedLabels, read, by simpa [KeepsDirections] using keeps, wrote,
        Option.some.inj joined⟩
  · rintro ⟨mapped, labels, parts, mappedLabels, read, keeps, wrote, rfl⟩
    obtain ⟨mappedText, found, rfl⟩ := Option.map_eq_some_iff.mp mappedLabels
    apply Option.bind_eq_some_iff.mpr
    refine ⟨mappedText, found, Option.bind_eq_some_iff.mpr ⟨labels, read, ?_⟩⟩
    rw [if_neg (by simpa [KeepsDirections] using keeps), wrote]
    rfl

/-- The labels of a name in Unicode; a name in ASCII is not read any further. -/
def labels? (name : Text) : Option (List Text) :=
  let lowered := (trim name).lowercase
  if lowered.isAscii then some (fields '.' lowered)
  else (mappedLabels? lowered).bind fun mapped => mapped.mapM readLabel?

theorem writeLabel?_of_ascii {label : Text} (ascii : label.isAscii = true) :
    writeLabel? label = some label :=
  if_pos ascii

theorem mem_writeLabel? {c : Char} {label written : Text} (ascii : c.toNat < 128)
    (wrote : writeLabel? label = some written) (member : c ∈ label) : c ∈ written := by
  unfold writeLabel? at wrote
  split at wrote
  case isTrue => exact Option.some.inj wrote ▸ member
  case isFalse =>
    obtain ⟨encoded, found, rfl⟩ := Option.map_eq_some_iff.mp wrote
    exact List.mem_append_right _ (Punycode.mem_encode? ascii found member)

theorem mapM_writeLabel?_of_ascii {labels : List Text}
    (ascii : ∀ label ∈ labels, label.isAscii = true) : labels.mapM writeLabel? = some labels := by
  induction labels with
  | nil => rfl
  | cons label labels inductionHypothesis =>
      have later := inductionHypothesis fun other member =>
        ascii other (List.mem_cons_of_mem label member)
      exact mapM_cons_eq_some_iff.mpr
        ⟨label, labels, writeLabel?_of_ascii (ascii label List.mem_cons_self), later, rfl⟩

theorem isAscii_of_mem_fields {separator : Char} {text field : Text}
    (ascii : text.isAscii = true) (member : field ∈ fields separator text) :
    field.isAscii = true := by
  apply List.all_eq_true.mpr
  intro c inField
  have inText : c ∈ [separator].intercalate (fields separator text) :=
    mem_intercalate_of_mem member inField
  rw [intercalate_fields] at inText
  exact List.all_eq_true.mp ascii c inText

/-- The normal form of a name consists of its labels, written in ASCII. -/
theorem exists_labels_of_normalize? {name normal : Text} (found : normalize? name = some normal) :
    ∃ labels parts, labels? name = some labels ∧ labels.mapM writeLabel? = some parts ∧
      ['.'].intercalate parts = normal := by
  unfold normalize? at found
  unfold labels?
  dsimp only at found ⊢
  split at found
  case isTrue ascii =>
    obtain rfl := Option.some.inj found
    refine ⟨_, _, if_pos ascii, ?_, intercalate_fields '.' _⟩
    apply mapM_writeLabel?_of_ascii
    intro label member
    exact isAscii_of_mem_fields ascii member
  case isFalse beyond =>
    obtain ⟨mapped, labels, parts, mappedLabels, read, -, wrote, joined⟩ :=
      toAscii?_eq_some_iff.mp found
    refine ⟨labels, parts, ?_, wrote, joined⟩
    rw [if_neg beyond, mappedLabels]
    exact read

/-- The text is that of a domain, without a star in front. -/
def IsDomain (text : Text) : Prop := text ≠ [] ∧ text.startsWith ['*'] = false

/-- Nothing is left of the name, or a star is in front that the ASCII form keeps. -/
def isHollow (name : Text) : Bool :=
  match labels? name with
  | some [[]] => true
  | some (('*' :: label) :: _) => Text.isAscii label
  | _ => false

theorem labels?_ne_nil {name : Text} {labels : List Text} (found : labels? name = some labels) :
    labels ≠ [] := by
  unfold labels? at found
  dsimp only at found
  split at found
  case isTrue =>
    obtain rfl := Option.some.inj found
    exact fields_ne_nil '.' _
  case isFalse =>
    obtain ⟨mapped, mappedLabels, read⟩ := Option.bind_eq_some_iff.mp found
    obtain ⟨first, others, rfl⟩ := List.exists_cons_of_ne_nil (mappedLabels?_ne_nil mappedLabels)
    rintro rfl
    obtain ⟨label, labels, -, -, joined⟩ := mapM_cons_eq_some_iff.mp read
    cases joined

/-- The ASCII form of a label that is not empty begins with a star exactly when the label does and
stays as it is. -/
theorem exists_first_of_writeLabel? {c : Char} {label written : Text}
    (wrote : writeLabel? (c :: label) = some written) :
    ∃ first rest, written = first :: rest ∧
      (first = '*' ↔ c = '*' ∧ Text.isAscii label = true) := by
  unfold writeLabel? at wrote
  split at wrote
  case isTrue ascii =>
    obtain rfl := Option.some.inj wrote
    have ends : Text.isAscii label = true := by
      rw [Text.isAscii, List.all_cons, Bool.and_eq_true] at ascii
      exact ascii.2
    exact ⟨c, label, rfl, by simp [ends]⟩
  case isFalse beyond =>
    obtain ⟨encoded, -, rfl⟩ := Option.map_eq_some_iff.mp wrote
    refine ⟨'x', "n--".toList ++ encoded, rfl, ?_⟩
    have notBoth : ¬(c = '*' ∧ Text.isAscii label = true) := by
      rintro ⟨rfl, ascii⟩
      apply beyond
      rw [Text.isAscii, List.all_cons]
      exact ascii
    simp [notBoth]

theorem isDomain_cons {c : Char} {rest : Text} : IsDomain (c :: rest) ↔ c ≠ '*' := by
  simp [IsDomain, startsWith, List.isPrefixOf, ne_comm]

/-- A normal form is that of a domain exactly when the name is not hollow. -/
theorem isDomain_normalize? {name normal : Text} (found : normalize? name = some normal) :
    IsDomain normal ↔ isHollow name = false := by
  obtain ⟨labels, parts, read, wrote, rfl⟩ := exists_labels_of_normalize? found
  rw [isHollow, read]
  cases labels with
  | nil => exact absurd rfl (labels?_ne_nil read)
  | cons label labels =>
      obtain ⟨part, others, wroteFirst, wroteOthers, rfl⟩ := mapM_cons_eq_some_iff.mp wrote
      cases label with
      | nil =>
          obtain rfl : [] = part := Option.some.inj wroteFirst
          cases labels with
          | nil =>
              obtain rfl : [] = others := by simpa using wroteOthers
              simp [IsDomain]
          | cons next labels =>
              obtain ⟨second, others, -, -, rfl⟩ := mapM_cons_eq_some_iff.mp wroteOthers
              rw [List.intercalate_cons_cons, List.nil_append, List.cons_append]
              simp [isDomain_cons]
      | cons c label =>
          obtain ⟨first, rest, rfl, starred⟩ := exists_first_of_writeLabel? wroteFirst
          have begins : ∃ behind,
              ['.'].intercalate ((first :: rest) :: others) = first :: behind := by
            cases others with
            | nil => exact ⟨rest, by simp⟩
            | cons next others => exact ⟨_, by rw [List.intercalate_cons_cons]; rfl⟩
          obtain ⟨behind, whole⟩ := begins
          rw [whole, isDomain_cons, ne_eq, starred]
          by_cases star : c = '*'
          · subst star
            simp
          · simp [star]

end Blocklist.Hostname
