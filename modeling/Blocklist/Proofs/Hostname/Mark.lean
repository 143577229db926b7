/-
This file shows that some marks stay in a name when its normal form is made: no pass over the name
drops them or joins them with another character. Such a mark is no character of a hostname, so that
a name with one has no normal form that is valid.
-/

import Blocklist.Proofs.Hostname.Labels
import Mathlib.Data.List.TakeWhile

namespace Blocklist.Hostname

open Text

namespace Composition

/-- A composition begins with a letter or with a sign of relation, if it begins in ASCII. -/
theorem compositions_first {entry : Nat} (present : entry ∈ compositions.flatten) :
    let first := entry % CodeTable.pairSize / CodeTable.fieldSize
    '%'.toNat < first ∧ first < '|'.toNat ∨ 127 < first := by
  have every : (compositions.all fun block => block.all fun entry =>
      let first := entry % CodeTable.pairSize / CodeTable.fieldSize
      ('%'.toNat < first && first < '|'.toNat) || 127 < first) = true := by decide +kernel
  obtain ⟨block, inTable, inBlock⟩ := List.mem_flatten.mp present
  simpa using List.all_eq_true.mp (List.all_eq_true.mp every block inTable) entry inBlock

end Composition

/-- An ASCII character that stays as it is in all passes over a name. It separates no labels, it
belongs to no code, and it begins no composition. -/
structure IsLasting (c : Char) : Prop where
  ascii : c.toNat < 128
  notUpper : c.isUpper = false
  small : c.toLower = c
  notBlank : isBlank c = false
  noPoint : c ≠ '.'
  noHyphen : c ≠ '-'
  unmarked : c ∉ labelMark
  noDigit : Punycode.digitValue? c = none
  uncomposed : c.toNat < '%'.toNat ∨ '|'.toNat ≤ c.toNat ∧ c.toNat < 127

/-- The marks of options, of domains and of their exclusion. -/
def optionMarks : Text := ['$', '|', '~']

theorem isLasting_of_mem {mark : Char} (isMark : mark ∈ optionMarks) : IsLasting mark := by
  rcases List.mem_cons.mp isMark with rfl | isMark
  · constructor <;> decide
  rcases List.mem_cons.mp isMark with rfl | isMark
  · constructor <;> decide
  rw [List.mem_singleton.mp isMark]
  constructor <;> decide

section Lasting

variable {c : Char}

/-- The first characters of a class are dropped, but not the others. -/
theorem mem_dropWhile {inClass : Char → Bool} {text : Text} (outside : inClass c = false)
    (member : c ∈ text) : c ∈ text.dropWhile inClass := by
  rw [← List.takeWhile_append_dropWhile (p := inClass) (l := text), List.mem_append] at member
  rcases member with taken | dropped
  · have inside := List.mem_takeWhile_imp taken
    rw [outside] at inside
    cases inside
  · exact dropped

theorem IsLasting.mem_trim {text : Text} (lasting : IsLasting c) (member : c ∈ text) :
    c ∈ trim text := by
  have front : c ∈ text.dropWhile isBlank := mem_dropWhile lasting.notBlank member
  have back := mem_dropWhile lasting.notBlank (List.mem_reverse.mpr front)
  exact List.mem_reverse.mpr back

theorem IsLasting.mem_lowerFrom {text : Text} (lasting : IsLasting c) (reversedBefore : Text)
    (member : c ∈ text) : c ∈ LetterCase.lowerFrom reversedBefore text := by
  induction text generalizing reversedBefore with
  | nil => cases member
  | cons first rest inductionHypothesis =>
      rw [LetterCase.lowerFrom, List.mem_append]
      rcases List.mem_cons.mp member with rfl | later
      · left
        have noSigma : c ≠ LetterCase.capitalSigma := by
          rintro rfl
          exact absurd lasting.ascii (by decide)
        rw [if_neg noSigma, LetterCase.smallLettersOfAscii lasting.ascii, lasting.small]
        exact List.mem_singleton_self c
      · exact .inr (inductionHypothesis (first :: reversedBefore) later)

theorem IsLasting.mem_mapText? {text mapped : Text} (lasting : IsLasting c) (member : c ∈ text)
    (found : Mapping.mapText? text = some mapped) : c ∈ mapped := by
  obtain ⟨images, mappedAll, rfl⟩ := Option.map_eq_some_iff.mp found
  obtain ⟨image, present, same⟩ :=
    exists_image_of_forall₂ (forall₂_of_mapM_eq_some mappedAll) member
  have allowed : Mapping.isAllowed c = true := by
    rw [Mapping.isAllowed, if_pos lasting.ascii, lasting.notUpper]
    rfl
  have itself : Mapping.image? c = some [c] := by
    rw [Mapping.image?]
    exact if_pos allowed
  obtain rfl := Option.some.inj (same.symm.trans itself)
  exact List.mem_flatten.mpr ⟨[c], present, List.mem_singleton_self c⟩

section Composition

open Blocklist.Hostname.Composition

theorem IsLasting.mem_decompose {text : Text} (lasting : IsLasting c) (member : c ∈ text) :
    c ∈ decompose text := by
  have small : c.toNat < 0xC0 := Nat.lt_trans lasting.ascii (by decide)
  refine List.mem_flatMap.mpr ⟨c, member, ?_⟩
  rw [if_pos small]
  exact List.mem_singleton_self c

theorem mem_insertMark {mark : Char} {text : Text} :
    c ∈ insertMark mark text ↔ c = mark ∨ c ∈ text := by
  induction text with
  | nil => simp [insertMark]
  | cons next rest inductionHypothesis =>
      rw [insertMark]
      split
      case isTrue =>
        rw [List.mem_cons, inductionHypothesis, List.mem_cons, or_left_comm]
      case isFalse => rw [List.mem_cons]

theorem mem_arrange {text : Text} : c ∈ arrange text ↔ c ∈ text := by
  induction text with
  | nil => rfl
  | cons mark text inductionHypothesis =>
      rw [arrange, List.foldr_cons, mem_insertMark, List.mem_cons]
      exact or_congr_right inductionHypothesis

/-- No character is composed with a lasting one in front. -/
theorem IsLasting.codeOf?_eq_none (lasting : IsLasting c) (second : Char) :
    compositions.codeOf? c.toNat second.toNat = none := by
  have bound : second.toNat < 0x110000 := by
    rcases second.valid with below | ⟨-, below⟩
    · exact Nat.lt_trans below (by decide)
    · exact below
  have uncomposed := lasting.uncomposed
  rw [CodeTable.codeOf?]
  refine List.findSome?_eq_none_iff.mpr fun block inTable => ?_
  rw [Option.map_eq_none_iff]
  refine List.find?_eq_none.mpr fun entry inBlock same => ?_
  have first := compositions_first (List.mem_flatten.mpr ⟨block, inTable, inBlock⟩)
  dsimp only at first
  rw [beq_iff_eq.mp same, CodeTable.fieldSize] at first
  -- The second code point may be larger than a field, but it reaches one step into the next.
  have percent : '%'.toNat = 37 := rfl
  have bar : '|'.toNat = 124 := rfl
  omega

theorem IsLasting.composePair?_eq_none (lasting : IsLasting c) (second : Char) :
    composePair? c second = none := by
  have noSyllable : composeSyllable? c.toNat second.toNat = none := by
    have ascii := lasting.ascii
    rw [composeSyllable?, if_neg (by omega), if_neg (by omega)]
  rw [composePair?, noSyllable, lasting.codeOf?_eq_none second]
  exact ite_self none

theorem IsLasting.composePair?_behind (lasting : IsLasting c) (first : Char) :
    composePair? first c = none :=
  if_pos (Nat.lt_trans lasting.ascii (by decide))

/-- What is composed has all lasting characters of its parts. -/
theorem IsLasting.mem_composeFrom (lasting : IsLasting c) {starter : Char} {marks text : Text}
    {lastClass : Nat} (member : c = starter ∨ c ∈ marks ∨ c ∈ text) :
    c ∈ composeFrom starter marks lastClass text := by
  induction text generalizing starter marks lastClass with
  | nil =>
      rw [composeFrom, List.mem_cons]
      simpa using member
  | cons next rest inductionHypothesis =>
      rw [composeFrom]
      split
      case h_1 joined composed =>
        -- Neither of two characters that join is lasting.
        have joins : composePair? starter next = some joined := by
          split at composed
          · exact composed
          · cases composed
        apply inductionHypothesis
        rcases member with rfl | inMarks | inText
        · rw [lasting.composePair?_eq_none] at joins
          cases joins
        · exact .inr (.inl inMarks)
        · rcases List.mem_cons.mp inText with rfl | later
          · rw [lasting.composePair?_behind] at joins
            cases joins
          · exact .inr (.inr later)
      case h_2 =>
        split
        case isTrue =>
          rw [List.mem_cons, List.mem_append]
          rcases member with same | inMarks | inText
          · exact .inl same
          · exact .inr (.inl inMarks)
          · refine .inr (.inr (inductionHypothesis ?_))
            rcases List.mem_cons.mp inText with same | later
            · exact .inl same
            · exact .inr (.inr later)
        case isFalse =>
          apply inductionHypothesis
          rcases member with same | inMarks | inText
          · exact .inl same
          · exact .inr (.inl (List.mem_append_left _ inMarks))
          · rcases List.mem_cons.mp inText with rfl | later
            · exact .inr (.inl (by simp))
            · exact .inr (.inr later)

theorem IsLasting.mem_compose {text : Text} (lasting : IsLasting c) (member : c ∈ text) :
    c ∈ compose text := by
  induction text with
  | nil => cases member
  | cons first rest inductionHypothesis =>
      rw [compose]
      split
      case isTrue =>
        apply lasting.mem_composeFrom
        rcases List.mem_cons.mp member with same | later
        · exact .inl same
        · exact .inr (.inr later)
      case isFalse =>
        rcases List.mem_cons.mp member with rfl | later
        · exact List.mem_cons_self
        · exact List.mem_cons_of_mem first (inductionHypothesis later)

theorem IsLasting.mem_normalForm {text : Text} (lasting : IsLasting c) (member : c ∈ text) :
    c ∈ normalForm text :=
  lasting.mem_compose (mem_arrange.mpr (lasting.mem_decompose member))

end Composition

section Punycode

open Blocklist.Hostname.Punycode

theorem IsLasting.mem_decode? {text decoded : Text} (lasting : IsLasting c)
    (found : decode? text = some decoded) (member : c ∈ text) : c ∈ decoded := by
  obtain ⟨basic, digits, whole, read⟩ := exists_digits_of_decode? found
  have notDigit : c ∉ digits := not_mem_of_decodeDistances? lasting.noDigit read
  rcases whole with ⟨-, rfl⟩ | rfl
  · exact absurd member notDigit
  · rw [List.mem_append, List.mem_cons] at member
    rcases member with inBasic | same | inDigits
    · exact mem_decodeDistances? read inBasic
    · exact absurd same lasting.noHyphen
    · exact absurd inDigits notDigit

end Punycode

theorem IsLasting.mem_readLabel? {text label : Text} (lasting : IsLasting c)
    (read : readLabel? text = some label) (member : c ∈ text) : c ∈ label := by
  unfold readLabel? at read
  split at read
  case h_1 encoded marked =>
    obtain rfl := after?_eq_some_iff.mp marked
    have inEncoded : c ∈ encoded := (List.mem_append.mp member).resolve_left lasting.unmarked
    obtain ⟨decoded, found, checked⟩ := Option.bind_eq_some_iff.mp read
    split at checked
    case isTrue =>
      obtain rfl := Option.some.inj checked
      exact lasting.mem_decode? found inEncoded
    case isFalse => cases checked
  case h_2 =>
    split at read
    case isTrue => exact Option.some.inj read ▸ member
    case isFalse => cases read

theorem IsLasting.mem_toAscii? {name written : Text} (lasting : IsLasting c)
    (result : toAscii? name = some written) (member : c ∈ name) : c ∈ written := by
  obtain ⟨mapped, labels, parts, mappedLabels, read, -, wrote, rfl⟩ :=
    toAscii?_eq_some_iff.mp result
  obtain ⟨mappedText, found, rfl⟩ := Option.map_eq_some_iff.mp mappedLabels
  have inMapped := lasting.mem_normalForm (lasting.mem_mapText? member found)
  obtain ⟨field, fieldPresent, inField⟩ := exists_field_of_mem lasting.noPoint inMapped
  obtain ⟨label, labelPresent, readLabel⟩ :=
    exists_image_of_forall₂ (forall₂_of_mapM_eq_some read) fieldPresent
  obtain ⟨part, partPresent, wrotePart⟩ :=
    exists_image_of_forall₂ (forall₂_of_mapM_eq_some wrote) labelPresent
  have inLabel := lasting.mem_readLabel? readLabel inField
  exact mem_intercalate_of_mem partPresent (mem_writeLabel? lasting.ascii wrotePart inLabel)

/-- A lasting character of a name is in its normal form. -/
theorem IsLasting.mem_normalize? {name normal : Text} (lasting : IsLasting c)
    (found : normalize? name = some normal) (member : c ∈ name) : c ∈ normal := by
  have lowered : c ∈ (trim name).lowercase :=
    lasting.mem_lowerFrom [] (lasting.mem_trim member)
  unfold normalize? at found
  dsimp only at found
  split at found
  case isTrue => exact Option.some.inj found ▸ lowered
  case isFalse => exact lasting.mem_toAscii? found lowered

end Lasting

/-- A name with one of the marks has no valid normal form. -/
theorem not_mem_of_isValid {mark : Char} {name normal : Text} (isMark : mark ∈ optionMarks)
    (found : normalize? name = some normal) (valid : isValid normal = true) : mark ∉ name := by
  intro member
  have inNormal := (isLasting_of_mem isMark).mem_normalize? found member
  rw [isValid, Bool.and_eq_true] at valid
  have isChar := List.all_eq_true.mp valid.2 mark inNormal
  have noChar : (optionMarks.all fun mark => !isValidChar mark) = true := by decide
  have contrary := List.all_eq_true.mp noChar mark isMark
  rw [isChar] at contrary
  cases contrary

end Blocklist.Hostname
