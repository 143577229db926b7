/-
This file shows that the normal form of a hostname consists of ASCII characters without capital
letters. Lowering a text leaves no ASCII capital in it, and the labels in ASCII form are written
from characters that are allowed and from the digits of their code.
-/

import Blocklist.Proofs.Hostname.Labels
import Mathlib

namespace Blocklist

/-- The text consists of ASCII characters, and none of them is a capital letter. -/
def Text.isSmallAscii (text : Text) : Bool := text.all fun c => c.toNat < 128 && !c.isUpper

theorem Text.isSmallAscii_iff {text : Text} :
    text.isSmallAscii = true ↔ ∀ c ∈ text, c.toNat < 128 ∧ c.isUpper = false := by
  simp [isSmallAscii]

@[simp] theorem Text.isSmallAscii_append (first second : Text) :
    (first ++ second).isSmallAscii = (first.isSmallAscii && second.isSmallAscii) :=
  List.all_append

theorem isUpper_iff (c : Char) : c.isUpper = true ↔ 65 ≤ c.toNat ∧ c.toNat ≤ 90 := by
  simp [Char.isUpper, UInt32.le_iff_toNat_le]

/-- Code points that are no characters stand for the null character, which is no capital. -/
theorem isUpper_ofNat {code : Nat} (noCapital : code < 65 ∨ 90 < code) :
    (Char.ofNat code).isUpper = false := by
  rw [Bool.eq_false_iff, ne_eq, isUpper_iff, Char.toNat_ofNat]
  split <;> omega

namespace CodeTable

theorem lastBelow?_mem {bound entry : Nat} {found : Option Nat} {entries : List Nat}
    (last : lastBelow? bound found entries = some entry) :
    entry ∈ entries ∨ found = some entry := by
  induction entries generalizing found with
  | nil => exact .inr last
  | cons first entries inductionHypothesis =>
      unfold lastBelow? at last
      split at last
      case isTrue =>
        rcases inductionHypothesis last with later | same
        · exact .inl (List.mem_cons_of_mem first later)
        · exact .inl (Option.some.inj same ▸ List.mem_cons_self)
      case isFalse => exact .inr last

theorem blockBelow_mem (bound : Nat) (found : List Nat) (table : CodeTable) :
    blockBelow bound found table ∈ table ∨ blockBelow bound found table = found := by
  induction table generalizing found with
  | nil => exact .inr rfl
  | cons block table inductionHypothesis =>
      unfold blockBelow
      split
      case isTrue =>
        rcases inductionHypothesis block with later | same
        · exact .inl (List.mem_cons_of_mem block later)
        · rw [same]
          exact .inl List.mem_cons_self
      case isFalse => exact .inr rfl

theorem entryBelow?_mem {table : CodeTable} {bound entry : Nat}
    (found : table.entryBelow? bound = some entry) : entry ∈ table.flatten := by
  have inBlock : entry ∈ blockBelow bound [] table := by
    rcases lastBelow?_mem found with member | none
    · exact member
    · cases none
  rcases blockBelow_mem bound [] table with member | empty
  · exact List.mem_flatten.mpr ⟨_, member, inBlock⟩
  · rw [empty] at inBlock
    cases inBlock

/-- The value of a run is found in the last field of an entry. -/
theorem run?_value {table : CodeTable} {code offset value : Nat}
    (found : table.run? code = some (offset, value)) :
    ∃ entry ∈ table.flatten, value = entry % fieldSize := by
  unfold run? at found
  split at found
  case h_1 entry below =>
    split at found
    case isTrue =>
      obtain ⟨rfl, rfl⟩ := Prod.mk.inj (Option.some.inj found)
      exact ⟨entry, entryBelow?_mem below, rfl⟩
    case isFalse => cases found
  case h_2 => cases found

end CodeTable

namespace LetterCase

/-- The small letters that stand for capitals beyond ASCII are no ASCII capitals. -/
theorem capitalRuns_small {entry : Nat} (present : entry ∈ capitalRuns.flatten) :
    90 < entry % CodeTable.fieldSize := by
  have every : (capitalRuns.flatten.all fun entry => 90 < entry % CodeTable.fieldSize) = true := by
    decide +kernel
  simpa using List.all_eq_true.mp every entry present

theorem smallLetters_small {c letter : Char} (member : letter ∈ smallLetters c) :
    letter.isUpper = false := by
  unfold smallLetters at member
  dsimp only at member
  split at member
  case isTrue =>
    rw [List.mem_singleton.mp member]
    exact Char.isUpper_toLower_eq_false c
  case isFalse beyond =>
    have itself : c.isUpper = false := by
      rw [Bool.eq_false_iff, ne_eq, isUpper_iff]
      omega
    split at member
    case isTrue =>
      rcases List.mem_cons.mp member with rfl | member
      · decide
      · rw [List.mem_singleton.mp member]
        decide
    case isFalse =>
      -- The look-ups are named before the split, since a search through a table must not be run.
      generalize run : capitalRuns.run? c.toNat = found at member
      cases found with
      | some found =>
          obtain ⟨entry, present, value⟩ := CodeTable.run?_value run
          have beyondCapitals := capitalRuns_small present
          rw [List.mem_singleton.mp member]
          exact isUpper_ofNat (by omega)
      | none =>
          generalize capitalPairs.offset? c.toNat = pair at member
          cases pair with
          | none =>
              rw [List.mem_singleton.mp member]
              exact itself
          | some offset =>
              dsimp only at member
              split at member
              · rw [List.mem_singleton.mp member]
                exact isUpper_ofNat (by omega)
              · rw [List.mem_singleton.mp member]
                exact itself

theorem lowerFrom_small {letter : Char} {text : Text} :
    ∀ reversedBefore : Text, letter ∈ lowerFrom reversedBefore text → letter.isUpper = false := by
  induction text with
  | nil =>
      intro reversedBefore member
      cases member
  | cons c rest inductionHypothesis =>
      intro reversedBefore member
      rw [lowerFrom, List.mem_append] at member
      rcases member with now | later
      · split at now
        case isTrue =>
          split at now
          · rw [List.mem_singleton.mp now]
            decide
          · rw [List.mem_singleton.mp now]
            decide
        case isFalse => exact smallLetters_small now
      · exact inductionHypothesis (c :: reversedBefore) later

end LetterCase

theorem Text.lowercase_small {text : Text} {letter : Char} (member : letter ∈ text.lowercase) :
    letter.isUpper = false :=
  LetterCase.lowerFrom_small [] member

namespace Hostname

/-- The ASCII characters of a text are no capital letters. -/
def HasNoCapital (text : Text) : Prop := ∀ c ∈ text, c.toNat < 128 → c.isUpper = false

namespace Punycode

theorem digitChar_small {digit : Nat} (inRange : digit < 36) :
    Text.isSmallAscii [digitChar digit] = true := by
  have every : ∀ value ∈ List.range 36, Text.isSmallAscii [digitChar value] = true := by decide
  exact every digit (List.mem_range.mpr inRange)

theorem extends_small {first text : Text} (small : first.isSmallAscii = true)
    (extending : Extends first text) : text.isSmallAscii = true := by
  obtain ⟨digits, areDigits, rfl⟩ := extending
  have digitsSmall : Text.isSmallAscii digits = true := by
    apply List.all_eq_true.mpr
    intro c member
    obtain ⟨digit, inRange, rfl⟩ := areDigits c member
    simpa [Text.isSmallAscii] using digitChar_small inRange
  rw [Text.isSmallAscii_append, small, digitsSmall]
  rfl

theorem encode?_small {text written : Text} (noCapital : HasNoCapital text)
    (encoded : encode? text = some written) : written.isSmallAscii = true := by
  have basicSmall : Text.isSmallAscii (text.filter isBasic) = true := by
    apply Text.isSmallAscii_iff.mpr
    intro c member
    obtain ⟨present, basic⟩ := List.mem_filter.mp member
    have ascii : c.toNat < 128 := by simpa [isBasic] using basic
    exact ⟨ascii, noCapital c present ascii⟩
  refine extends_small ?_ (extends_encode? encoded)
  rw [basicFront]
  split
  case isTrue => rfl
  case isFalse =>
    rw [Text.isSmallAscii_append, basicSmall]
    rfl

end Punycode

theorem noCapital_of_isAllowed {label : Text} (allowed : label.all Mapping.isAllowed = true) :
    HasNoCapital label := by
  intro c member ascii
  have permitted := List.all_eq_true.mp allowed c member
  rw [Mapping.isAllowed, if_pos ascii] at permitted
  simpa using permitted

theorem noCapital_of_isValidLabel {label : Text} (valid : isValidLabel label = true) :
    HasNoCapital label := by
  cases label with
  | nil =>
      intro c member
      cases member
  | cons first rest =>
      rw [isValidLabel, Bool.and_eq_true] at valid
      exact noCapital_of_isAllowed valid.2

theorem noCapital_of_readLabel? {written label : Text} (read : readLabel? written = some label) :
    HasNoCapital label := by
  unfold readLabel? at read
  split at read
  case h_1 encoded _ =>
    obtain ⟨decoded, -, checked⟩ := Option.bind_eq_some_iff.mp read
    split at checked
    case isTrue both =>
      obtain rfl := Option.some.inj checked
      rw [Bool.and_eq_true] at both
      exact noCapital_of_isValidLabel both.2
    case isFalse => cases checked
  case h_2 =>
    split at read
    case isTrue valid =>
      obtain rfl := Option.some.inj read
      exact noCapital_of_isValidLabel valid
    case isFalse => cases read

theorem writeLabel?_small {label written : Text} (noCapital : HasNoCapital label)
    (result : writeLabel? label = some written) : written.isSmallAscii = true := by
  unfold writeLabel? at result
  split at result
  case isTrue ascii =>
    obtain rfl := Option.some.inj result
    apply Text.isSmallAscii_iff.mpr
    intro c member
    have basic : c.toNat < 128 := by simpa using List.all_eq_true.mp ascii c member
    exact ⟨basic, noCapital c member basic⟩
  case isFalse =>
    obtain ⟨encoded, found, rfl⟩ := Option.map_eq_some_iff.mp result
    rw [Text.isSmallAscii_append, Punycode.encode?_small noCapital found]
    rfl

theorem intercalate_small {labels : List Text}
    (small : ∀ label ∈ labels, label.isSmallAscii = true) :
    Text.isSmallAscii (['.'].intercalate labels) = true := by
  induction labels with
  | nil => rfl
  | cons label labels inductionHypothesis =>
      have head := small label List.mem_cons_self
      have tail := inductionHypothesis fun other member =>
        small other (List.mem_cons_of_mem label member)
      cases labels with
      | nil => rwa [List.intercalate_singleton]
      | cons second labels =>
          rw [List.intercalate_cons_cons, Text.isSmallAscii_append, Text.isSmallAscii_append,
            head, tail]
          rfl

theorem toAscii?_small {name written : Text} (result : toAscii? name = some written) :
    written.isSmallAscii = true := by
  obtain ⟨mapped, labels, parts, -, read, -, wrote, rfl⟩ := toAscii?_eq_some_iff.mp result
  apply intercalate_small
  intro part member
  obtain ⟨label, present, wrotePart⟩ :=
    exists_image_of_forall₂ (forall₂_of_mapM_eq_some wrote).flip member
  obtain ⟨field, -, readField⟩ :=
    exists_image_of_forall₂ (forall₂_of_mapM_eq_some read).flip present
  exact writeLabel?_small (noCapital_of_readLabel? readField) wrotePart

/-- The normal form of a hostname has ASCII characters only, and no capital letter. -/
theorem normalize?_small {name normal : Text} (found : normalize? name = some normal) :
    normal.isSmallAscii = true := by
  unfold normalize? at found
  dsimp only at found
  split at found
  case isTrue ascii =>
    obtain rfl := Option.some.inj found
    apply Text.isSmallAscii_iff.mpr
    intro c member
    exact ⟨by simpa using List.all_eq_true.mp ascii c member, Text.lowercase_small member⟩
  case isFalse => exact toAscii?_small found

end Hostname

end Blocklist
