/-
This file reads a cosmetic rule by slices of its line, and of its selector behind the colons that a
scan of bytes finds, and shows that every slice exists and that the rule is the one that the
characters give. The scan acts on bytes beyond ASCII like on the characters that have them, because
no mark of a selector is among them.
-/

import Mathlib.Data.List.Forall2
import Blocklist.Proofs.Filter.CosmeticLine
import Blocklist.Proofs.Offset.Search

namespace Blocklist

open Text

namespace Selector

/-- A byte is scanned like the character with its code. -/
def startsFrom (scan : Scan) (offset : Nat) : List UInt8 → List Nat
  | [] => []
  | byte :: rest =>
      let c := Char.ofUInt8 byte
      if scan.opensPseudoClass c then (offset + 1) :: startsFrom (scan.step c) (offset + 1) rest
      else startsFrom (scan.step c) (offset + 1) rest

/-- The offsets behind the colons that open a pseudo-class, from left to right. -/
def pseudoClassStarts (selector : Text) : List Nat := startsFrom Scan.start 0 selector.bytes

/-- The string that a scan is in has an ASCII quote. -/
def Scan.IsAscii (scan : Scan) : Prop := ∀ quote ∈ scan.quote, quote.toNat < 128

theorem Scan.isAscii_start : Scan.start.IsAscii := by
  intro quote opened
  cases opened

theorem Scan.isAscii_step {scan : Scan} (ascii : scan.IsAscii) (c : Char) :
    (scan.step c).IsAscii := by
  unfold step
  split
  case isTrue => exact ascii
  split
  case isTrue => exact ascii
  split
  case h_1 =>
    split
    case isTrue => exact fun quote none => nomatch none
    case isFalse => exact ascii
  case h_2 =>
    split
    case isTrue opens =>
      intro quote opened
      obtain rfl := Option.some.inj opened
      rcases opens with rfl | rfl <;> decide
    case isFalse => split <;> [exact ascii; (split <;> exact ascii)]

/-- A character beyond ASCII ends an escape, and changes nothing else. -/
theorem Scan.step_of_big {scan : Scan} (ascii : scan.IsAscii) {c : Char} (big : 128 ≤ c.toNat) :
    scan.step c = { scan with escaped := false } := by
  have noMark (mark : Char) (small : mark.toNat < 128) : c ≠ mark := by
    rintro rfl
    omega
  obtain ⟨escaped, quote, depth⟩ := scan
  cases escaped with
  | true => rfl
  | false =>
      cases quote with
      | none => exact step_plain (by simp [noMark]) (noMark ']' (by decide))
      | some opened => exact step_inside (noMark '\\' (by decide)) (noMark opened (ascii opened rfl))

theorem Scan.opensPseudoClass_of_big (scan : Scan) {c : Char} (big : 128 ≤ c.toNat) :
    scan.opensPseudoClass c = false := by
  refine Bool.eq_false_iff.mpr fun opens => ?_
  obtain rfl := (opensPseudoClass_iff.mp opens).1
  exact absurd big (by decide)

theorem startsFrom_of_big {scan : Scan} (ascii : scan.IsAscii) {bytes : List UInt8}
    (big : ∀ byte ∈ bytes, 128 ≤ byte.toNat) (some : bytes ≠ []) (offset : Nat)
    (rest : List UInt8) : startsFrom scan offset (bytes ++ rest) =
      startsFrom { scan with escaped := false } (offset + bytes.length) rest := by
  induction bytes generalizing scan offset with
  | nil => exact absurd rfl some
  | cons byte bytes inductionHypothesis =>
      rw [List.forall_mem_cons] at big
      have code : 128 ≤ (Char.ofUInt8 byte).toNat := big.1
      rw [List.cons_append, startsFrom, scan.opensPseudoClass_of_big code, if_neg Bool.false_ne_true, Scan.step_of_big ascii code]
      by_cases last : bytes = []
      · subst last
        rfl
      · have asciiToo : Scan.IsAscii { scan with escaped := false } := ascii
        rw [inductionHypothesis asciiToo big.2 last, List.length_cons, Nat.add_assoc, Nat.add_comm 1]

/-- The bytes of a character are scanned like the character. -/
theorem startsFrom_cons {scan : Scan} (ascii : scan.IsAscii) (offset : Nat) (c : Char)
    (rest : List UInt8) : startsFrom scan offset (String.utf8EncodeChar c ++ rest) =
      if scan.opensPseudoClass c then
        (offset + 1) :: startsFrom (scan.step c) (offset + c.utf8Size) rest
      else startsFrom (scan.step c) (offset + c.utf8Size) rest := by
  by_cases small : c.toNat < 128
  · have same : Char.ofUInt8 c.toUInt8 = c := by
      rw [← Char.toNat_inj]
      exact toNat_toUInt8_of_small small
    rw [utf8EncodeChar_of_small small, utf8Size_of_small small, List.singleton_append, startsFrom,
      same]
  · have big := Nat.le_of_not_lt small
    rw [startsFrom_of_big ascii (fun _ member => big_of_mem_utf8EncodeChar big member)
      (by rw [← List.length_pos_iff, String.length_utf8EncodeChar]; exact c.utf8Size_pos),
      String.length_utf8EncodeChar, scan.opensPseudoClass_of_big big, if_neg Bool.false_ne_true,
      Scan.step_of_big ascii big]

variable {C : Type}

/-- Behind each start stands its pseudo-class. -/
theorem forall₂_startsFrom {scan : Scan} (ascii : scan.IsAscii) (front back : Text) :
    List.Forall₂ (fun start pseudoClass =>
        (sliceFrom (front ++ back) start : Except (Failure C) Text) = .ok pseudoClass)
      (startsFrom scan (size front) back.bytes) (pseudoClassesFrom scan back) := by
  induction back generalizing front scan with
  | nil => exact .nil
  | cons c back inductionHypothesis =>
      have later := inductionHypothesis (scan.isAscii_step ascii c) (front ++ [c])
      rw [List.append_assoc, size_append, size_cons, size_nil] at later
      rw [bytes_cons, startsFrom_cons ascii, pseudoClassesFrom]
      split
      case isTrue opens =>
        obtain rfl := (Scan.opensPseudoClass_iff.mp opens).1
        exact .cons (sliceFrom_behind (by decide) front back) later
      case isFalse => exact later

theorem forall₂_pseudoClassStarts (selector : Text) :
    List.Forall₂ (fun start pseudoClass =>
        (sliceFrom selector start : Except (Failure C) Text) = .ok pseudoClass)
      (pseudoClassStarts selector) (pseudoClasses selector) :=
  forall₂_startsFrom Scan.isAscii_start [] selector

end Selector

namespace CosmeticRule

/-- The marker that continues a number sign, with its size. -/
def Marker.ofSuffixAt? (suffix : Text) : Option (Marker × Nat) :=
  if suffix.startsWith ['#'] then some (⟨false, false⟩, 2)
  else if suffix.startsWith ['@', '#'] then some (⟨true, false⟩, 3)
  else if suffix.startsWith ['$', '#'] then some (⟨false, true⟩, 3)
  else if suffix.startsWith ['@', '$', '#'] then some (⟨true, true⟩, 4)
  else none

/-- A selector with a style is injected, and one with a procedure is refused. -/
def injectsAt (selector : Text) : List Nat → Except (Failure FilterError) Bool
  | [] => .ok false
  | start :: rest => do
      let pseudoClass ← sliceFrom selector start
      if Selector.isStyle pseudoClass then
        if selector.endsWith [')'] then (injectsAt selector rest).map fun _ => true
        else .error (.refused .unreadable)
      else if Selector.isProcedural pseudoClass then
        .error (.refused (.unsupported UnsupportedKind.proceduralCosmetic))
      else injectsAt selector rest

/-- The domains in front of an offset, unless it is the start of the line. -/
def domainsAt (line : Text) (stop : Nat) : Except (Failure FilterError) (List DomainEntry) := do
  if 0 < stop then
    let front ← sliceTo line stop
    (supportedDomains front).mapError .refused
  else return []

def parseAt (line : Text) : Except (Failure FilterError) CosmeticRule := do
  let some index := firstByte? '#'.toUInt8 line | throw (.refused .unreadable)
  let suffix ← sliceFrom line (index + 1)
  let some (marker, length) := Marker.ofSuffixAt? suffix | throw (.refused .unreadable)
  let domains ← domainsAt line index
  let behind ← sliceFrom line (index + length)
  let selector := trim behind
  if selector.isEmpty then throw (.refused .emptySelector)
  let isInjected ←
    if marker.isInjected then pure true
    else injectsAt selector (Selector.pseudoClassStarts selector)
  return {
    selector
    includedDomains := DomainEntry.included domains
    excludedDomains := DomainEntry.excludedNames domains
    isException := marker.isException
    isInjected
    line }

theorem Marker.ofSuffixAt?_eq (suffix : Text) : Marker.ofSuffixAt? suffix =
    (Marker.ofSuffix? suffix).map fun (marker, _) => (marker, size marker.text) := by
  unfold ofSuffix?
  split
  case h_1 => rfl
  case h_2 => rfl
  case h_3 => rfl
  case h_4 => rfl
  case h_5 noSign noAt noDollar noBoth =>
    have plain (mark : Text) (absent : ∀ rest, suffix ≠ mark ++ rest) :
        suffix.startsWith mark = false := by
      refine Bool.eq_false_iff.mpr fun begins => ?_
      obtain ⟨rest, same⟩ := List.isPrefixOf_iff_prefix.mp begins
      exact absent rest same.symm
    rw [ofSuffixAt?, plain ['#'] noSign, plain ['@', '#'] noAt, plain ['$', '#'] noDollar,
      plain ['@', '$', '#'] noBoth]
    rfl

theorem Marker.eq_of_ofSuffix? {suffix behind : Text} {marker : Marker}
    (found : Marker.ofSuffix? suffix = some (marker, behind)) :
    '#' :: suffix = marker.text ++ behind := by
  unfold ofSuffix? at found
  split at found
  case h_5 => cases found
  all_goals
    obtain ⟨rfl, rfl⟩ := Prod.mk.inj (Option.some.inj found)
    rfl

theorem injectsAt_eq {selector : Text} {starts : List Nat} {pseudoClasses : List Text}
    (cuts : List.Forall₂ (fun start pseudoClass =>
      (sliceFrom selector start : Except (Failure FilterError) Text) = .ok pseudoClass)
        starts pseudoClasses) :
    injectsAt selector starts = (injects selector pseudoClasses).mapError .refused := by
  induction cuts with
  | nil => rfl
  | @cons start pseudoClass starts pseudoClasses cut _ inductionHypothesis =>
      rw [injectsAt, injects, cut, ok_bind, inductionHypothesis]
      split
      case isTrue =>
        split
        case isTrue => exact (mapError_map _ _ _).symm
        case isFalse => rfl
      case isFalse => split <;> rfl

theorem domainsAt_append (front back : Text) :
    domainsAt (front ++ back) (size front) = (supportedDomains front).mapError .refused := by
  unfold domainsAt
  by_cases empty : front = []
  · subst empty
    rfl
  · rw [if_pos (size_pos empty), sliceTo_append, ok_bind]

theorem parseAt_eq (line : Text) : parseAt line = (parse line).mapError .refused := by
  unfold parseAt parse
  have small : '#'.toNat < 128 := by decide
  rw [firstByte?_eq small]
  cases cut : cutFirst? '#' line with
  | none => rfl
  | some pieces =>
      obtain ⟨front, suffix⟩ := pieces
      have lineEq := (cutFirst?_eq_some_iff.mp cut).1
      have suffixCut := sliceFrom_behind (C := FilterError) small front suffix
      rw [← lineEq] at suffixCut
      dsimp only [Option.map_some]
      rw [suffixCut, ok_bind, Marker.ofSuffixAt?_eq]
      cases found : Marker.ofSuffix? suffix with
      | none => rfl
      | some told =>
          obtain ⟨marker, behind⟩ := told
          have partsEq : line = front ++ marker.text ++ behind := by
            rw [lineEq, Marker.eq_of_ofSuffix? found, List.append_assoc]
          have domainsCut := domainsAt_append front ('#' :: suffix)
          rw [← lineEq] at domainsCut
          have behindCut := sliceFrom_append (C := FilterError) (front ++ marker.text) behind
          rw [← partsEq, size_append] at behindCut
          dsimp only [Option.map_some]
          rw [domainsCut, mapError_bind, behindCut]
          congr 1
          funext domains
          rw [ok_bind]
          split
          case isTrue => rfl
          split
          case isTrue => rfl
          case isFalse =>
            rw [injectsAt_eq (Selector.forall₂_pseudoClassStarts (trim behind)), mapError_bind]
            rfl

end CosmeticRule

end Blocklist
