/-
This file converts a rule by slices of its body, which give the page that an exception names, and
shows that every slice exists and that the conversion is the one that the characters give.
-/

import Blocklist.Content.Convert
import Blocklist.Proofs.Content.Conversion
import Blocklist.Proofs.Content.NamedPage
import Blocklist.Proofs.Offset.Url

namespace Blocklist

open Text

namespace NamedPage

/-- The size of the first of the schemes that a text begins with. -/
def schemeSize (text : Text) : Nat :=
  ((schemes.find? fun scheme => text.startsWith scheme.toList).map fun scheme =>
    size scheme.toList).getD 0

/-- The text up to the first comma behind an offset, and the offset. -/
def valueAt {C : Type} (text : Text) (start : Nat) : Except (Failure C) (Text × Nat) := do
  let behind ← sliceFrom text start
  match offsetOf? (· == ',') behind with
  | some comma => return (← sliceTo text (start + comma), start)
  | none => return (text, start)

/-- The text up to the last dollar sign, unless that is in the scheme, and the offset behind the
scheme. -/
def patternAt {C : Type} (text : Text) : Except (Failure C) (Text × Nat) := do
  let start := schemeSize text
  match (lastOffsetOf? '$' text).filter (start ≤ ·) with
  | some index => return (← sliceTo text index, start)
  | none => return (text, start)

/-- A text that ends with the address, and the offset where the address starts. -/
def addressAt {C : Type} (text : Text) : Except (Failure C) (Text × Nat) :=
  match if text.contains '$' then offsetOfPart? domainMark text else none with
  | some index => valueAt text (index + size domainMark)
  | none => patternAt text

/-- The domain reaches to the first slash or separator, and must be a hostname. -/
def ofTextAt {C : Type} (text : Text) : Except (Failure C) NamedPage := do
  let (text, start) ← addressAt text
  let address ← sliceFrom text start
  match offsetOf? endsDomain address with
  | some symbol =>
      let name ← slice text start (start + symbol)
      let path ← sliceFrom text (start + symbol)
      return ⟨(Hostname.normalize? name).filter Hostname.isValid, path⟩
  | none => return ⟨(Hostname.normalize? address).filter Hostname.isValid, []⟩

section Slices

variable {C : Type}

/-- The offset of a part is the size of the text in front of it. -/
theorem offsetOfPart?_cases (part text : Text) :
    (offsetOfPart? part text = none ∧ behind? part text = none) ∨
      ∃ before behind, text = before ++ part ++ behind ∧
        offsetOfPart? part text = some (size before) ∧ behind? part text = some behind := by
  induction text with
  | nil =>
      cases part with
      | nil => exact .inr ⟨[], [], rfl, rfl, rfl⟩
      | cons wanted part => exact .inl ⟨rfl, rfl⟩
  | cons c rest inductionHypothesis =>
      rw [offsetOfPart?, behind?, startsWith_eq_isSome]
      cases found : after? (c :: rest) part with
      | some behind => exact .inr ⟨[], behind, after?_eq_some_iff.mp found, rfl, rfl⟩
      | none =>
          rcases inductionHypothesis with ⟨absent, none⟩ | ⟨before, behind, same, offset, some⟩
          · exact .inl ⟨by rw [absent]; rfl, none⟩
          · refine .inr ⟨c :: before, behind, congrArg (c :: ·) same, ?_, some⟩
            rw [offset, size_cons, Nat.add_comm]
            rfl

/-- A text begins with its scheme, in which there is no dollar sign. -/
theorem exists_scheme (text : Text) :
    ∃ scheme, text = scheme ++ dropScheme text ∧ size scheme = schemeSize text ∧ '$' ∉ scheme := by
  have noMark : (schemes.all fun scheme => !scheme.toList.contains '$') = true := by decide
  unfold dropScheme schemeSize
  generalize schemes = list at noMark
  induction list with
  | nil => exact ⟨[], rfl, rfl, List.not_mem_nil⟩
  | cons scheme list inductionHypothesis =>
      rw [List.all_cons, Bool.and_eq_true] at noMark
      rw [List.findSome?_cons, List.find?_cons, startsWith_eq_isSome]
      cases found : after? text scheme.toList with
      | some behind =>
          exact ⟨scheme.toList, after?_eq_some_iff.mp found, rfl, by simpa using noMark.1⟩
      | none => exact inductionHypothesis noMark.2

theorem valueAt_append (front behind : Text) :
    (valueAt (front ++ behind) (size front) : Except (Failure C) (Text × Nat)) =
      .ok (front ++ behind.takeWhile (· ≠ ','), size front) := by
  have sameClass : (fun c => !(c == ',')) = fun c => decide (c ≠ ',') := by
    funext c
    rw [decide_not, beq_eq_decide]
  rw [valueAt, sliceFrom_append, ok_bind]
  have found := offsetOf?_cases (· == ',') behind
  rw [sameClass] at found
  rcases found with ⟨absent, all, -⟩ | comma
  · rw [absent, all]
    rfl
  · have cut := sliceTo_append (C := C) (front ++ behind.takeWhile (· ≠ ','))
      (behind.dropWhile (· ≠ ','))
    rw [List.append_assoc, List.takeWhile_append_dropWhile, size_append] at cut
    rw [comma]
    dsimp only
    rw [cut]
    rfl

/-- The last dollar sign is behind the scheme. -/
theorem patternAt_eq (text : Text) :
    ∃ scheme, (patternAt text : Except (Failure C) (Text × Nat)) =
      .ok (scheme ++ (match cutLast? '$' (dropScheme text) with
        | some (before, _) => before
        | none => dropScheme text), size scheme) := by
  obtain ⟨scheme, textEq, schemeSizeEq, noMark⟩ := exists_scheme text
  refine ⟨scheme, ?_⟩
  have last : lastOffsetOf? '$' text =
      (cutLast? '$' (dropScheme text)).map fun cut => size (scheme ++ cut.1) := by
    conv_lhs => rw [textEq]
    rw [lastOffsetOf?_eq, cutLast?_append_of_absent noMark, Option.map_map]
    rfl
  rw [patternAt, last, ← schemeSizeEq]
  cases cut : cutLast? '$' (dropScheme text) with
  | none =>
      rw [← textEq]
      rfl
  | some pieces =>
      obtain ⟨before, behind⟩ := pieces
      have wholeEq : text = scheme ++ before ++ '$' :: behind := by
        rw [List.append_assoc, ← (cutLast?_eq_some_iff.mp cut).1, ← textEq]
      have found := sliceTo_append (C := C) (scheme ++ before) ('$' :: behind)
      rw [← wholeEq] at found
      have isBehind : size scheme ≤ size (scheme ++ before) := by
        rw [size_append]
        exact Nat.le_add_right _ _
      rw [Option.map_some, Option.filter_some, decide_eq_true isBehind, if_pos rfl]
      dsimp only
      rw [found]
      rfl

theorem addressAt_eq (text : Text) :
    ∃ front, (addressAt text : Except (Failure C) (Text × Nat)) =
      .ok (front ++ address text, size front) := by
  unfold addressAt address
  cases text.contains '$' with
  | false => exact patternAt_eq text
  | true =>
      rw [if_pos rfl, if_pos rfl]
      rcases offsetOfPart?_cases domainMark text with
        ⟨absent, unnamed⟩ | ⟨before, behind, textEq, found, named⟩
      · change behind? "domain=".toList text = none at unnamed
        rw [absent, unnamed]
        exact patternAt_eq text
      · change behind? "domain=".toList text = some behind at named
        refine ⟨before ++ domainMark, ?_⟩
        have value := valueAt_append (C := C) (before ++ domainMark) behind
        rw [← textEq, size_append] at value
        rw [found, named, size_append]
        exact value

theorem ofTextAt_eq (text : Text) :
    (ofTextAt text : Except (Failure C) NamedPage) = .ok (ofText text) := by
  obtain ⟨front, found⟩ := addressAt_eq (C := C) text
  rw [ofTextAt, found, ok_bind, ofText]
  dsimp only
  rw [sliceFrom_append, ok_bind]
  rcases offsetOf?_cases endsDomain (address text) with ⟨absent, all, none⟩ | symbol
  · rw [absent, all, none]
    rfl
  · have split : address text = (address text).takeWhile (fun c => !endsDomain c) ++
        (address text).dropWhile (fun c => !endsDomain c) := List.takeWhile_append_dropWhile.symm
    have name := slice_append (C := C) front ((address text).takeWhile fun c => !endsDomain c)
      ((address text).dropWhile fun c => !endsDomain c) rfl
    have path := sliceFrom_append (C := C)
      (front ++ (address text).takeWhile fun c => !endsDomain c)
      ((address text).dropWhile fun c => !endsDomain c)
    rw [List.append_assoc, ← split] at name path
    rw [size_append] at path
    rw [symbol]
    dsimp only
    rw [name, ok_bind, path]
    rfl

end Slices

end NamedPage

namespace UrlRule

/-- The page of an exception takes the place of its other conditions on the URL. -/
def exemptAt (rule : UrlRule) (trigger : Trigger) : Except (Failure ConversionError) Trigger := do
  if !rule.isException then return trigger
  else if rule.exemptsPages then
    let page ← NamedPage.ofTextAt rule.body
    if !page.isWhole then throw (.refused (.exceptionWithPath page.path))
    let some domain := page.domain | throw (.refused .exceptionWithoutDomain)
    if trigger.unlessDomain.isSome then throw (.refused .conflictingDomains)
    return { trigger with
      ifDomain := some [domain]
      urlFilter := Trigger.anyUrl.urlFilter
      resourceTypes := none }
  else if rule.types.contains .elemHide then
    return { trigger with resourceTypes := some [.document] }
  else return trigger

def convertAt (rule : UrlRule) : Except (Failure ConversionError) ContentRule := do
  let trigger ← rule.conditions.mapError .refused
  let exempted ← rule.exemptAt trigger
  return ⟨exempted, Action.block.forRule rule.isException⟩

theorem exemptAt_eq (rule : UrlRule) (trigger : Trigger) :
    rule.exemptAt trigger = (rule.exempt trigger).mapError .refused := by
  unfold exemptAt exempt
  rw [NamedPage.ofTextAt_eq, ok_bind]
  split
  case isTrue => rfl
  split
  case isTrue =>
    dsimp only
    split
    case isTrue => rfl
    cases (NamedPage.ofText rule.body).domain with
    | none => rfl
    | some domain =>
       dsimp only
       split <;> rfl
  case isFalse => split <;> rfl

theorem convertAt_eq (rule : UrlRule) : rule.convertAt = rule.convert.mapError .refused := by
  rw [convertAt, convert_eq_conditions, mapError_bind]
  congr 1
  funext trigger
  rw [exemptAt_eq, mapError_map]
  rfl

end UrlRule

/-- Scripts and styles are refused, and the other rules are converted. -/
def FilterRule.convertAt : FilterRule → Except (Failure ConversionError) ContentRule
  | .cosmetic rule => rule.convert.mapError .refused
  | .script _ => .error (.refused (.injection .script))
  | .url rule => rule.convertAt

theorem FilterRule.convertAt_eq (rule : FilterRule) :
    rule.convertAt = rule.convert.mapError .refused := by
  cases rule with
  | cosmetic rule => rfl
  | script rule => rfl
  | url rule => exact rule.convertAt_eq

end Blocklist
