/-
This file says how every selector is read: as a whole part, and as a string or a group behind it
that is not closed and runs to the end. The selector of a rule that is read as a cosmetic one is
told to need a style or a procedure by the colons at its top level, which stand in the whole part.
-/

import Blocklist.Proofs.Filter.CosmeticLine

namespace Blocklist

open Text

namespace Selector

/-- What is left open at the end of a selector: a backslash without a character behind it, a string,
or a group, which may hold something open in turn. -/
inductive Unclosed : Text → Prop
  | backslash : Unclosed ['\\']
  | string {quote : Char} {inside : Text} (opens : quote = '"' ∨ quote = '\x27')
      (quoted : Quoted quote inside) : Unclosed (quote :: inside)
  | stringBackslash {quote : Char} {inside : Text} (opens : quote = '"' ∨ quote = '\x27')
      (quoted : Quoted quote inside) : Unclosed (quote :: inside ++ ['\\'])
  | group {inside : Text} (grouped : Whole true inside) : Unclosed ('[' :: inside)
  | groupUnclosed {inside rest : Text} (grouped : Whole true inside) (unclosed : Unclosed rest) :
      Unclosed ('[' :: inside ++ rest)

/-- A selector is read as a whole part, with something unclosed behind it or with nothing. -/
structure Reads (selector whole rest : Text) : Prop where
  parts : selector = whole ++ rest
  whole : Whole false whole
  unclosed : rest = [] ∨ Unclosed rest

/-- The text stands behind a colon of the selector that is neither escaped nor part of a string or
of a group. -/
def AtTopLevel (selector pseudoClass : Text) : Prop :=
  ∃ whole rest before behind, Reads selector whole rest ∧ whole = before ++ ':' :: behind ∧
    Whole false before ∧ pseudoClass = behind ++ rest

section Reading

/-- A text closes the string that is open, or runs to the end in it. -/
theorem exists_quoted (quote : Char) (text : Text) :
    ∃ inside behind, text = inside ++ behind ∧ Quoted quote inside ∧
      (behind = [] ∨ behind = ['\\'] ∨ ∃ rest, behind = quote :: rest) := by
  match text with
  | [] => exact ⟨[], [], rfl, .nil, .inl rfl⟩
  | [c] =>
      by_cases escape : c = '\\'
      · exact ⟨[], [c], rfl, .nil, .inr (.inl (by rw [escape]))⟩
      by_cases ends : c = quote
      · exact ⟨[], [c], rfl, .nil, .inr (.inr ⟨[], by rw [ends]⟩)⟩
      · exact ⟨[c], [], rfl, .plain escape ends .nil, .inl rfl⟩
  | c :: next :: text =>
      by_cases escape : c = '\\'
      · obtain ⟨inside, behind, rfl, quoted, closes⟩ := exists_quoted quote text
        exact ⟨c :: next :: inside, behind, rfl, escape ▸ .escape next quoted, closes⟩
      by_cases ends : c = quote
      · exact ⟨[], c :: next :: text, rfl, .nil, .inr (.inr ⟨next :: text, by rw [ends]⟩)⟩
      · obtain ⟨inside, behind, cut, quoted, closes⟩ := exists_quoted quote (next :: text)
        exact ⟨c :: inside, behind, by rw [cut]; rfl, .plain escape ends quoted, closes⟩
termination_by text.length

/-- What stands behind a whole part: nothing, something unclosed, or the end of the group that the
part is in. -/
def EndsPart (inGroup : Bool) (rest : Text) : Prop :=
  rest = [] ∨ Unclosed rest ∨ inGroup = true ∧ ∃ behind, rest = ']' :: behind

/-- The induction is on the length of the text, since the part behind a string or a group is read
once the end of that is found. -/
theorem exists_whole (inGroup : Bool) (text : Text) :
    ∃ whole rest, text = whole ++ rest ∧ Whole inGroup whole ∧ EndsPart inGroup rest := by
  match text with
  | [] => exact ⟨[], [], rfl, .nil, .inl rfl⟩
  | c :: text =>
      by_cases escape : c = '\\'
      · subst escape
        match text with
        | [] => exact ⟨[], ['\\'], rfl, .nil, .inr (.inl .backslash)⟩
        | next :: text =>
            obtain ⟨whole, rest, rfl, others, ends⟩ := exists_whole inGroup text
            exact ⟨'\\' :: next :: whole, rest, rfl, .escape next others, ends⟩
      by_cases opens : c = '"' ∨ c = '\x27'
      · obtain ⟨inside, behind, rfl, quoted, rfl | rfl | ⟨behind, rfl⟩⟩ := exists_quoted c text
        · exact ⟨[], c :: (inside ++ []), rfl, .nil,
            .inr (.inl (by rw [List.append_nil]; exact .string opens quoted))⟩
        · exact ⟨[], c :: (inside ++ ['\\']), rfl, .nil,
            .inr (.inl (.stringBackslash opens quoted))⟩
        · obtain ⟨whole, rest, rfl, others, ends⟩ := exists_whole inGroup behind
          exact ⟨c :: inside ++ c :: whole, rest, by simp, .string opens quoted others, ends⟩
      by_cases groups : c = '['
      · subst groups
        obtain ⟨inside, behind, rfl, grouped, rfl | unclosed | ⟨-, behind, rfl⟩⟩ :=
          exists_whole true text
        · exact ⟨[], '[' :: (inside ++ []), rfl, .nil,
            .inr (.inl (by rw [List.append_nil]; exact .group grouped))⟩
        · exact ⟨[], '[' :: (inside ++ behind), rfl, .nil,
            .inr (.inl (.groupUnclosed grouped unclosed))⟩
        · obtain ⟨whole, rest, rfl, others, ends⟩ := exists_whole inGroup behind
          exact ⟨'[' :: inside ++ ']' :: whole, rest, by simp, .group grouped others, ends⟩
      by_cases closes : inGroup = true ∧ c = ']'
      · exact ⟨[], c :: text, rfl, .nil, .inr (.inr ⟨closes.1, text, by rw [closes.2]⟩)⟩
      · obtain ⟨whole, rest, rfl, others, ends⟩ := exists_whole inGroup text
        have noMark : c ∉ ['\\', '"', '\x27', '['] := by
          rw [not_or] at opens
          simp [escape, opens, groups]
        exact ⟨c :: whole, rest, rfl,
          .plain noMark (fun grouped bracket => closes ⟨grouped, bracket⟩) others, ends⟩
termination_by text.length

/-- Every selector is read. -/
theorem exists_reads (selector : Text) : ∃ whole rest, Reads selector whole rest := by
  obtain ⟨whole, rest, parts, isWhole, ends⟩ := exists_whole false selector
  refine ⟨whole, rest, parts, isWhole, ?_⟩
  rcases ends with none | unclosed | ⟨inGroup, -⟩
  · exact .inl none
  · exact .inr unclosed
  · cases inGroup

end Reading

section Scan

variable {depth : Nat}

theorem pseudoClassesFrom_append (scan : Scan) (front behind : Text) :
    pseudoClassesFrom scan (front ++ behind) =
      (pseudoClassesFrom scan front).map (· ++ behind) ++
        pseudoClassesFrom (front.foldl Scan.step scan) behind := by
  induction front generalizing scan with
  | nil => rfl
  | cons c front inductionHypothesis =>
      rw [List.cons_append, pseudoClassesFrom, pseudoClassesFrom, inductionHypothesis,
        List.foldl_cons]
      split <;> rfl

/-- Nothing opens a pseudo-class unless the scan is as it started. -/
theorem pseudoClassesFrom_cons_of_ne {scan : Scan} (apart : scan ≠ Scan.start) (c : Char)
    (rest : Text) : pseudoClassesFrom scan (c :: rest) = pseudoClassesFrom (scan.step c) rest := by
  rw [pseudoClassesFrom, if_neg]
  rw [Scan.opensPseudoClass_iff]
  exact fun opens => apart opens.2

theorem Quoted.pseudoClassesFrom_eq_nil {quote : Char} {inside : Text}
    (quoted : Quoted quote inside) :
    pseudoClassesFrom ⟨false, some quote, depth⟩ inside = [] := by
  induction quoted with
  | nil => rfl
  | escape c _ inductionHypothesis =>
      rw [pseudoClassesFrom_cons_of_ne (by simp [Scan.start]), Scan.step_backslash,
        pseudoClassesFrom_cons_of_ne (by simp [Scan.start]), Scan.step_escaped,
        inductionHypothesis]
  | plain noEscape inside _ inductionHypothesis =>
      rw [pseudoClassesFrom_cons_of_ne (by simp [Scan.start]), Scan.step_inside noEscape inside,
        inductionHypothesis]

theorem pseudoClassesFrom_eq_nil_of_quote {quote : Char} {inside : Text}
    (opens : quote = '"' ∨ quote = '\x27') (quoted : Quoted quote inside) :
    pseudoClassesFrom ⟨false, none, depth⟩ (quote :: inside) = [] := by
  have noColon : (⟨false, none, depth⟩ : Scan).opensPseudoClass quote = false := by
    rcases opens with rfl | rfl <;> rfl
  rw [pseudoClassesFrom, noColon, if_neg Bool.false_ne_true, Scan.step_quote opens,
    quoted.pseudoClassesFrom_eq_nil]

/-- A group has no pseudo-classes, however deep it is. -/
theorem Whole.pseudoClassesFrom_eq_nil {inGroup : Bool} {inside : Text}
    (grouped : Whole inGroup inside) (isGroup : inGroup = true) (depth : Nat) :
    pseudoClassesFrom ⟨false, none, depth + 1⟩ inside = [] := by
  have deep : ∀ depth, (⟨false, none, depth + 1⟩ : Scan) ≠ Scan.start := by simp [Scan.start]
  induction grouped generalizing depth with
  | nil => rfl
  | escape c _ inductionHypothesis =>
      rw [pseudoClassesFrom_cons_of_ne (deep depth), Scan.step_backslash,
        pseudoClassesFrom_cons_of_ne (by simp [Scan.start]), Scan.step_escaped,
        inductionHypothesis isGroup]
  | @string _ quote inside rest opens quoted _ inductionHypothesis =>
      have noEscape : quote ≠ '\\' := by rcases opens with rfl | rfl <;> decide
      rw [pseudoClassesFrom_append, pseudoClassesFrom_eq_nil_of_quote opens quoted,
        List.foldl_cons, Scan.step_quote opens, quoted.foldl_step,
        pseudoClassesFrom_cons_of_ne (by simp [Scan.start]), Scan.step_closes noEscape,
        inductionHypothesis isGroup]
      rfl
  | group inner _ insideHypothesis inductionHypothesis =>
      rw [pseudoClassesFrom_append, pseudoClassesFrom_cons_of_ne (deep depth), Scan.step_open,
        insideHypothesis rfl, List.foldl_cons, Scan.step_open,
        inner.foldl_step _ (by simp), pseudoClassesFrom_cons_of_ne (deep _), Scan.step_close,
        Nat.add_sub_cancel, inductionHypothesis isGroup]
      rfl
  | plain noMark inside _ inductionHypothesis =>
      rw [pseudoClassesFrom_cons_of_ne (deep depth), Scan.step_plain noMark (inside isGroup),
        inductionHypothesis isGroup]

theorem pseudoClassesFrom_open (depth : Nat) (inside : Text) :
    pseudoClassesFrom ⟨false, none, depth⟩ ('[' :: inside) =
      pseudoClassesFrom ⟨false, none, depth + 1⟩ inside := by
  rw [pseudoClassesFrom, if_neg (by simp [Scan.opensPseudoClass]), Scan.step_open]

theorem Unclosed.pseudoClassesFrom_eq_nil {rest : Text} (unclosed : Unclosed rest) (depth : Nat) :
    pseudoClassesFrom ⟨false, none, depth⟩ rest = [] := by
  induction unclosed generalizing depth with
  | backslash => rfl
  | string opens quoted => exact pseudoClassesFrom_eq_nil_of_quote opens quoted
  | stringBackslash opens quoted =>
      rw [pseudoClassesFrom_append, pseudoClassesFrom_eq_nil_of_quote opens quoted]
      simp [pseudoClassesFrom, Scan.opensPseudoClass]
  | group grouped => rw [pseudoClassesFrom_open, grouped.pseudoClassesFrom_eq_nil rfl]
  | groupUnclosed grouped _ inductionHypothesis =>
      rw [List.cons_append, pseudoClassesFrom_open, pseudoClassesFrom_append,
        grouped.pseudoClassesFrom_eq_nil rfl, grouped.foldl_step _ (by simp), inductionHypothesis]
      rfl

end Scan

/-- The pseudo-classes of a selector stand in its whole part. -/
theorem Reads.pseudoClasses_eq {selector whole rest : Text} (reads : Reads selector whole rest) :
    pseudoClasses selector = (pseudoClasses whole).map (· ++ rest) := by
  have returns := foldl_step_eq_start_iff.mpr reads.whole
  have noneBehind : pseudoClassesFrom Scan.start rest = [] := by
    rcases reads.unclosed with rfl | unclosed
    · rfl
    · exact unclosed.pseudoClassesFrom_eq_nil 0
  rw [pseudoClasses, reads.parts, pseudoClassesFrom_append, returns, noneBehind, List.append_nil]
  rfl

/-- The scan finds the colons at the top level of a selector, and no others. -/
theorem mem_pseudoClasses_iff_atTopLevel {selector pseudoClass : Text} :
    pseudoClass ∈ pseudoClasses selector ↔ AtTopLevel selector pseudoClass := by
  constructor
  · intro member
    obtain ⟨whole, rest, reads⟩ := exists_reads selector
    rw [reads.pseudoClasses_eq] at member
    obtain ⟨behind, inWhole, rfl⟩ := List.mem_map.mp member
    obtain ⟨before, cut, wholeBefore⟩ := mem_pseudoClasses_iff.mp inWhole
    exact ⟨whole, rest, before, behind, reads, cut, wholeBefore, rfl⟩
  · intro ⟨whole, rest, before, behind, reads, cut, wholeBefore, same⟩
    rw [reads.pseudoClasses_eq, same]
    exact List.mem_map.mpr ⟨behind, mem_pseudoClasses_iff.mpr ⟨before, cut, wholeBefore⟩, rfl⟩

end Selector

namespace CosmeticRule

open Selector

section Injects

variable {selector pseudoClass : Text} {pseudoClasses : List Text}

/-- A procedure is refused wherever it stands, if the selector is not refused before that. -/
theorem exists_injects_eq_error (member : pseudoClass ∈ pseudoClasses)
    (procedural : isProcedural pseudoClass = true) (noStyle : isStyle pseudoClass = false) :
    ∃ cause, injects selector pseudoClasses = .error cause := by
  induction pseudoClasses with
  | nil => cases member
  | cons first pseudoClasses inductionHypothesis =>
      rw [injects]
      rcases List.mem_cons.mp member with rfl | later
      · rw [noStyle, if_neg Bool.false_ne_true, if_pos procedural]
        exact ⟨_, rfl⟩
      · obtain ⟨cause, refused⟩ := inductionHypothesis later
        rw [refused]
        split
        case isTrue =>
          split
          case isTrue => exact ⟨cause, rfl⟩
          case isFalse => exact ⟨_, rfl⟩
        case isFalse =>
          split
          case isTrue => exact ⟨_, rfl⟩
          case isFalse => exact ⟨cause, rfl⟩

/-- A style makes a rule injected wherever it stands, if the selector is not refused. -/
theorem injects_of_isStyle {isInjected : Bool} (member : pseudoClass ∈ pseudoClasses)
    (style : isStyle pseudoClass = true)
    (told : injects selector pseudoClasses = .ok isInjected) : isInjected = true := by
  induction pseudoClasses generalizing isInjected with
  | nil => cases member
  | cons first pseudoClasses inductionHypothesis =>
      rw [injects] at told
      split at told
      case isTrue =>
        split at told
        case isTrue =>
          obtain ⟨_, -, same⟩ := map_eq_ok.mp told
          exact same.symm
        case isFalse => cases told
      case isFalse plain =>
        split at told
        case isTrue => cases told
        case isFalse =>
          rcases List.mem_cons.mp member with rfl | later
          · exact absurd style plain
          · exact inductionHypothesis later told

end Injects

/-- The line that has a selector behind a marker which injects nothing. -/
def hidingLine (front : Text) (isException : Bool) (selector : Text) : Text :=
  front ++ (Marker.mk isException false).text ++ selector

section HidingLine

variable {front selector : Text} {isException : Bool}

theorem parse_hidingLine_eq_ok {rule : CosmeticRule} (noMarker : '#' ∉ front)
    (trimmed : trim selector = selector)
    (parsed : parse (hidingLine front isException selector) = .ok rule) :
    injects selector (pseudoClasses selector) = .ok rule.isInjected := by
  obtain ⟨suffix, cut, found⟩ :=
    Marker.cutFirst?_text noMarker ⟨isException, false⟩ selector
  obtain ⟨_, _, _, _, _, isInjected, cutToo, foundToo, -, -, told, rfl⟩ := parse_eq_ok parsed
  obtain ⟨-, rfl⟩ := Prod.mk.inj (Option.some.inj (cut.symm.trans cutToo))
  obtain ⟨rfl, rfl⟩ := Prod.mk.inj (Option.some.inj (found.symm.trans foundToo))
  rw [trimmed] at told
  exact told

/-- A selector without a style or a procedure at its top level is taken as it is, one with a
procedure there is refused, and one with a style there is injected if it is not refused. -/
theorem parse_hidingLine (noMarker : '#' ∉ front) (some : selector ≠ [])
    (trimmed : trim selector = selector) :
    ((∀ pseudoClass, AtTopLevel selector pseudoClass →
        isStyle pseudoClass = false ∧ isProcedural pseudoClass = false) →
      ∀ domains, supportedDomains front = .ok domains →
        parse (hidingLine front isException selector) = .ok {
          selector
          includedDomains := DomainEntry.included domains
          excludedDomains := DomainEntry.excludedNames domains
          isException
          isInjected := false
          line := hidingLine front isException selector }) ∧
      (∀ pseudoClass, AtTopLevel selector pseudoClass → isProcedural pseudoClass = true →
        isStyle pseudoClass = false →
        ∃ cause, parse (hidingLine front isException selector) = .error cause) ∧
      ∀ pseudoClass, AtTopLevel selector pseudoClass → isStyle pseudoClass = true →
        ∀ rule, parse (hidingLine front isException selector) = .ok rule →
          rule.isInjected = true := by
  refine ⟨?_, ?_, ?_⟩
  · intro plain domains supported
    obtain ⟨suffix, cut, found⟩ :=
      Marker.cutFirst?_text noMarker ⟨isException, false⟩ selector
    have told : injects selector (pseudoClasses selector) = .ok false :=
      injects_eq_ok_false fun pseudoClass member =>
        plain pseudoClass (mem_pseudoClasses_iff_atTopLevel.mp member)
    rw [← trimmed] at some told
    have read := parse_of_parts cut found supported some told
    rwa [trimmed] at read
  · intro pseudoClass top procedural noStyle
    obtain ⟨cause, refused⟩ :
        ∃ cause, injects selector (pseudoClasses selector) = .error cause :=
      exists_injects_eq_error (mem_pseudoClasses_iff_atTopLevel.mpr top) procedural noStyle
    cases parsed : parse (hidingLine front isException selector) with
    | error cause => exact ⟨cause, rfl⟩
    | ok rule =>
        have told := parse_hidingLine_eq_ok noMarker trimmed parsed
        rw [refused] at told
        cases told
  · intro pseudoClass top style rule parsed
    exact injects_of_isStyle (mem_pseudoClasses_iff_atTopLevel.mpr top) style
      (parse_hidingLine_eq_ok noMarker trimmed parsed)

end HidingLine

/-- Words for a procedure and for a style behind colons in a string, in a group and behind a
backslash, a closing bracket without a group, and a group that runs to the end. -/
def quotingSelector : Text :=
  "a[href=\":has(]\\\"\"]\\:has(b)\x27:style(\x27]:not(.c)[data-é=[:xpath(]".toList

/-- The rule that spares the elements of the selector on a site. -/
def quotingRule : CosmeticRule where
  selector := quotingSelector
  includedDomains := ["shop.com".toList]
  excludedDomains := []
  isException := true
  isInjected := false
  line := hidingLine "shop.com".toList true quotingSelector

/-- The rule that gives the elements of a selector a style. -/
def stylingRule : CosmeticRule where
  selector := "a:hover:style(color: red)".toList
  includedDomains := []
  excludedDomains := []
  isException := false
  isInjected := true
  line := hidingLine [] false "a:hover:style(color: red)".toList

theorem parse_hidingLine_quoting :
    parse (hidingLine "shop.com".toList true quotingSelector) = .ok quotingRule ∧
      (∃ cause, parse (hidingLine [] false "[a]]:has(.ad)".toList) = .error cause) ∧
      parse (hidingLine [] false stylingRule.selector) = .ok stylingRule ∧
      stylingRule.isInjected = true := by
  have plain : ∀ pseudoClass, AtTopLevel quotingSelector pseudoClass →
      isStyle pseudoClass = false ∧ isProcedural pseudoClass = false := by
    intro pseudoClass top
    have every : ∀ found ∈ pseudoClasses quotingSelector,
        isStyle found = false ∧ isProcedural found = false := by decide
    exact every pseudoClass (mem_pseudoClasses_iff_atTopLevel.mpr top)
  have procedure : AtTopLevel "[a]]:has(.ad)".toList "has(.ad)".toList :=
    mem_pseudoClasses_iff_atTopLevel.mp (by decide)
  have style : AtTopLevel stylingRule.selector "style(color: red)".toList :=
    mem_pseudoClasses_iff_atTopLevel.mp (by decide)
  have styled : parse (hidingLine [] false stylingRule.selector) = .ok stylingRule := by decide
  have domains : supportedDomains "shop.com".toList = .ok [⟨"shop.com".toList, false⟩] := by
    decide
  obtain ⟨taken, -, -⟩ := @parse_hidingLine "shop.com".toList quotingSelector true
    (by decide) (by decide) (by decide)
  obtain ⟨-, refused, -⟩ := @parse_hidingLine [] "[a]]:has(.ad)".toList false
    (by decide) (by decide) (by decide)
  obtain ⟨-, -, injected⟩ := @parse_hidingLine [] stylingRule.selector false
    (by decide) (by decide) (by decide)
  exact ⟨taken plain _ domains, refused _ procedure (by decide) (by decide), styled,
    injected _ style (by decide) _ styled⟩

end CosmeticRule

end Blocklist
