/-
This file says which plain patterns are refused. What is derived from a pattern has no bare bar, and
it counts repetitions only where the text of the pattern has a count in braces.
-/

import Blocklist.Proofs.Content.UrlFilter
import Blocklist.Proofs.Filter.PatternFilter
import Blocklist.Proofs.Text.Blank

namespace Blocklist

open Text

namespace UrlFilter

section Bars

theorem hasBareBar_cons {c : Char} (plain : c ≠ '\\') (rest : Text) :
    hasBareBar (c :: rest) = (c == '|' || hasBareBar rest) := by
  cases rest with
  | nil => simp [hasBareBar]
  | cons next rest => rw [hasBareBar, if_neg plain]

theorem hasBareBar_append {part : Text} (noBackslash : '\\' ∉ part) (noBar : '|' ∉ part)
    (rest : Text) : hasBareBar (part ++ rest) = hasBareBar rest := by
  induction part with
  | nil => rfl
  | cons c part inductionHypothesis =>
      rw [List.mem_cons, not_or] at noBackslash noBar
      rw [List.cons_append, hasBareBar_cons (Ne.symm noBackslash.1),
        inductionHypothesis noBackslash.2 noBar.2, beq_false_of_ne (Ne.symm noBar.1),
        Bool.false_or]

theorem hasBareBar_leftRegex (left : Option LeftAnchor) (rest : Text) :
    hasBareBar (Pattern.leftRegex left ++ rest) = hasBareBar rest := by
  rcases left with - | - | -
  · rfl
  · have split : Pattern.hostnameAnchorRegex =
        "^[^:]+:(//)?([^/]+".toList ++ ('\\' :: '.' :: ")?".toList) := by decide
    change hasBareBar (Pattern.hostnameAnchorRegex ++ rest) = _
    rw [split, List.append_assoc, hasBareBar_append (by decide) (by decide)]
    change hasBareBar (")?".toList ++ rest) = _
    exact hasBareBar_append (by decide) (by decide) rest
  · change hasBareBar (['^'] ++ rest) = _
    exact hasBareBar_append (by decide) (by decide) rest

/-- A bar of the text is written behind a backslash. -/
theorem hasBareBar_encodeFilter (c : Char) (rest : Text) :
    hasBareBar (Pattern.encodeFilter c ++ rest) = hasBareBar rest := by
  rcases Pattern.encodeFilter_cases c with
    ⟨-, same⟩ | ⟨-, same⟩ | ⟨-, same⟩ | ⟨plain, same⟩ <;> rw [same]
  · rfl
  · exact hasBareBar_append (by decide) (by decide) rest
  · exact hasBareBar_append (by decide) (by decide) rest
  · apply hasBareBar_append <;> rw [List.mem_singleton] <;> rintro rfl <;>
      exact absurd plain (by decide)

theorem hasBareBar_flatMap (text last : Text) :
    hasBareBar (text.flatMap Pattern.encodeFilter ++ last) = hasBareBar last := by
  induction text with
  | nil => rfl
  | cons c text inductionHypothesis =>
      rw [List.flatMap_cons, List.append_assoc, hasBareBar_encodeFilter, inductionHypothesis]

end Bars

/-- A number is a run of decimal digits. -/
def IsNumber (text : Text) : Prop := text ≠ [] ∧ ∀ c ∈ text, isDecimalDigit c = true

/-- How often something is repeated: exactly so often, or from a least number on, up to a greatest
one or both. -/
inductive Count : Text → Prop
  | exactly {number : Text} (isNumber : IsNumber number) : Count number
  | atLeast {least : Text} (isNumber : IsNumber least) : Count (least ++ [','])
  | between {least greatest : Text} (isLeast : IsNumber least) (isGreatest : IsNumber greatest) :
      Count (least ++ ',' :: greatest)
  | atMost {greatest : Text} (isNumber : IsNumber greatest) : Count (',' :: greatest)

/-- A count in braces stands in the text. -/
def HoldsCount (text : Text) : Prop :=
  ∃ count, Count count ∧ '\x7b' :: (count ++ ['\x7d']) <:+: text

section Counts

/-- A count is written in decimal digits and commas. -/
def inCount (c : Char) : Bool := isDecimalDigit c || c == ','

theorem IsNumber.chars {number : Text} (isNumber : IsNumber number) :
    ∀ c ∈ number, inCount c = true := by
  intro c member
  rw [inCount, isNumber.2 c member, Bool.true_or]

theorem Count.chars {count : Text} (isCount : Count count) : ∀ c ∈ count, inCount c = true := by
  have comma : inCount ',' = true := by decide
  intro c member
  cases isCount with
  | exactly isNumber => exact isNumber.chars c member
  | atLeast isNumber =>
      rcases List.mem_append.mp member with inLeast | inRest
      · exact isNumber.chars c inLeast
      · exact List.mem_singleton.mp inRest ▸ comma
  | between isLeast isGreatest =>
      rcases List.mem_append.mp member with inLeast | inRest
      · exact isLeast.chars c inLeast
      · rcases List.mem_cons.mp inRest with rfl | inGreatest
        · exact comma
        · exact isGreatest.chars c inGreatest
  | atMost isNumber =>
      rcases List.mem_cons.mp member with rfl | inGreatest
      · exact comma
      · exact isNumber.chars c inGreatest

/-- Digits are read as far as they go. -/
theorem digits_append {digits rest : Text} (all : ∀ c ∈ digits, isDecimalDigit c = true)
    (stop : ∀ c, rest.head? = some c → isDecimalDigit c = false) :
    (digits ++ rest).takeWhile isDecimalDigit = digits ∧
      (digits ++ rest).dropWhile isDecimalDigit = rest := by
  have none : rest.takeWhile isDecimalDigit = [] := by
    cases rest with
    | nil => rfl
    | cons c rest => exact List.takeWhile_cons_of_neg (by simp [stop c rfl])
  rw [List.takeWhile_append_of_pos all, List.dropWhile_append_of_pos all, none,
    dropWhile_eq_self stop, List.append_nil]
  exact ⟨rfl, rfl⟩

theorem head_of_closesRepetition {text : Text} (closes : closesRepetition text = true) (c : Char)
    (first : text.head? = some c) : isDecimalDigit c = false := by
  unfold closesRepetition at closes
  split at closes
  case h_1 => exact Option.some.inj first ▸ (by decide)
  case h_2 => exact Option.some.inj first ▸ (by decide)
  case h_3 => cases closes

theorem countsRepetition_comma {least greatest behind : Text}
    (leastDigits : ∀ c ∈ least, isDecimalDigit c = true)
    (greatestDigits : ∀ c ∈ greatest, isDecimalDigit c = true)
    (stop : ∀ c, behind.head? = some c → isDecimalDigit c = false) :
    countsRepetition (least ++ ',' :: (greatest ++ behind)) =
      ((!least.isEmpty || !greatest.isEmpty) && closesRepetition behind) := by
  have comma : ∀ c, (',' :: (greatest ++ behind)).head? = some c → isDecimalDigit c = false :=
    fun c first => Option.some.inj first ▸ (by decide)
  obtain ⟨takenLeast, droppedLeast⟩ := digits_append leastDigits comma
  obtain ⟨takenGreatest, droppedGreatest⟩ := digits_append greatestDigits stop
  rw [countsRepetition, droppedLeast, takenLeast]
  change ((!least.isEmpty || !((greatest ++ behind).takeWhile isDecimalDigit).isEmpty) &&
    closesRepetition ((greatest ++ behind).dropWhile isDecimalDigit)) = _
  rw [takenGreatest, droppedGreatest]

theorem countsRepetition_closed {number behind : Text}
    (digits : ∀ c ∈ number, isDecimalDigit c = true) (closes : closesRepetition behind = true) :
    countsRepetition (number ++ behind) = !number.isEmpty := by
  obtain ⟨taken, dropped⟩ := digits_append digits (head_of_closesRepetition closes)
  rw [countsRepetition, dropped, taken]
  dsimp only
  split
  case h_1 => cases closes
  case h_2 => rw [closes, Bool.and_true]

/-- What is taken for a repetition behind a brace is a count and a closing brace. -/
theorem countsRepetition_iff {text : Text} :
    countsRepetition text = true ↔
      ∃ count behind, Count count ∧ text = count ++ behind ∧ closesRepetition behind = true := by
  have digits {part : Text} : ∀ c ∈ part.takeWhile isDecimalDigit, isDecimalDigit c = true :=
    fun c member => List.mem_takeWhile_imp member
  have split (part : Text) := List.takeWhile_append_dropWhile (p := isDecimalDigit) (l := part)
  constructor
  · intro counts
    unfold countsRepetition at counts
    dsimp only at counts
    split at counts
    case h_1 behind found =>
      have whole : text = text.takeWhile isDecimalDigit ++ ',' ::
          (behind.takeWhile isDecimalDigit ++ behind.dropWhile isDecimalDigit) := by
        rw [split behind, ← found, split text]
      obtain ⟨someNumber, closes⟩ := Bool.and_eq_true_iff.mp counts
      refine ⟨text.takeWhile isDecimalDigit ++ ',' :: behind.takeWhile isDecimalDigit,
        behind.dropWhile isDecimalDigit, ?_, by simpa using whole, closes⟩
      by_cases noLeast : text.takeWhile isDecimalDigit = []
      · rw [noLeast] at someNumber ⊢
        exact .atMost ⟨by simpa using someNumber, digits⟩
      by_cases noGreatest : behind.takeWhile isDecimalDigit = []
      · rw [noGreatest]
        exact .atLeast ⟨noLeast, digits⟩
      · exact .between ⟨noLeast, digits⟩ ⟨noGreatest, digits⟩
    case h_2 behind _ =>
      rw [Bool.and_eq_true, Bool.not_eq_true', List.isEmpty_eq_false_iff] at counts
      exact ⟨_, _, .exactly ⟨counts.1, digits⟩, (split text).symm, counts.2⟩
  · rintro ⟨count, behind, isCount, rfl, closes⟩
    have stop := head_of_closesRepetition closes
    cases isCount with
    | exactly isNumber =>
        rw [countsRepetition_closed isNumber.2 closes]
        simpa using isNumber.1
    | @atLeast least isNumber =>
        have counted : countsRepetition (least ++ ',' :: ([] ++ behind)) = _ :=
          countsRepetition_comma isNumber.2 (by simp) stop
        rw [List.append_assoc]
        exact counted.trans (by simp [closes, isNumber.1])
    | between isLeast isGreatest =>
        rw [List.append_assoc, List.cons_append, countsRepetition_comma isLeast.2 isGreatest.2 stop]
        simp [closes, isLeast.1]
    | @atMost greatest isNumber =>
        have counted : countsRepetition ([] ++ ',' :: (greatest ++ behind)) = _ :=
          countsRepetition_comma (by simp) isNumber.2 stop
        exact counted.trans (by simp [closes, isNumber.1])

theorem hasBoundedRepetition_append {part : Text} (noBrace : '\x7b' ∉ part) (rest : Text) :
    hasBoundedRepetition (part ++ rest) = hasBoundedRepetition rest := by
  induction part with
  | nil => rfl
  | cons c part inductionHypothesis =>
      rw [List.mem_cons, not_or] at noBrace
      rw [List.cons_append, hasBoundedRepetition, inductionHypothesis noBrace.2,
        beq_false_of_ne (Ne.symm noBrace.1), Bool.false_and, Bool.false_or]

/-- A repetition begins in the writing of a brace only. -/
theorem hasBoundedRepetition_encodeFilter (c : Char) (rest : Text) :
    hasBoundedRepetition (Pattern.encodeFilter c ++ rest) =
      ((c == '\x7b' && countsRepetition rest) || hasBoundedRepetition rest) := by
  have other (part : Text) (noBrace : '\x7b' ∉ part) (apart : c ≠ '\x7b') :
      hasBoundedRepetition (part ++ rest) =
        ((c == '\x7b' && countsRepetition rest) || hasBoundedRepetition rest) := by
    rw [hasBoundedRepetition_append noBrace, beq_false_of_ne apart, Bool.false_and, Bool.false_or]
  rcases Pattern.encodeFilter_cases c with
    ⟨-, same⟩ | ⟨isStar, same⟩ | ⟨isCircumflex, same⟩ | ⟨plain, same⟩ <;> rw [same]
  · simp [hasBoundedRepetition]
  · exact other _ (by decide) (isStar ▸ by decide)
  · exact other _ (by decide) (isCircumflex ▸ by decide)
  · have apart : c ≠ '\x7b' := by
      rintro rfl
      exact absurd plain (by decide)
    exact other _ (by simpa using apart.symm) apart

/-- Digits and commas of a filter stand for themselves in the text that it is written from. -/
theorem exists_append_of_flatMap {count : Text} (chars : ∀ c ∈ count, inCount c = true)
    {text last behind : Text} (atEnd : ∀ c, last.head? = some c → c = '$' ∨ c = '\\')
    (same : text.flatMap Pattern.encodeFilter ++ last = count ++ behind) :
    ∃ rest, text = count ++ rest ∧ behind = rest.flatMap Pattern.encodeFilter ++ last := by
  induction count generalizing text with
  | nil => exact ⟨text, rfl, same.symm⟩
  | cons c count inductionHypothesis =>
      have kept := chars c List.mem_cons_self
      cases text with
      | nil =>
          rcases atEnd c (congrArg List.head? same) with rfl | rfl
          · exact absurd kept (by decide)
          · exact absurd kept (by decide)
      | cons d text =>
          rw [List.flatMap_cons, List.append_assoc] at same
          -- Only a character that is written as itself begins with a digit or a comma.
          rcases Pattern.encodeFilter_cases d with
            ⟨-, encoded⟩ | ⟨-, encoded⟩ | ⟨-, encoded⟩ | ⟨-, encoded⟩ <;>
            rw [encoded] at same
          · obtain rfl := (List.cons.inj same).1
            exact absurd kept (by decide)
          · obtain rfl := (List.cons.inj same).1
            exact absurd kept (by decide)
          · obtain rfl := (List.cons.inj same).1
            exact absurd kept (by decide)
          · obtain ⟨rfl, sameRest⟩ := List.cons.inj same
            obtain ⟨rest, rfl, found⟩ := inductionHypothesis
              (fun later member => chars later (List.mem_cons_of_mem d member)) sameRest
            exact ⟨rest, rfl, found⟩

theorem encodeFilter_of_inCount {c : Char} (kept : inCount c = true) :
    Pattern.encodeFilter c = [c] := by
  have noSpecial : ("|.$+?\x7b\x7d()[]\\".toList.any inCount) = false := by decide
  rcases Pattern.encodeFilter_cases c with ⟨special, -⟩ | ⟨rfl, -⟩ | ⟨rfl, -⟩ | ⟨-, encoded⟩
  · have found := List.any_eq_true.mpr ⟨c, List.contains_iff_mem.mp special, kept⟩
    rw [noSpecial] at found
    cases found
  · exact absurd kept (by decide)
  · exact absurd kept (by decide)
  · exact encoded

theorem flatMap_encodeFilter_of_chars {count : Text} (chars : ∀ c ∈ count, inCount c = true) :
    count.flatMap Pattern.encodeFilter = count := by
  induction count with
  | nil => rfl
  | cons c count inductionHypothesis =>
      rw [List.flatMap_cons, encodeFilter_of_inCount (chars c List.mem_cons_self),
        inductionHypothesis fun later member => chars later (List.mem_cons_of_mem c member)]
      rfl

variable {text last : Text}

theorem closesRepetition_escape (c : Char) (rest : Text) :
    closesRepetition ('\\' :: c :: rest) = (c == '\x7d') := by
  by_cases brace : c = '\x7d'
  · subst brace
    rfl
  · rw [beq_false_of_ne brace]
    unfold closesRepetition
    split
    case h_1 found => cases (List.cons.inj found).1
    case h_2 found => exact absurd (List.cons.inj (List.cons.inj found).2).1 brace
    case h_3 => rfl

theorem closesRepetition_plain {c : Char} (plain : Pattern.isSpecial c = false) (rest : Text) :
    closesRepetition (c :: rest) = false := by
  unfold closesRepetition
  split
  case h_1 found => exact absurd ((List.cons.inj found).1 ▸ plain) (by decide)
  case h_2 found => exact absurd ((List.cons.inj found).1 ▸ plain) (by decide)
  case h_3 => rfl

/-- A closing brace is written behind a backslash, which closes a repetition all the same. -/
theorem closesRepetition_flatMap (ends : last = [] ∨ last = ['$'] ∨ last = ['\\']) :
    closesRepetition (text.flatMap Pattern.encodeFilter ++ last) = text.startsWith ['\x7d'] := by
  cases text with
  | nil => rcases ends with rfl | rfl | rfl <;> rfl
  | cons c text =>
      have begins : Text.startsWith (c :: text) ['\x7d'] = (c == '\x7d') :=
        (Bool.and_true _).trans BEq.comm
      rw [begins, List.flatMap_cons, List.append_assoc]
      rcases Pattern.encodeFilter_cases c with
        ⟨-, encoded⟩ | ⟨rfl, encoded⟩ | ⟨rfl, encoded⟩ | ⟨plain, encoded⟩ <;> rw [encoded]
      · exact closesRepetition_escape c _
      · rfl
      · rfl
      · have noBrace : c ≠ '\x7d' := by
          rintro rfl
          exact absurd plain (by decide)
        rw [beq_false_of_ne noBrace]
        exact closesRepetition_plain plain _

theorem countsRepetition_flatMap (ends : last = [] ∨ last = ['$'] ∨ last = ['\\']) :
    countsRepetition (text.flatMap Pattern.encodeFilter ++ last) = true ↔
      ∃ count, Count count ∧ count ++ ['\x7d'] <+: text := by
  rw [countsRepetition_iff]
  constructor
  · rintro ⟨count, behind, isCount, same, closes⟩
    have atEnd : ∀ c, last.head? = some c → c = '$' ∨ c = '\\' := by
      rcases ends with rfl | rfl | rfl <;> simp
    obtain ⟨rest, rfl, rfl⟩ := exists_append_of_flatMap isCount.chars atEnd same
    rw [closesRepetition_flatMap ends] at closes
    obtain ⟨later, rfl⟩ := List.isPrefixOf_iff_prefix.mp closes
    exact ⟨count, isCount, later, by simp⟩
  · rintro ⟨count, isCount, later, rfl⟩
    refine ⟨count, ('\x7d' :: later).flatMap Pattern.encodeFilter ++ last, isCount, ?_, ?_⟩
    · rw [List.append_assoc, List.flatMap_append, flatMap_encodeFilter_of_chars isCount.chars,
        List.append_assoc]
      rfl
    · rw [closesRepetition_flatMap ends]
      rfl

theorem holdsCount_cons_iff {c : Char} :
    HoldsCount (c :: text) ↔
      (c = '\x7b' ∧ ∃ count, Count count ∧ count ++ ['\x7d'] <+: text) ∨ HoldsCount text := by
  simp only [HoldsCount, List.infix_cons_iff, List.cons_prefix_cons, and_or_left, exists_or]
  refine or_congr_left ?_
  constructor
  · rintro ⟨count, isCount, rfl, begins⟩
    exact ⟨rfl, count, isCount, begins⟩
  · rintro ⟨rfl, count, isCount, begins⟩
    exact ⟨count, isCount, rfl, begins⟩

theorem not_holdsCount_of_not_mem (noBrace : '\x7b' ∉ text) : ¬HoldsCount text := by
  rintro ⟨count, -, before, after, rfl⟩
  exact noBrace (by simp)

/-- A filter counts repetitions just where its text has a count in braces. -/
theorem hasBoundedRepetition_flatMap (ends : last = [] ∨ last = ['$'] ∨ last = ['\\']) :
    hasBoundedRepetition (text.flatMap Pattern.encodeFilter ++ last) = true ↔ HoldsCount text := by
  induction text with
  | nil =>
      have none : ¬HoldsCount [] := not_holdsCount_of_not_mem (by simp)
      rcases ends with rfl | rfl | rfl <;> exact iff_of_false (by decide) none
  | cons c text inductionHypothesis =>
      rw [List.flatMap_cons, List.append_assoc, hasBoundedRepetition_encodeFilter,
        holdsCount_cons_iff, Bool.or_eq_true, Bool.and_eq_true, beq_iff_eq,
        countsRepetition_flatMap ends, inductionHypothesis]

end Counts

/-- Repetitions are looked for first, and bars only where there are none. -/
theorem ofPattern_eq_boundedRepetition_iff {pattern : Text} :
    ofPattern pattern = .error (.foreignRegex .boundedRepetition) ↔
      hasBoundedRepetition (replacePair '|' '$' [] pattern) = true := by
  unfold ofPattern
  dsimp only
  split
  case isTrue counts => exact iff_of_true rfl counts
  case isFalse noCount =>
    refine iff_of_false ?_ noCount
    split <;> intro same <;> cases same

theorem hasBareBar_of_ofPattern {pattern : Text}
    (refused : ofPattern pattern = .error (.foreignRegex .alternation)) :
    hasBareBar (replacePair '|' '$' [] pattern) = true := by
  unfold ofPattern at refused
  dsimp only at refused
  split at refused
  case isTrue => cases refused
  split at refused
  case isTrue bar => exact bar
  case isFalse => cases refused

end UrlFilter

namespace Pattern

/-- A bar that the end anchor takes away belongs to no count. -/
theorem FilterText.holdsCount_iff {pattern : Pattern} {text last : Text}
    (filterText : FilterText pattern text last) :
    UrlFilter.HoldsCount text ↔ UrlFilter.HoldsCount pattern.text := by
  cases filterText with
  | whole => exact Iff.rfl
  | bar _ ends =>
      rw [ends]
      constructor
      · rintro ⟨count, isCount, inside⟩
        exact ⟨count, isCount, inside.trans (List.prefix_append text ['|']).isInfix⟩
      · rintro ⟨count, isCount, before, after, same⟩
        rcases List.eq_nil_or_concat after with rfl | ⟨inside, c, rfl⟩
        · rw [List.append_nil, ← List.cons_append, ← List.append_assoc] at same
          cases (List.append_inj' same rfl).2
        · rw [List.concat_eq_append, ← List.append_assoc] at same
          exact ⟨count, isCount, before, inside, (List.append_inj' same rfl).1⟩

/-- What is derived from a pattern has no bare bar, and it counts repetitions just where the normal
form of the pattern has a count in braces. -/
theorem derive_translates {pattern : Pattern} {matchCase : Bool} {derived : Text}
    (derives : pattern.derive matchCase = .ok derived) :
    UrlFilter.hasBareBar (replacePair '|' '$' [] derived) = false ∧
      ∃ normal, pattern.trimStars.normalize matchCase = .ok normal ∧
        (UrlFilter.hasBoundedRepetition (replacePair '|' '$' [] derived) = true ↔
          UrlFilter.HoldsCount normal.text) := by
  rcases derive_eq_ok derives with ⟨webSocket, rfl⟩ | ⟨isOpen, rfl⟩ | ⟨-, normal, normalized, rfl⟩
  · refine ⟨by decide, pattern, normalize_of_isWebSocket webSocket matchCase, ?_⟩
    refine iff_of_false (by decide) (UrlFilter.not_holdsCount_of_not_mem ?_)
    rcases (isWebSocket_iff.mp webSocket).2 with text | text <;> rw [text] <;> decide
  · refine ⟨by decide, pattern.trimStars, normalize_of_isOpen isOpen matchCase, ?_⟩
    refine iff_of_false (by decide) (UrlFilter.not_holdsCount_of_not_mem ?_)
    rw [(isOpen_iff.mp isOpen).1]
    simp
  · obtain ⟨text, last, filterText, deleted⟩ := exists_filterText normal
    have noBar : UrlFilter.hasBareBar last = false := by
      rcases filterText.last_cases with rfl | rfl | rfl <;> rfl
    have noBrace : '\x7b' ∉ leftRegex normal.left := by
      rcases normal.left with - | - | - <;> decide
    rw [deleted, UrlFilter.hasBareBar_leftRegex, UrlFilter.hasBareBar_flatMap, noBar,
      UrlFilter.hasBoundedRepetition_append noBrace]
    exact ⟨rfl, normal, normalized,
      (UrlFilter.hasBoundedRepetition_flatMap filterText.last_cases).trans
        filterText.holdsCount_iff⟩

end Pattern

namespace UrlRule

/-- A plain pattern is never refused for a bar, and it is refused for bounded repetition just where
its normal form has a count in braces. -/
theorem plainPattern_refused_iff {line : Text} {rule : UrlRule} (parsed : parse line = .ok rule)
    (plain : rule.pattern.regex = none) :
    UrlFilter.ofPattern rule.pattern.urlFilter ≠ .error (.foreignRegex .alternation) ∧
      ∃ normal, (Pattern.ofRaw rule.pattern.raw).trimStars.normalize rule.matchCase =
          .ok normal ∧
        (UrlFilter.ofPattern rule.pattern.urlFilter = .error (.foreignRegex .boundedRepetition) ↔
          UrlFilter.HoldsCount normal.text) := by
  have derives := derive_of_plain parsed plain
  obtain ⟨noBar, normal, normalized, counts⟩ := Pattern.derive_translates derives
  refine ⟨fun refused => ?_, normal, normalized, ?_⟩
  · have bar := UrlFilter.hasBareBar_of_ofPattern refused
    rw [noBar] at bar
    cases bar
  · exact UrlFilter.ofPattern_eq_boundedRepetition_iff.trans counts

/-- The rule for images behind a host, a count in braces and a bar at the end of the URL. -/
def countRule : UrlRule :=
  ofParts "||Ads.example^\x7b2,٣\x7d||$image".toList
    ⟨none,
      some "^[^:]+:(//)?([^/]+\\.)?ads\\.example([^a-zA-Z0-9_.%-]|$)\\\x7b2,٣\\\x7d\\|$".toList,
      "||Ads.example^\x7b2,٣\x7d||".toList⟩
    { OptionSet.empty with wanted := .image }

theorem plainPattern_refused_count :
    parse countRule.line = .ok countRule ∧ countRule.pattern.regex = none ∧
      UrlFilter.HoldsCount "ads.example^\x7b2,٣\x7d|".toList ∧
      UrlFilter.ofPattern countRule.pattern.urlFilter =
        .error (.foreignRegex .boundedRepetition) := by
  have parsed : parse countRule.line = .ok countRule := by decide +kernel
  obtain ⟨-, normal, normalized, refused⟩ := plainPattern_refused_iff parsed rfl
  have written : (Pattern.ofRaw countRule.pattern.raw).trimStars.normalize countRule.matchCase =
      .ok ⟨some .hostname, "ads.example^\x7b2,٣\x7d|".toList, true⟩ := by decide +kernel
  obtain rfl := Except.ok.inj (normalized.symm.trans written)
  have isLeast : UrlFilter.IsNumber ['2'] :=
    ⟨List.cons_ne_nil _ _, List.forall_mem_singleton.mpr (by decide)⟩
  have isGreatest : UrlFilter.IsNumber ['٣'] :=
    ⟨List.cons_ne_nil _ _, List.forall_mem_singleton.mpr (by decide)⟩
  have holdsCount : UrlFilter.HoldsCount "ads.example^\x7b2,٣\x7d|".toList :=
    ⟨_, .between isLeast isGreatest, "ads.example^".toList, "|".toList, by decide⟩
  exact ⟨parsed, rfl, holdsCount, refused.mpr holdsCount⟩

end UrlRule

end Blocklist
