/-
This file says where a selector has pseudo-classes: behind the colons that stand at its top level,
that is, behind whole escapes, strings and groups in brackets.
-/

import Blocklist.Filter.Selector

namespace Blocklist.Selector

/-- The inside of a string, in which a backslash shields the next character. -/
inductive Quoted (quote : Char) : Text → Prop
  | nil : Quoted quote []
  | escape (c : Char) {rest : Text} (others : Quoted quote rest) :
      Quoted quote ('\\' :: c :: rest)
  | plain {c : Char} {rest : Text} (noEscape : c ≠ '\\') (inside : c ≠ quote)
      (others : Quoted quote rest) : Quoted quote (c :: rest)

/-- A part of a selector that opens no escape, string or group which it does not close. A closing
bracket is plain outside of groups. -/
inductive Whole : (inGroup : Bool) → Text → Prop
  | nil {inGroup : Bool} : Whole inGroup []
  | escape {inGroup : Bool} (c : Char) {rest : Text} (others : Whole inGroup rest) :
      Whole inGroup ('\\' :: c :: rest)
  | string {inGroup : Bool} {quote : Char} {inside rest : Text}
      (opens : quote = '"' ∨ quote = '\x27') (quoted : Quoted quote inside)
      (others : Whole inGroup rest) : Whole inGroup (quote :: inside ++ quote :: rest)
  | group {inGroup : Bool} {inside rest : Text} (grouped : Whole true inside)
      (others : Whole inGroup rest) : Whole inGroup ('[' :: inside ++ ']' :: rest)
  | plain {inGroup : Bool} {c : Char} {rest : Text} (noMark : c ∉ ['\\', '"', '\x27', '['])
      (inside : inGroup = true → c ≠ ']') (others : Whole inGroup rest) :
      Whole inGroup (c :: rest)

namespace Scan

variable {depth : Nat} {quote : Option Char} {c : Char}

@[simp] theorem step_escaped : step ⟨true, quote, depth⟩ c = ⟨false, quote, depth⟩ := rfl

@[simp] theorem step_backslash : step ⟨false, quote, depth⟩ '\\' = ⟨true, quote, depth⟩ := rfl

@[simp] theorem step_quote (opens : c = '"' ∨ c = '\x27') :
    step ⟨false, none, depth⟩ c = ⟨false, some c, depth⟩ := by
  rcases opens with rfl | rfl <;> rfl

@[simp] theorem step_open : step ⟨false, none, depth⟩ '[' = ⟨false, none, depth + 1⟩ := rfl

@[simp] theorem step_close : step ⟨false, none, depth⟩ ']' = ⟨false, none, depth - 1⟩ := rfl

theorem step_plain (noMark : c ∉ ['\\', '"', '\x27', '[']) (noEnd : c ≠ ']') :
    step ⟨false, none, depth⟩ c = ⟨false, none, depth⟩ := by
  simp only [List.mem_cons, List.not_mem_nil, or_false, not_or] at noMark
  simp [step, noMark, noEnd]

theorem step_closes {quote : Char} (noEscape : quote ≠ '\\') :
    step ⟨false, some quote, depth⟩ quote = ⟨false, none, depth⟩ := by
  simp [step, noEscape]

theorem step_inside {quote : Char} (noEscape : c ≠ '\\') (inside : c ≠ quote) :
    step ⟨false, some quote, depth⟩ c = ⟨false, some quote, depth⟩ := by
  simp [step, noEscape, inside]

theorem opensPseudoClass_iff {scan : Scan} :
    scan.opensPseudoClass c = true ↔ c = ':' ∧ scan = start := by
  obtain ⟨escaped, quote, depth⟩ := scan
  simp [opensPseudoClass, start, and_assoc]

end Scan

/-- A cut in front of a colon is in front of the first character, or behind it. -/
theorem exists_cut_cons_iff {c : Char} {rest pseudoClass : Text} {scan : Scan} :
    (∃ before, c :: rest = before ++ ':' :: pseudoClass ∧
        before.foldl Scan.step scan = Scan.start) ↔
      (scan.opensPseudoClass c = true ∧ pseudoClass = rest) ∨
        ∃ before, rest = before ++ ':' :: pseudoClass ∧
          before.foldl Scan.step (scan.step c) = Scan.start := by
  constructor
  · intro ⟨before, cut, returns⟩
    rcases List.cons_eq_append_iff.mp cut with ⟨rfl, here⟩ | ⟨behind, rfl, later⟩
    · obtain ⟨rfl, rfl⟩ := List.cons.inj here
      exact .inl ⟨Scan.opensPseudoClass_iff.mpr ⟨rfl, returns⟩, rfl⟩
    · exact .inr ⟨behind, later, returns⟩
  · rintro (⟨opens, rfl⟩ | ⟨before, rfl, returns⟩)
    · obtain ⟨rfl, started⟩ := Scan.opensPseudoClass_iff.mp opens
      exact ⟨[], rfl, started⟩
    · exact ⟨c :: before, rfl, returns⟩

/-- A pseudo-class stands behind a colon to which the scan comes back as it started. -/
theorem mem_pseudoClassesFrom_iff {pseudoClass text : Text} {scan : Scan} :
    pseudoClass ∈ pseudoClassesFrom scan text ↔
      ∃ before, text = before ++ ':' :: pseudoClass ∧ before.foldl Scan.step scan = Scan.start := by
  induction text generalizing scan with
  | nil => simp [pseudoClassesFrom]
  | cons c rest inductionHypothesis =>
      rw [exists_cut_cons_iff, ← inductionHypothesis, pseudoClassesFrom]
      split
      case isTrue opens => rw [List.mem_cons, opens, eq_self, true_and]
      case isFalse closed => simp [closed]

section Returns

variable {depth : Nat}

theorem Quoted.foldl_step {quote : Char} {inside : Text} (quoted : Quoted quote inside) :
    inside.foldl Scan.step ⟨false, some quote, depth⟩ = ⟨false, some quote, depth⟩ := by
  induction quoted with
  | nil => rfl
  | escape c _ inductionHypothesis => simpa using inductionHypothesis
  | plain noEscape inside _ inductionHypothesis =>
      rw [List.foldl_cons, Scan.step_inside noEscape inside, inductionHypothesis]

/-- A whole part leaves the scan as it was, where a group is open if the part is inside of one. -/
theorem Whole.foldl_step {inGroup : Bool} {text : Text} (whole : Whole inGroup text) :
    ∀ depth, (inGroup = true ↔ 0 < depth) →
      text.foldl Scan.step ⟨false, none, depth⟩ = ⟨false, none, depth⟩ := by
  induction whole with
  | nil => intro depth _; rfl
  | escape c _ inductionHypothesis =>
      intro depth grouping
      simpa using inductionHypothesis depth grouping
  | @string _ quote inside rest opens quoted _ inductionHypothesis =>
      intro depth grouping
      have noEscape : quote ≠ '\\' := by rcases opens with rfl | rfl <;> decide
      rw [List.cons_append, List.foldl_cons, Scan.step_quote opens, List.foldl_append,
        quoted.foldl_step, List.foldl_cons, Scan.step_closes noEscape,
        inductionHypothesis depth grouping]
  | group _ _ insideHypothesis inductionHypothesis =>
      intro depth grouping
      rw [List.cons_append, List.foldl_cons, Scan.step_open, List.foldl_append,
        insideHypothesis (depth + 1) (by simp), List.foldl_cons, Scan.step_close,
        Nat.add_sub_cancel, inductionHypothesis depth grouping]
  | @plain inGroup c rest noMark inside _ inductionHypothesis =>
      intro depth grouping
      have kept : Scan.step ⟨false, none, depth⟩ c = ⟨false, none, depth⟩ := by
        by_cases bracket : c = ']'
        · have outside : inGroup ≠ true := fun grouped => inside grouped bracket
          have zero : depth = 0 := by
            rw [ne_eq, grouping] at outside
            omega
          rw [bracket, zero]
          rfl
        · exact Scan.step_plain noMark bracket
      rw [List.foldl_cons, kept, inductionHypothesis depth grouping]

/-- The text closes the groups that are open, one after the other, and is whole apart from that. -/
def Closes : (depth : Nat) → Text → Prop
  | 0, text => Whole false text
  | depth + 1, text =>
      ∃ inside rest, text = inside ++ ']' :: rest ∧ Whole true inside ∧ Closes depth rest

/-- The text closes the string that is open, and then the groups. -/
def ClosesQuote (depth : Nat) : (quote : Option Char) → Text → Prop
  | none, text => Closes depth text
  | some quote, text =>
      ∃ inside rest, text = inside ++ quote :: rest ∧ Quoted quote inside ∧ Closes depth rest

/-- The text closes all that a scan has open. -/
def Scan.ClosedBy (scan : Scan) (text : Text) : Prop :=
  if scan.escaped then ∃ c rest, text = c :: rest ∧ ClosesQuote scan.depth scan.quote rest
  else ClosesQuote scan.depth scan.quote text

/-- What can stand in front of every whole part can stand in front of a text that closes groups. -/
theorem Closes.append (front : Text) {rest : Text}
    (keeps : ∀ inGroup rest, Whole inGroup rest → Whole inGroup (front ++ rest))
    (closes : Closes depth rest) : Closes depth (front ++ rest) := by
  cases depth with
  | zero => exact keeps false rest closes
  | succ depth =>
      obtain ⟨inside, behind, rfl, grouped, closes⟩ := closes
      exact ⟨front ++ inside, behind, by simp, keeps true inside grouped, closes⟩

theorem ClosesQuote.escape {quote : Option Char} {rest : Text} (c : Char)
    (closes : ClosesQuote depth quote rest) : ClosesQuote depth quote ('\\' :: c :: rest) := by
  cases quote with
  | none => exact Closes.append ['\\', c] (fun _ _ => .escape c) closes
  | some quote =>
      obtain ⟨inside, behind, rfl, quoted, closes⟩ := closes
      exact ⟨'\\' :: c :: inside, behind, rfl, .escape c quoted, closes⟩

/-- A character outside of strings is in front of a text that closes what the scan has open behind
it. -/
theorem closes_cons {c : Char} {rest : Text} (noEscape : c ≠ '\\')
    (closed : (Scan.step ⟨false, none, depth⟩ c).ClosedBy rest) : Closes depth (c :: rest) := by
  by_cases opens : c = '"' ∨ c = '\x27'
  · rw [Scan.step_quote opens] at closed
    obtain ⟨inside, behind, rfl, quoted, closes⟩ := closed
    rw [← List.cons_append, List.append_cons]
    apply Closes.append (c :: inside ++ [c]) _ closes
    intro inGroup rest others
    simpa using Whole.string opens quoted others
  by_cases groups : c = '['
  · subst groups
    obtain ⟨inside, behind, rfl, grouped, closes⟩ := closed
    rw [← List.cons_append, List.append_cons]
    apply Closes.append ('[' :: inside ++ [']']) _ closes
    intro inGroup rest others
    simpa using Whole.group grouped others
  have noMark : c ∉ ['\\', '"', '\x27', '['] := by
    rw [not_or] at opens
    simp [noEscape, opens, groups]
  by_cases ends : c = ']'
  · subst ends
    cases depth with
    | zero => exact Whole.plain noMark (by simp) closed
    | succ depth => exact ⟨[], rest, rfl, .nil, closed⟩
  · rw [Scan.step_plain noMark ends] at closed
    exact Closes.append [c] (fun _ _ => .plain noMark fun _ => ends) closed

theorem Scan.closedBy_cons {scan : Scan} {c : Char} {rest : Text}
    (closed : (scan.step c).ClosedBy rest) : scan.ClosedBy (c :: rest) := by
  obtain ⟨escaped, quote, depth⟩ := scan
  cases escaped with
  | true => exact ⟨c, rest, rfl, closed⟩
  | false =>
      change ClosesQuote depth quote (c :: rest)
      by_cases escape : c = '\\'
      · subst escape
        obtain ⟨next, behind, rfl, closes⟩ := closed
        exact closes.escape next
      · cases quote with
        | some quote =>
            by_cases ends : c = quote
            · subst ends
              rw [step_closes escape] at closed
              exact ⟨[], rest, rfl, .nil, closed⟩
            · rw [step_inside escape ends] at closed
              obtain ⟨inside, behind, rfl, quoted, closes⟩ := closed
              exact ⟨c :: inside, behind, rfl, .plain escape ends quoted, closes⟩
        | none =>
            exact closes_cons escape closed

theorem Scan.closedBy_of_foldl {scan : Scan} {text : Text}
    (returns : text.foldl Scan.step scan = Scan.start) : scan.ClosedBy text := by
  induction text generalizing scan with
  | nil =>
      obtain rfl : scan = Scan.start := returns
      exact Whole.nil
  | cons c rest inductionHypothesis => exact closedBy_cons (inductionHypothesis returns)

end Returns

/-- A scan comes back to its start behind whole parts only. -/
theorem foldl_step_eq_start_iff {text : Text} :
    text.foldl Scan.step Scan.start = Scan.start ↔ Whole false text := by
  constructor
  · exact Scan.closedBy_of_foldl
  · intro whole
    exact whole.foldl_step 0 (by simp)

/-- The pseudo-classes of a selector stand behind the colons at its top level. -/
theorem mem_pseudoClasses_iff {selector pseudoClass : Text} :
    pseudoClass ∈ pseudoClasses selector ↔
      ∃ before, selector = before ++ ':' :: pseudoClass ∧ Whole false before := by
  simp only [pseudoClasses, mem_pseudoClassesFrom_iff, foldl_step_eq_start_iff]

end Blocklist.Selector
