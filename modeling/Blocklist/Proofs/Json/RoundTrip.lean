/-
This file shows that a value without numbers is read back from its indented text. Strings are
read back character by character, and containers part by part.
-/

import Blocklist.Json.Reader
import Blocklist.Json.Writer

namespace Blocklist.Json

theorem hexValue?_hexDigit {digit : Nat} (inRange : digit < 16) :
    hexValue? (hexDigit digit) = some digit := by
  have every : ∀ value ∈ List.range 16, hexValue? (hexDigit value) = some value := by decide
  exact every digit (List.mem_range.mpr inRange)

theorem fourHex?_hexDigit {code : Nat} (control : code < 32) :
    fourHex? '0' '0' (hexDigit (code / 16)) (hexDigit (code % 16)) = some code := by
  have zero : hexValue? '0' = some 0 := by decide
  have high : hexValue? (hexDigit (code / 16)) = some (code / 16) :=
    hexValue?_hexDigit (by omega)
  have low : hexValue? (hexDigit (code % 16)) = some (code % 16) := hexValue?_hexDigit (by omega)
  simp only [fourHex?, zero, high, low, Option.bind_eq_bind, Option.bind_some, Option.pure_def,
    Option.some.injEq]
  omega

theorem units?_named {name c : Char} (notCoded : name ≠ 'u') (named : namedEscape? name = some c)
    (rest : Text) :
    units? ('\\' :: name :: rest) =
      (units? rest).map fun (others, behind) => (c.toNat :: others, behind) := by
  rw [units?]
  · rw [named]
    cases units? rest <;> rfl
  · intro first second third fourth behind coded
    exact absurd coded notCoded

theorem units?_coded {code : Nat} (control : code < 32) (rest : Text) :
    units? (['\\', 'u', '0', '0', hexDigit (code / 16), hexDigit (code % 16)] ++ rest) =
      (units? rest).map fun (others, behind) => (code :: others, behind) := by
  simp only [List.cons_append, List.nil_append]
  rw [units?, fourHex?_hexDigit control]
  cases units? rest <;> rfl

theorem units?_plain {c : Char} (notQuote : c ≠ '"') (notBackslash : c ≠ '\\')
    (notControl : ¬ c.toNat < 32) (rest : Text) :
    units? (c :: rest) =
      (units? rest).map fun (others, behind) => (c.toNat :: others, behind) := by
  rw [units?]
  · rw [if_neg (by simp [notControl, notBackslash])]
    cases units? rest <;> rfl
  · exact notQuote
  · intro first second third fourth behind backslash
    exact absurd backslash notBackslash
  · intro name behind backslash
    exact absurd backslash notBackslash

/-- An escaped character yields its code point. -/
theorem units?_escape (c : Char) (rest : Text) :
    units? (escape c ++ rest) =
      (units? rest).map fun (others, behind) => (c.toNat :: others, behind) := by
  unfold escape
  split
  case isTrue quote =>
    subst quote
    exact units?_named (by decide) rfl rest
  split
  case isTrue backslash =>
    subst backslash
    exact units?_named (by decide) rfl rest
  split
  case isTrue backspace =>
    subst backspace
    exact units?_named (by decide) rfl rest
  split
  case isTrue formFeed =>
    subst formFeed
    exact units?_named (by decide) rfl rest
  split
  case isTrue lineFeed =>
    subst lineFeed
    exact units?_named (by decide) rfl rest
  split
  case isTrue carriageReturn =>
    subst carriageReturn
    exact units?_named (by decide) rfl rest
  split
  case isTrue tab =>
    subst tab
    exact units?_named (by decide) rfl rest
  split
  case isTrue control => exact units?_coded control rest
  case isFalse notQuote notBackslash _ _ _ _ _ notControl =>
    exact units?_plain notQuote notBackslash notControl rest

theorem units?_escapes (text rest : Text) :
    units? (text.flatMap escape ++ '"' :: rest) = some (text.map Char.toNat, rest) := by
  induction text with
  | nil => simp [units?]
  | cons c text inductionHypothesis =>
      rw [List.flatMap_cons, List.append_assoc, units?_escape, inductionHypothesis]
      rfl

/-- The code point of a character is no half of a pair. -/
theorem joinUnits?_toNat (text : Text) : joinUnits? (text.map Char.toNat) = some text := by
  induction text with
  | nil => rfl
  | cons c text inductionHypothesis =>
      have valid : c.toNat < 0xD800 ∨ 0xDFFF < c.toNat ∧ c.toNat < 0x110000 := c.valid
      rw [List.map_cons, joinUnits?.eq_def]
      dsimp only
      rw [if_neg (by omega), if_neg (by omega), inductionHypothesis, Char.ofNat_toNat]
      rfl

theorem string?_escapes (text rest : Text) :
    string? (text.flatMap escape ++ '"' :: rest) = some (text, rest) := by
  rw [string?, units?_escapes]
  simp [joinUnits?_toNat]

theorem skipSpace_append {blanks : Text} (blank : blanks.all isSpace = true) (text : Text) :
    skipSpace (blanks ++ text) = skipSpace text :=
  List.dropWhile_append_of_pos fun c member => List.all_eq_true.mp blank c member

theorem skipSpace_cons {c : Char} (visible : isSpace c = false) (text : Text) :
    skipSpace (c :: text) = c :: text :=
  List.dropWhile_cons_of_neg (by simp [visible])

theorem newLine_blank (depth : Nat) : (newLine depth).all isSpace = true := by
  rw [newLine, List.all_cons, List.all_replicate]
  simp [isSpace]

theorem newLine_length (depth : Nat) : (newLine depth).length = depth + 1 := by
  simp [newLine]

theorem value?_blanks {blanks : Text} (blank : blanks.all isSpace = true) (fuel : Nat)
    (text : Text) : value? fuel (blanks ++ text) = value? fuel text := by
  cases fuel with
  | zero => rw [value?, value?]
  | succ fuel => rw [value?, value?, skipSpace_append blank]

theorem items?_blanks {blanks : Text} (blank : blanks.all isSpace = true) (fuel : Nat)
    (text : Text) : items? fuel (blanks ++ text) = items? fuel text := by
  cases fuel with
  | zero => rw [items?, items?]
  | succ fuel => rw [items?, items?, value?_blanks blank]

theorem members?_blanks {blanks : Text} (blank : blanks.all isSpace = true) (fuel : Nat)
    (text : Text) : members? fuel (blanks ++ text) = members? fuel text := by
  cases fuel with
  | zero => rw [members?, members?]
  | succ fuel => rw [members?, members?, skipSpace_append blank]

theorem value?_quote (fuel : Nat) (rest : Text) :
    value? (fuel + 1) ('"' :: rest) =
      (string? rest).map fun (value, behind) => (.text value, behind) := by
  rw [value?, skipSpace_cons (by decide)]
  rfl

theorem value?_bracket (fuel : Nat) (rest : Text) :
    value? (fuel + 1) ('[' :: rest) =
      match skipSpace rest with
      | ']' :: behind => some (.array [], behind)
      | start => (items? fuel start).map fun (items, behind) => (.array items, behind) := by
  rw [value?, skipSpace_cons (by decide)]
  rfl

theorem value?_brace (fuel : Nat) (rest : Text) :
    value? (fuel + 1) ('\x7b' :: rest) =
      match skipSpace rest with
      | '\x7d' :: behind => some (.object [], behind)
      | start => (members? fuel start).map fun (members, behind) => (.object members, behind) := by
  rw [value?, skipSpace_cons (by decide)]
  rfl

theorem value?_items {first : Char} (visible : isSpace first = false) (opens : first ≠ ']')
    {blanks : Text} (blank : blanks.all isSpace = true) (fuel : Nat) (rest : Text) :
    value? (fuel + 1) ('[' :: (blanks ++ first :: rest)) =
      (items? fuel (first :: rest)).map fun (items, behind) => (.array items, behind) := by
  rw [value?_bracket, skipSpace_append blank, skipSpace_cons visible]
  split
  case h_1 same => exact absurd (List.cons.inj same).1 opens
  case h_2 => rfl

theorem value?_members {blanks : Text} (blank : blanks.all isSpace = true) (fuel : Nat)
    (rest : Text) :
    value? (fuel + 1) ('\x7b' :: (blanks ++ '"' :: rest)) =
      (members? fuel ('"' :: rest)).map fun (members, behind) => (.object members, behind) := by
  rw [value?_brace, skipSpace_append blank, skipSpace_cons (by decide)]
  rfl

theorem items?_close {fuel : Nat} {text rest behind : Text} {item : Value}
    (read : value? fuel text = some (item, rest)) (closed : skipSpace rest = ']' :: behind) :
    items? (fuel + 1) text = some ([item], behind) := by
  rw [items?, read]
  simp only [Option.bind_eq_bind, Option.bind_some, closed]
  rfl

theorem items?_comma {fuel : Nat} {text rest more : Text} {item : Value}
    (read : value? fuel text = some (item, rest)) (continued : skipSpace rest = ',' :: more) :
    items? (fuel + 1) text =
      (items? fuel more).map fun (items, behind) => (item :: items, behind) := by
  rw [items?, read]
  simp only [Option.bind_eq_bind, Option.bind_some, continued]
  cases items? fuel more <;> rfl

/-- A member is its key in quotes, a colon and its value. -/
theorem members?_close {fuel : Nat} {key start rest behind : Text} {value : Value}
    (read : value? fuel start = some (value, rest)) (closed : skipSpace rest = '\x7d' :: behind) :
    members? (fuel + 1) (quote key ++ ':' :: start) = some ([(key, value)], behind) := by
  rw [members?, quote, List.cons_append, skipSpace_cons (by decide), List.append_assoc,
    List.singleton_append]
  simp only [string?_escapes, Option.bind_eq_bind, Option.bind_some]
  rw [skipSpace_cons (by decide)]
  simp only [read, Option.bind_some, closed]
  rfl

theorem members?_comma {fuel : Nat} {key start rest more : Text} {value : Value}
    (read : value? fuel start = some (value, rest)) (continued : skipSpace rest = ',' :: more) :
    members? (fuel + 1) (quote key ++ ':' :: start) =
      (members? fuel more).map fun (members, behind) => ((key, value) :: members, behind) := by
  rw [members?, quote, List.cons_append, skipSpace_cons (by decide), List.append_assoc,
    List.singleton_append]
  simp only [string?_escapes, Option.bind_eq_bind, Option.bind_some]
  rw [skipSpace_cons (by decide)]
  simp only [read, Option.bind_some, continued]
  cases members? fuel more <;> rfl

namespace Value

/-- The indented text of the value begins with a visible character and is read back, given twice
as much fuel as it is long. -/
structure Readable (value : Value) : Prop where
  begins : ∀ depth, ∃ first rest, value.indented depth = first :: rest ∧
    isSpace first = false ∧ first ≠ ']'
  reads : ∀ fuel depth rest, 2 * (value.indented depth).length ≤ fuel →
    value? fuel (value.indented depth ++ rest) = some (value, rest)

theorem readable_bool (value : Bool) : Readable (.bool value) := by
  constructor
  · intro depth
    cases value <;> exact ⟨_, _, rfl, by decide, by decide⟩
  · intro fuel depth rest enough
    cases fuel with
    | zero => cases value <;> simp [indented] at enough
    | succ fuel => cases value <;> rfl

theorem readable_text (value : Text) : Readable (.text value) := by
  constructor
  · intro depth
    exact ⟨'"', _, by rw [indented, quote], by decide, by decide⟩
  · intro fuel depth rest enough
    cases fuel with
    | zero => simp [indented, quote] at enough
    | succ fuel =>
        rw [indented, quote, List.cons_append, value?_quote, List.append_assoc,
          List.singleton_append, string?_escapes]
        rfl

/-- Items are read up to the bracket behind them; the induction is on the items after the first. -/
theorem items?_indented {items : List Value} {blanks : Text} (depth : Nat)
    (blank : blanks.all isSpace = true) (rest : Text) :
    ∀ (item : Value) (fuel : Nat), (∀ part ∈ item :: items, part.Readable) →
      2 * ((item.indented depth).length + (indentedItems depth items).length) < fuel →
      items? fuel (item.indented depth ++ (indentedItems depth items ++ (blanks ++ ']' :: rest))) =
        some (item :: items, rest) := by
  induction items with
  | nil =>
      intro item fuel readable enough
      have itemReadable := readable item List.mem_cons_self
      cases fuel with
      | zero => omega
      | succ fuel =>
          refine items?_close (itemReadable.reads fuel depth _ (by omega)) ?_
          rw [indentedItems, List.nil_append, skipSpace_append blank, skipSpace_cons (by decide)]
  | cons next items inductionHypothesis =>
      intro item fuel readable enough
      have itemReadable := readable item List.mem_cons_self
      have othersReadable : ∀ part ∈ next :: items, part.Readable := fun part member =>
        readable part (List.mem_cons_of_mem item member)
      rw [indentedItems] at enough ⊢
      simp only [List.length_append, List.length_cons, newLine_length] at enough
      simp only [List.cons_append, List.append_assoc]
      cases fuel with
      | zero => omega
      | succ fuel =>
          rw [items?_comma (itemReadable.reads fuel depth _ (by omega)) (skipSpace_cons rfl _),
            items?_blanks (newLine_blank depth),
            inductionHypothesis next fuel othersReadable (by omega)]
          rfl

theorem readable_array {items : List Value} (readable : ∀ item ∈ items, item.Readable) :
    Readable (.array items) := by
  cases items with
  | nil =>
      constructor
      · intro depth
        exact ⟨'[', _, rfl, by decide, by decide⟩
      · intro fuel depth rest enough
        cases fuel with
        | zero => simp [indented] at enough
        | succ fuel => exact value?_bracket fuel (']' :: rest)
  | cons item items =>
      constructor
      · intro depth
        exact ⟨'[', _, by rw [indented], by decide, by decide⟩
      · intro fuel depth rest enough
        rw [indented] at enough ⊢
        simp only [List.length_append, List.length_cons, newLine_length] at enough
        simp only [List.cons_append, List.append_assoc, List.nil_append]
        cases fuel with
        | zero => omega
        | succ fuel =>
            obtain ⟨first, tail, begins, visible, opens⟩ :=
              (readable item List.mem_cons_self).begins (depth + 1)
            have read := items?_indented (depth + 1) (newLine_blank depth) rest item fuel readable
              (by omega)
            rw [begins, List.cons_append] at read ⊢
            rw [value?_items visible opens (newLine_blank (depth + 1)), read]
            rfl

theorem Readable.reads_behindBlank {value : Value} (readable : value.Readable) {fuel depth : Nat}
    (rest : Text) (enough : 2 * (value.indented depth).length ≤ fuel) :
    value? fuel (' ' :: (value.indented depth ++ rest)) = some (value, rest) := by
  have blank : ([' '] : Text).all isSpace = true := rfl
  rw [← List.singleton_append, value?_blanks blank, readable.reads fuel depth rest enough]

/-- Members are read up to the brace behind them; the induction is on those after the first. -/
theorem members?_indented {members : List (Text × Value)} {blanks : Text} (depth : Nat)
    (blank : blanks.all isSpace = true) (rest : Text) :
    ∀ (key : Text) (value : Value) (fuel : Nat),
      (∀ part ∈ (key, value) :: members, part.2.Readable) →
      2 * ((value.indented depth).length + (indentedMembers depth members).length) < fuel →
      members? fuel (quote key ++ ':' :: ' ' :: (value.indented depth ++
        (indentedMembers depth members ++ (blanks ++ '\x7d' :: rest)))) =
          some ((key, value) :: members, rest) := by
  induction members with
  | nil =>
      intro key value fuel readable enough
      have valueReadable : value.Readable := readable (key, value) List.mem_cons_self
      cases fuel with
      | zero => omega
      | succ fuel =>
          refine members?_close (valueReadable.reads_behindBlank _ (by omega)) ?_
          rw [indentedMembers, List.nil_append, skipSpace_append blank, skipSpace_cons (by decide)]
  | cons next members inductionHypothesis =>
      intro key value fuel readable enough
      obtain ⟨nextKey, nextValue⟩ := next
      have valueReadable : value.Readable := readable (key, value) List.mem_cons_self
      have othersReadable : ∀ part ∈ (nextKey, nextValue) :: members, part.2.Readable :=
        fun part member => readable part (List.mem_cons_of_mem (key, value) member)
      rw [indentedMembers] at enough ⊢
      simp only [List.length_append, List.length_cons, newLine_length] at enough
      simp only [List.cons_append, List.append_assoc, List.nil_append]
      cases fuel with
      | zero => omega
      | succ fuel =>
          rw [members?_comma (valueReadable.reads_behindBlank _ (by omega)) (skipSpace_cons rfl _),
            members?_blanks (newLine_blank depth),
            inductionHypothesis nextKey nextValue fuel othersReadable (by omega)]
          rfl

theorem readable_object {members : List (Text × Value)}
    (readable : ∀ part ∈ members, part.2.Readable) : Readable (.object members) := by
  cases members with
  | nil =>
      constructor
      · intro depth
        exact ⟨'\x7b', _, rfl, by decide, by decide⟩
      · intro fuel depth rest enough
        cases fuel with
        | zero => simp [indented] at enough
        | succ fuel => exact value?_brace fuel ('\x7d' :: rest)
  | cons first members =>
      obtain ⟨key, value⟩ := first
      constructor
      · intro depth
        exact ⟨'\x7b', _, by rw [indented], by decide, by decide⟩
      · intro fuel depth rest enough
        rw [indented] at enough ⊢
        simp only [List.length_append, List.length_cons, newLine_length] at enough
        simp only [List.cons_append, List.append_assoc, List.nil_append]
        cases fuel with
        | zero => omega
        | succ fuel =>
            have read := members?_indented (depth + 1) (newLine_blank depth) rest key value fuel
              readable (by omega)
            rw [quote, List.cons_append] at read ⊢
            rw [value?_members (newLine_blank (depth + 1)), read]
            rfl

/-- The fuel of the reader is enough for a text that was written. -/
theorem read?_indented {value : Value} (readable : value.Readable) :
    read? (value.indented 0) = some value := by
  have read := readable.reads (2 * (value.indented 0).length + 2) 0 [] (by omega)
  rw [List.append_nil] at read
  rw [read?, read]
  rfl

end Value

end Blocklist.Json
