/-
This file holds text as a list of characters, with the cuts that the filter syntax needs.
-/

namespace Blocklist

abbrev Text := List Char

namespace Text

/-- The text after a marker at the start, if the marker is there. -/
def after? : (text marker : Text) → Option Text
  | text, [] => some text
  | [], _ :: _ => none
  | c :: text, wanted :: marker => if c = wanted then after? text marker else none

theorem after?_eq_some_iff {text marker rest : Text} :
    after? text marker = some rest ↔ text = marker ++ rest := by
  induction marker generalizing text with
  | nil => simp [after?]
  | cons wanted marker inductionHypothesis =>
      cases text with
      | nil => simp [after?]
      | cons c text =>
          by_cases same : c = wanted
          · simp [after?, same, inductionHypothesis]
          · simp [after?, same]

/-- The text begins with the marker. -/
def startsWith (text marker : Text) : Bool := marker.isPrefixOf text

/-- The text ends with the marker. -/
def endsWith (text marker : Text) : Bool := marker.isSuffixOf text

/-- The part stands somewhere in the text. -/
def holds (text part : Text) : Bool :=
  part.isPrefixOf text ||
    match text with
    | [] => false
    | _ :: rest => holds rest part

theorem holds_iff {text part : Text} : holds text part = true ↔ part <:+: text := by
  induction text with
  | nil => simp [holds, List.isPrefixOf_iff_prefix]
  | cons c rest inductionHypothesis =>
      rw [holds, Bool.or_eq_true, List.isPrefixOf_iff_prefix, inductionHypothesis,
        List.infix_cons_iff]

/-- Text before and after the first occurrence of a character. -/
def cutFirst? (mark : Char) : Text → Option (Text × Text)
  | [] => none
  | c :: rest =>
      if c = mark then some ([], rest)
      else (cutFirst? mark rest).map fun (before, behind) => (c :: before, behind)

/-- Text before and after the last occurrence of a character. -/
def cutLast? (mark : Char) : Text → Option (Text × Text)
  | [] => none
  | c :: rest =>
      match cutLast? mark rest with
      | some (before, behind) => some (c :: before, behind)
      | none => if c = mark then some ([], rest) else none

theorem cutFirst?_eq_some_iff {mark : Char} {text before behind : Text} :
    cutFirst? mark text = some (before, behind) ↔
      text = before ++ mark :: behind ∧ mark ∉ before := by
  induction text generalizing before with
  | nil => simp [cutFirst?]
  | cons c rest inductionHypothesis =>
      by_cases same : c = mark
      · subst same
        cases before with
        | nil => simp [cutFirst?, eq_comm]
        | cons first before => simp_all [cutFirst?]
      · cases before with
        | nil => simp [cutFirst?, same]
        | cons first before =>
            simp only [cutFirst?, if_neg same, Option.map_eq_some_iff, Prod.mk.injEq,
              List.cons.injEq, Prod.exists, List.cons_append, List.mem_cons, not_or]
            constructor
            · rintro ⟨tail, last, found, ⟨rfl, rfl⟩, rfl⟩
              have := inductionHypothesis.mp found
              exact ⟨⟨rfl, this.1⟩, fun equal => same equal.symm, this.2⟩
            · rintro ⟨⟨rfl, cut⟩, _, absent⟩
              exact ⟨before, behind, inductionHypothesis.mpr ⟨cut, absent⟩, ⟨rfl, rfl⟩, rfl⟩

theorem cutLast?_eq_none_iff {mark : Char} {text : Text} :
    cutLast? mark text = none ↔ mark ∉ text := by
  induction text with
  | nil => simp [cutLast?]
  | cons c rest inductionHypothesis =>
      cases found : cutLast? mark rest with
      | none =>
          have absent := inductionHypothesis.mp found
          by_cases same : c = mark
          · simp [cutLast?, found, same]
          · simp [cutLast?, found, same, absent, Ne.symm same]
      | some cut =>
          have present : mark ∈ rest := Decidable.not_not.mp fun absent => by
            simp [inductionHypothesis.mpr absent] at found
          simp [cutLast?, found, present]

theorem eqOfCutLast? {mark : Char} {text before behind : Text}
    (cut : cutLast? mark text = some (before, behind)) :
    text = before ++ mark :: behind ∧ mark ∉ behind := by
  induction text generalizing before with
  | nil => simp [cutLast?] at cut
  | cons c rest inductionHypothesis =>
      cases found : cutLast? mark rest with
      | none =>
          by_cases same : c = mark
          · simp only [cutLast?, found, same, if_true, Option.some.injEq, Prod.mk.injEq] at cut
            obtain ⟨rfl, rfl⟩ := cut
            exact ⟨by simp [same], cutLast?_eq_none_iff.mp found⟩
          · simp [cutLast?, found, same] at cut
      | some inner =>
          obtain ⟨head, tail⟩ := inner
          simp only [cutLast?, found, Option.some.injEq, Prod.mk.injEq] at cut
          obtain ⟨rfl, rfl⟩ := cut
          have split := inductionHypothesis found
          exact ⟨by simp [split.1], split.2⟩

theorem cutLast?Append (mark : Char) (before : Text) {behind : Text} (absent : mark ∉ behind) :
    cutLast? mark (before ++ mark :: behind) = some (before, behind) := by
  induction before with
  | nil => simp [cutLast?, cutLast?_eq_none_iff.mpr absent]
  | cons c before inductionHypothesis => simp [cutLast?, inductionHypothesis]

theorem cutLast?_eq_some_iff {mark : Char} {text before behind : Text} :
    cutLast? mark text = some (before, behind) ↔
      text = before ++ mark :: behind ∧ mark ∉ behind :=
  ⟨eqOfCutLast?, fun split => split.1 ▸ cutLast?Append mark before split.2⟩

/-- The fields of a text between separators. -/
def fields (separator : Char) : Text → List Text
  | [] => [[]]
  | c :: rest =>
      if c = separator then [] :: fields separator rest
      else
        match fields separator rest with
        | [] => [[c]]
        | first :: others => (c :: first) :: others

theorem fields_ne_nil (separator : Char) (text : Text) : fields separator text ≠ [] := by
  cases text with
  | nil => simp [fields]
  | cons c rest =>
      rw [fields]
      split
      · simp
      · split <;> simp

theorem intercalate_fields (separator : Char) (text : Text) :
    [separator].intercalate (fields separator text) = text := by
  induction text with
  | nil => rfl
  | cons c rest inductionHypothesis =>
      rw [fields]
      cases split : fields separator rest with
      | nil => exact absurd split (fields_ne_nil separator rest)
      | cons first others =>
          rw [split] at inductionHypothesis
          by_cases same : c = separator
          · simp [same, ← inductionHypothesis, List.intercalate]
          · cases others <;> simp_all [List.intercalate]

/-- Every occurrence of two neighbouring characters is replaced, from left to right. -/
def replacePair (first second : Char) (image : Text) : Text → Text
  | [] => []
  | [c] => [c]
  | c :: next :: rest =>
      if c = first ∧ next = second then image ++ replacePair first second image rest
      else c :: replacePair first second image (next :: rest)

/-- The text without the characters of a class at its end. -/
def dropTrailing (inClass : Char → Bool) (text : Text) : Text :=
  (text.reverse.dropWhile inClass).reverse

theorem dropTrailingPrefix (inClass : Char → Bool) (text : Text) :
    dropTrailing inClass text <+: text := by
  have dropped := List.dropWhile_suffix (l := text.reverse) inClass
  rw [← List.reverse_prefix, List.reverse_reverse] at dropped
  exact dropped

theorem dropTrailingGetLast? {inClass : Char → Bool} {text : Text} {c : Char}
    (last : (dropTrailing inClass text).getLast? = some c) : inClass c = false := by
  rw [dropTrailing, List.getLast?_reverse] at last
  have head := List.head?_dropWhile_not inClass text.reverse
  rw [last] at head
  exact Bool.not_eq_true _ ▸ (by simpa using head)

/-- Every character of the text is an ASCII character. -/
def isAscii (text : Text) : Bool := text.all fun c => c.toNat < 128

/-- A line ends at a line feed, and a carriage return before the line feed belongs to the end. -/
def lines : Text → List Text
  | [] => []
  | text@(_ :: _) =>
      let pieces := fields '\n' text
      let ended := pieces.dropLast.map fun piece =>
        if piece.getLast? = some '\r' then piece.dropLast else piece
      ended ++ (pieces.getLast?.filter (· ≠ [])).toList

end Text

end Blocklist
