/-
This file compares the regular expression that a rule keeps of a body between slashes with the
pieces of the body, its escapes and its bare characters. The escapes of slashes and colons are
undone. But an escaped backslash in front of a bare slash or colon is taken for such an escape too,
and one of its backslashes is lost.
-/

import Blocklist.Proofs.Filter.PatternEnds

namespace Blocklist

open Text

namespace Pattern

/-- A backslash with the character that it escapes, or a character by itself. -/
inductive Piece where
  | escape (c : Char)
  | bare (c : Char)
deriving DecidableEq, Repr

/-- The characters that need no escape in a regular expression. -/
def isMark (c : Char) : Bool := c == '/' || c == ':'

theorem ne_backslash_of_isMark {c : Char} (mark : isMark c = true) : c ≠ '\\' := by
  rintro rfl
  exact absurd mark (by decide)

namespace Piece

/-- The pieces of a body from left to right. A backslash at the end escapes nothing. -/
def ofBody : Text → List Piece
  | [] => []
  | [c] => [bare c]
  | c :: next :: rest =>
      if c = '\\' then escape next :: ofBody rest else bare c :: ofBody (next :: rest)

/-- The escape of a mark is undone, and every other piece stays as it is. -/
def undone : Piece → Text
  | escape c => if isMark c then [c] else ['\\', c]
  | bare c => [c]

/-- The piece is an escaped backslash, and a bare mark stands behind it. -/
def meetsMark (piece : Piece) (rest : List Piece) : Bool :=
  piece == escape '\\' &&
    match rest with
    | bare c :: _ => isMark c
    | _ => false

/-- An escaped backslash stands in front of a bare mark somewhere. -/
def Exposed (pieces : List Piece) : Prop :=
  ∃ c, isMark c = true ∧ [escape '\\', bare c] <:+: pieces

/-- The text that is kept of the pieces: of an escaped backslash in front of a bare mark, only one
backslash is left. -/
def kept : List Piece → Text
  | [] => []
  | piece :: rest => (if piece.meetsMark rest then ['\\'] else piece.undone) ++ kept rest

theorem meetsMark_iff {piece : Piece} {rest : List Piece} :
    piece.meetsMark rest = true ↔
      ∃ c, isMark c = true ∧ [escape '\\', bare c] <+: piece :: rest := by
  rcases rest with - | ⟨⟨next⟩ | ⟨next⟩, rest⟩
  · simp [meetsMark]
  · simp [meetsMark]
  · simp only [meetsMark, Bool.and_eq_true, beq_iff_eq, List.cons_prefix_cons, List.nil_prefix,
      and_true, bare.injEq]
    constructor
    · rintro ⟨rfl, mark⟩
      exact ⟨next, mark, rfl, rfl⟩
    · rintro ⟨_, mark, rfl, rfl⟩
      exact ⟨rfl, mark⟩

theorem exposed_cons_iff {piece : Piece} {rest : List Piece} :
    Exposed (piece :: rest) ↔ piece.meetsMark rest = true ∨ Exposed rest := by
  simp only [Exposed, List.infix_cons_iff, meetsMark_iff, and_or_left, exists_or]

theorem kept_eq_of_not_exposed {pieces : List Piece} (hidden : ¬Exposed pieces) :
    kept pieces = pieces.flatMap undone := by
  induction pieces with
  | nil => rfl
  | cons piece rest inductionHypothesis =>
      rw [exposed_cons_iff, not_or] at hidden
      rw [kept, if_neg hidden.1, inductionHypothesis hidden.2, List.flatMap_cons]

theorem length_undone_of_meetsMark {piece : Piece} {rest : List Piece}
    (meets : piece.meetsMark rest = true) : piece.undone.length = 2 := by
  obtain ⟨c, -, begins⟩ := meetsMark_iff.mp meets
  obtain rfl : escape '\\' = piece := (List.cons_prefix_cons.mp begins).1
  rfl

theorem length_kept_le (pieces : List Piece) :
    (kept pieces).length ≤ (pieces.flatMap undone).length := by
  induction pieces with
  | nil => exact Nat.le_refl 0
  | cons piece rest inductionHypothesis =>
      rw [kept, List.flatMap_cons, List.length_append, List.length_append]
      split
      case isTrue meets =>
        rw [length_undone_of_meetsMark meets]
        exact Nat.add_le_add (by decide) inductionHypothesis
      case isFalse => exact Nat.add_le_add_left inductionHypothesis _

/-- Each backslash that is lost makes the text shorter. -/
theorem length_kept_lt_of_exposed {pieces : List Piece} (exposed : Exposed pieces) :
    (kept pieces).length < (pieces.flatMap undone).length := by
  induction pieces with
  | nil =>
      obtain ⟨_, -, found⟩ := exposed
      exact absurd found (by simp)
  | cons piece rest inductionHypothesis =>
      rw [kept, List.flatMap_cons, List.length_append, List.length_append]
      split
      case isTrue meets =>
        rw [length_undone_of_meetsMark meets]
        exact Nat.add_lt_add_of_lt_of_le (by decide) (length_kept_le rest)
      case isFalse noMark =>
        have exposedBehind := (exposed_cons_iff.mp exposed).resolve_left noMark
        exact Nat.add_lt_add_left (inductionHypothesis exposedBehind) _

/-- Nothing but the escapes of marks is undone exactly where no escaped backslash is exposed. -/
theorem kept_eq_iff {pieces : List Piece} :
    kept pieces = pieces.flatMap undone ↔ ¬Exposed pieces := by
  constructor
  · intro same exposed
    exact absurd (congrArg List.length same) (Nat.ne_of_lt (length_kept_lt_of_exposed exposed))
  · exact kept_eq_of_not_exposed

end Piece

section Unescape

variable {rest : Text} {c : Char}

theorem unescape_mark (mark : isMark c = true) :
    unescape ('\\' :: c :: rest) = c :: unescape rest := by
  obtain rfl | rfl : c = '/' ∨ c = ':' := by simpa [isMark] using mark
  · rw [unescape, replacePair, if_pos ⟨rfl, rfl⟩]
    exact replacePair_cons (by simp)
  · have unchanged : replacePair '\\' '/' ['/'] ('\\' :: ':' :: rest) =
        '\\' :: ':' :: replacePair '\\' '/' ['/'] rest := by
      rw [replacePair_cons (by simp), replacePair_cons (by simp)]
    rw [unescape, unchanged, replacePair, if_pos ⟨rfl, rfl⟩]
    rfl

theorem unescape_cons (noEscape : ¬(c = '\\' ∧ ∃ mark, isMark mark = true ∧ rest.head? = mark)) :
    unescape (c :: rest) = c :: unescape rest := by
  have noSlash : ¬(c = '\\' ∧ rest.head? = some '/') :=
    fun pair => noEscape ⟨pair.1, '/', rfl, pair.2⟩
  rw [unescape, replacePair_cons noSlash, replacePair_cons]
  · rfl
  · rintro ⟨rfl, colon⟩
    refine head?_replacePair_ne (by decide) ?_ colon
    exact fun first => noEscape ⟨rfl, ':', rfl, first⟩

end Unescape

/-- A mark that begins a body is a bare piece of it. -/
theorem Piece.meetsMark_ofBody {body : Text} :
    (Piece.escape '\\').meetsMark (Piece.ofBody body) = true ↔
      ∃ mark, isMark mark = true ∧ body.head? = some mark := by
  rcases body with - | ⟨c, - | ⟨next, rest⟩⟩
  · simp [ofBody, meetsMark]
  · simp [ofBody, meetsMark]
  · by_cases escape : c = '\\'
    · subst escape
      simp [ofBody, meetsMark, isMark]
    · simp [ofBody, meetsMark, escape]

/-- What is kept of a body is told by its pieces. -/
theorem unescape_eq_kept (body : Text) : unescape body = Piece.kept (Piece.ofBody body) := by
  fun_induction Piece.ofBody body with
  | case1 => rfl
  | case2 c => rfl
  | case3 next rest inductionHypothesis =>
      rw [Piece.kept, ← inductionHypothesis]
      cases mark : isMark next with
      | true =>
          have other : Piece.escape next ≠ .escape '\\' := fun same =>
            ne_backslash_of_isMark mark (Piece.escape.inj same)
          simp [unescape_mark mark, Piece.meetsMark, Piece.undone, mark, other]
      | false =>
          rw [unescape_cons (by simp [mark])]
          by_cases backslash : next = '\\'
          · subst backslash
            cases meets : (Piece.escape '\\').meetsMark (Piece.ofBody rest) with
            | true =>
                obtain ⟨found, isMark, first⟩ := Piece.meetsMark_ofBody.mp meets
                obtain ⟨behind, rfl⟩ := List.head?_eq_some_iff.mp first
                rw [unescape_mark isMark, unescape_cons]
                · rfl
                · exact fun pair => ne_backslash_of_isMark isMark pair.1
            | false =>
                rw [unescape_cons]
                · rfl
                · intro pair
                  rw [Piece.meetsMark_ofBody.mpr pair.2] at meets
                  cases meets
          · rw [unescape_cons fun pair => backslash pair.1]
            simp [Piece.meetsMark, Piece.undone, mark, backslash]
  | case4 c next rest noEscape inductionHypothesis =>
      rw [unescape_cons fun pair => noEscape pair.1, inductionHypothesis, Piece.kept]
      rfl

end Pattern

namespace UrlRule

/-- The regular expression of a rule is what is kept of the pieces of its body, and only the escapes
of slashes and colons are undone exactly where no escaped backslash stands in front of a bare slash
or colon. -/
theorem regex_undone_iff {line regex : Text} {rule : UrlRule} (parsed : parse line = .ok rule)
    (given : rule.pattern.regex = some regex) :
    ∃ body, rule.pattern.raw = '/' :: (body ++ ['/']) ∧
      regex = Pattern.Piece.kept (Pattern.Piece.ofBody body) ∧
      (regex = (Pattern.Piece.ofBody body).flatMap Pattern.Piece.undone ↔
        ¬Pattern.Piece.Exposed (Pattern.Piece.ofBody body)) := by
  obtain ⟨raw, options, pattern, -, -, written, rfl⟩ := parse_eq_ok parsed
  rcases patternTexts_eq_ok written with ⟨body, delimited, rfl⟩ | ⟨derived, -, -, rfl⟩
  · obtain rfl : Pattern.unescape body = regex := Option.some.inj given
    have kept := Pattern.unescape_eq_kept body
    refine ⟨body, Pattern.regexBody?_ofRaw_iff.mp delimited, kept, ?_⟩
    rw [kept]
    exact Pattern.Piece.kept_eq_iff
  · cases given

/-- The rule for scripts behind a path with a number and a port. -/
def portRule : UrlRule :=
  ofParts "/ad\\d+\\\\x\\/\\:80/$script".toList
    ⟨some "ad\\d+\\\\x/:80".toList, none, "/ad\\d+\\\\x\\/\\:80/".toList⟩
    { OptionSet.empty with wanted := .script }

theorem regex_undone_iff_port :
    parse portRule.line = .ok portRule ∧
      portRule.pattern.regex = some "ad\\d+\\\\x/:80".toList ∧
      ∃ body, portRule.pattern.raw = '/' :: (body ++ ['/']) ∧
        "ad\\d+\\\\x/:80".toList = Pattern.Piece.kept (Pattern.Piece.ofBody body) ∧
        ("ad\\d+\\\\x/:80".toList =
            (Pattern.Piece.ofBody body).flatMap Pattern.Piece.undone ↔
          ¬Pattern.Piece.Exposed (Pattern.Piece.ofBody body)) := by
  have parsed : parse portRule.line = .ok portRule := by decide +kernel
  exact ⟨parsed, rfl, regex_undone_iff parsed rfl⟩

/-- Of an escaped backslash in front of a bare slash or colon, one backslash is lost, so that the
regular expression asks for the slash or colon alone. -/
theorem escapedBackslash_lost :
    ∃ slashed coloned, parse "/a\\\\/b/".toList = .ok slashed ∧
      slashed.pattern.regex = some "a\\/b".toList ∧
      (Pattern.Piece.ofBody "a\\\\/b".toList).flatMap Pattern.Piece.undone =
        "a\\\\/b".toList ∧
      parse "/a\\\\:b/".toList = .ok coloned ∧
      coloned.pattern.regex = some "a\\:b".toList ∧
      (Pattern.Piece.ofBody "a\\\\:b".toList).flatMap Pattern.Piece.undone =
        "a\\\\:b".toList ∧
      "a\\/b".toList ≠ "a\\\\/b".toList ∧ "a\\:b".toList ≠ "a\\\\:b".toList :=
  ⟨ofParts "/a\\\\/b/".toList ⟨some "a\\/b".toList, none, "/a\\\\/b/".toList⟩
      OptionSet.empty,
    ofParts "/a\\\\:b/".toList ⟨some "a\\:b".toList, none, "/a\\\\:b/".toList⟩
      OptionSet.empty,
    by decide +kernel, rfl, by decide, by decide +kernel, rfl, by decide, by decide, by decide⟩

end UrlRule

end Blocklist
