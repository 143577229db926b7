/-
This file says what is left at the end of a filter when the bars before dollar signs are deleted
from it. A bar is deleted without the backslash in front of it, and only such bars leave nothing.
-/

import Blocklist.Proofs.Filter.UrlRule
import Blocklist.Proofs.Text.Pair
import Blocklist.Proofs.Text.SmallLetters

namespace Blocklist

open Text

namespace Text

/-- Read from left to right, the text ends in a backslash that has no character to escape. -/
def endsInEscape : Text → Bool
  | [] => false
  | [c] => c == '\\'
  | c :: next :: rest => if c = '\\' then endsInEscape rest else endsInEscape (next :: rest)

/-- A backslash at the end is open unless the text before it escapes it. -/
theorem endsInEscape_append_single (text : Text) (c : Char) :
    endsInEscape (text ++ [c]) = (c == '\\' && !endsInEscape text) := by
  fun_induction endsInEscape text with
  | case1 => simp [endsInEscape]
  | case2 last =>
      change (if last = '\\' then false else c == '\\') = _
      by_cases escape : last = '\\' <;> simp [escape]
  | case3 next rest inductionHypothesis =>
      rw [List.cons_append, List.cons_append, endsInEscape, if_pos rfl, inductionHypothesis]
  | case4 last next rest noEscape inductionHypothesis =>
      rw [List.cons_append, List.cons_append, endsInEscape, if_neg noEscape, ← List.cons_append,
        inductionHypothesis]

theorem endsInEscape_append_plain (text : Text) {c : Char} (plain : c ≠ '\\') :
    endsInEscape (text ++ [c]) = false := by
  rw [endsInEscape_append_single, beq_false_of_ne plain, Bool.false_and]

end Text

namespace Pattern

theorem unescape_append_single (body : Text) {c : Char} (noSlash : c ≠ '/') (noColon : c ≠ ':') :
    unescape (body ++ [c]) = unescape body ++ [c] := by
  rw [unescape, replacePair_append_single fun pair => noSlash pair.2,
    replacePair_append_single fun pair => noColon pair.2]
  rfl

theorem getLast?_unescape (body : Text) : (unescape body).getLast? = body.getLast? := by
  rw [unescape, getLast?_replacePair, getLast?_replacePair]

/-- The number of backslashes at the end of a text, which is given in reverse. Bars before dollar
signs are passed over. -/
def openBackslashes : (reversed : Text) → Nat
  | '\\' :: rest => openBackslashes rest + 1
  | '$' :: '|' :: rest => openBackslashes rest
  | _ => 0

/-- A body ends in an escape if an odd number of backslashes is left at its end. -/
theorem endsInEscape_unescape (reversed : Text) :
    endsInEscape (replacePair '|' '$' [] (unescape reversed.reverse)) =
      decide (openBackslashes reversed % 2 = 1) := by
  fun_induction openBackslashes reversed with
  | case1 rest inductionHypothesis =>
      rw [List.reverse_cons, unescape_append_single _ (by decide) (by decide),
        replacePair_append_single fun pair => absurd pair.2 (by decide),
        endsInEscape_append_single, inductionHypothesis, beq_self_eq_true, Bool.true_and,
        ← decide_not]
      exact decide_eq_decide.mpr (by omega)
  | case2 rest inductionHypothesis =>
      rw [List.reverse_cons, List.reverse_cons, unescape_append_single _ (by decide) (by decide),
        unescape_append_single _ (by decide) (by decide), List.append_assoc]
      change endsInEscape (replacePair '|' '$' [] (unescape rest.reverse ++ ['|', '$'])) = _
      rw [replacePair_append_pair (by decide), List.append_nil, inductionHypothesis]
  | case3 reversed noBackslash noBar =>
      cases reversed with
      | nil => decide
      | cons c rest =>
          have plain : c ≠ '\\' := fun same => noBackslash rest (same ▸ rfl)
          rw [List.reverse_cons]
          by_cases dollar : c = '$'
          · subst dollar
            rw [unescape_append_single _ (by decide) (by decide), replacePair_append_single,
              endsInEscape_append_plain _ plain]
            · rfl
            · rintro ⟨bar, -⟩
              rw [getLast?_unescape, List.getLast?_reverse] at bar
              obtain ⟨inFront, rfl⟩ := List.head?_eq_some_iff.mp bar
              exact noBar inFront rfl
          · have last : (unescape (rest.reverse ++ [c])).getLast? = some c := by
              rw [getLast?_unescape, List.getLast?_concat]
            obtain ⟨front, ends⟩ := List.getLast?_eq_some_iff.mp last
            rw [ends, replacePair_append_single fun pair => dollar pair.2,
              endsInEscape_append_plain _ plain]
            rfl

/-- Bars before dollar signs, and nothing else. -/
def endBars (count : Nat) : Text := (List.replicate count ['|', '$']).flatten

theorem not_mem_endBars {c : Char} (noBar : c ≠ '|') (noDollar : c ≠ '$') (count : Nat) :
    c ∉ endBars count := by
  simp [endBars, List.mem_flatten, noBar, noDollar]

theorem unescape_eq_endBars_iff {body : Text} {count : Nat} :
    unescape body = endBars count ↔ body = endBars count := by
  constructor
  · intro unescaped
    have noColon : ':' ∉ unescape body := unescaped ▸ not_mem_endBars (by decide) (by decide) count
    have noSlash : '/' ∉ unescape body := unescaped ▸ not_mem_endBars (by decide) (by decide) count
    rw [unescape] at unescaped noColon noSlash
    rw [eq_of_not_mem_replacePair noColon] at unescaped noSlash
    rw [← unescaped, eq_of_not_mem_replacePair noSlash]
  · rintro rfl
    have absent := not_mem_endBars (c := '\\') (by decide) (by decide) count
    rw [unescape, replacePair_eq_self absent, replacePair_eq_self absent]

/-- Nothing is left of a body that holds bars before dollar signs only. -/
theorem deleted_unescape_eq_nil_iff {body : Text} :
    replacePair '|' '$' [] (unescape body) = [] ↔ ∃ count, body = endBars count :=
  deletePair_eq_nil_iff.trans (exists_congr fun _ => unescape_eq_endBars_iff)

/-- A special character is written behind a backslash, and what others are written as ends in none
of the characters that matter at the end of a filter. -/
theorem encode_cases (c : Char) :
    (isSpecial c = true ∧ encode c = ['\\', c]) ∨
      isSpecial c = false ∧ ∃ front last, encode c = front ++ [last] ∧
        last ≠ '\\' ∧ last ≠ '|' ∧ last ≠ '$' := by
  by_cases isStar : c = '*'
  · subst isStar
    exact .inr ⟨by decide, ['.'], '*', rfl, by decide⟩
  by_cases isCircumflex : c = '^'
  · subst isCircumflex
    exact .inr ⟨by decide, "([^a-zA-Z0-9_.%-]|$".toList, ')', rfl, by decide⟩
  cases special : isSpecial c with
  | true => exact .inl ⟨rfl, by simp [encode, isStar, isCircumflex, special]⟩
  | false =>
      refine .inr ⟨rfl, [], c, by simp [encode, isStar, isCircumflex, special], ?_⟩
      refine ⟨?_, ?_, ?_⟩ <;> rintro rfl <;> exact absurd special (by decide)

/-- The text of a pattern behind its left anchor, as it is written. -/
def written (left : Option LeftAnchor) (text : Text) : Text :=
  leftRegex left ++ text.flatMap encode

theorem written_append_single (left : Option LeftAnchor) (text : Text) (c : Char) :
    written left (text ++ [c]) = written left text ++ encode c := by
  simp [written]

/-- What is written in front of an end anchor leaves no escape open. -/
theorem endsInEscape_written (left : Option LeftAnchor) (text : Text) :
    endsInEscape (replacePair '|' '$' [] (written left text)) = false := by
  induction text using List.reverseRecOn with
  | nil =>
      rcases left with - | - | - <;> decide
  | append_singleton text c inductionHypothesis =>
      rw [written_append_single]
      rcases encode_cases c with ⟨-, escaped⟩ | ⟨-, front, last, ends, plain, -, noDollar⟩
      · rw [escaped, List.append_cons, replacePair_append_single, replacePair_append_single,
          endsInEscape_append_single, endsInEscape_append_single, inductionHypothesis]
        · simp
        · exact fun pair => absurd pair.2 (by decide)
        · rw [List.getLast?_concat]
          exact fun pair => absurd pair.1 (by decide)
      · rw [ends, ← List.append_assoc, replacePair_append_single fun pair => noDollar pair.2,
          endsInEscape_append_plain _ plain]

/-- A bar is written at the end for a bar at the end. -/
theorem getLast?_written (left : Option LeftAnchor) (text : Text) :
    (written left text).getLast? = some '|' ↔ text.getLast? = some '|' := by
  rcases List.eq_nil_or_concat text with rfl | ⟨text, c, rfl⟩
  · rcases left with - | - | - <;> decide
  · rw [List.concat_eq_append, written_append_single, List.getLast?_concat]
    rcases encode_cases c with ⟨-, escaped⟩ | ⟨plain, front, last, ends, -, noBar, -⟩
    · simp [escaped]
    · rw [ends, ← List.append_assoc, List.getLast?_concat, Option.some.injEq, Option.some.injEq]
      refine ⟨fun same => absurd same noBar, ?_⟩
      rintro rfl
      exact absurd plain (by decide)

theorem regex_eq_written (pattern : Pattern) : pattern.regex =
    written pattern.left pattern.text ++ if pattern.endAnchored then ['$'] else [] := by
  rw [Pattern.regex, expand_eq_flatMap_encode]
  rfl

section EndAnchor

variable {pattern : Pattern}

/-- The end anchor takes a bar in front of it away, but not the backslash that escapes the bar. -/
theorem deleteBars_regex_of_bar {front : Text} (endAnchored : pattern.endAnchored = true)
    (ends : pattern.text = front ++ ['|']) :
    replacePair '|' '$' [] pattern.regex =
      replacePair '|' '$' [] (written pattern.left front) ++ ['\\'] := by
  have split : pattern.regex = written pattern.left front ++ ['\\'] ++ ['|', '$'] := by
    rw [regex_eq_written, ends, written_append_single, endAnchored]
    simp [show encode '|' = ['\\', '|'] from rfl]
  rw [split, replacePair_append_pair (by decide), List.append_nil]
  exact replacePair_append_single fun pair => absurd pair.2 (by decide)

/-- Otherwise the end anchor stays as it is. -/
theorem deleteBars_regex_of_noBar
    (noBar : ¬(pattern.endAnchored = true ∧ pattern.text.getLast? = some '|')) :
    replacePair '|' '$' [] pattern.regex =
      replacePair '|' '$' [] (written pattern.left pattern.text) ++
        if pattern.endAnchored then ['$'] else [] := by
  rw [regex_eq_written]
  cases endAnchored : pattern.endAnchored with
  | false => simp
  | true =>
      apply replacePair_append_single
      intro pair
      exact noBar ⟨endAnchored, (getLast?_written pattern.left pattern.text).mp pair.1⟩

end EndAnchor

theorem endsInEscape_regex_iff (pattern : Pattern) :
    endsInEscape (replacePair '|' '$' [] pattern.regex) = true ↔
      pattern.endAnchored = true ∧ pattern.text.getLast? = some '|' := by
  by_cases bar : pattern.endAnchored = true ∧ pattern.text.getLast? = some '|'
  · obtain ⟨front, ends⟩ := List.getLast?_eq_some_iff.mp bar.2
    apply iff_of_true _ bar
    rw [deleteBars_regex_of_bar bar.1 ends, endsInEscape_append_single, endsInEscape_written]
    rfl
  · apply iff_of_false _ bar
    rw [deleteBars_regex_of_noBar bar, Bool.not_eq_true]
    cases pattern.endAnchored with
    | false => simp [endsInEscape_written]
    | true => exact endsInEscape_append_plain _ (by decide)

theorem isWebSocket_iff {pattern : Pattern} :
    pattern.isWebSocket = true ↔ pattern.left = some .start ∧
      (pattern.text = "ws://".toList ∨ pattern.text = "wss://".toList) := by
  simp only [isWebSocket, Bool.and_eq_true, Bool.or_eq_true, beq_iff_eq]

/-- The start of a web socket is its own normal form. -/
theorem normalize_of_isWebSocket {pattern : Pattern} (webSocket : pattern.isWebSocket = true)
    (matchCase : Bool) : pattern.trimStars.normalize matchCase = .ok pattern := by
  obtain ⟨left, text, endAnchored⟩ := pattern
  obtain ⟨rfl, rfl | rfl⟩ := isWebSocket_iff.mp webSocket <;> cases endAnchored <;>
    cases matchCase <;> decide

theorem normalize_of_isOpen {pattern : Pattern} (isOpen : pattern.isOpen = true)
    (matchCase : Bool) : pattern.normalize matchCase = .ok pattern := by
  obtain ⟨left, text, endAnchored⟩ := pattern
  obtain ⟨rfl, rfl⟩ := isOpen_iff.mp isOpen
  cases matchCase <;> rfl

/-- A derived filter ends in an escape if a bar stands in front of the end anchor. -/
theorem endsInEscape_derive_iff {pattern : Pattern} {matchCase : Bool} {derived : Text}
    (derives : pattern.derive matchCase = .ok derived) :
    endsInEscape (replacePair '|' '$' [] derived) = true ↔
      ∃ normal, pattern.trimStars.normalize matchCase = .ok normal ∧
        normal.endAnchored = true ∧ normal.text.getLast? = some '|' := by
  rcases derive_eq_ok derives with ⟨webSocket, rfl⟩ | ⟨isOpen, rfl⟩ | ⟨-, normal, normalized, rfl⟩
  · refine iff_of_false (by decide) ?_
    rintro ⟨normal, normalized, -, bar⟩
    rw [normalize_of_isWebSocket webSocket] at normalized
    obtain rfl := Except.ok.inj normalized
    rcases (isWebSocket_iff.mp webSocket).2 with text | text <;> rw [text] at bar <;>
      exact absurd bar (by decide)
  · refine iff_of_false (by decide) ?_
    rintro ⟨normal, normalized, -, bar⟩
    rw [normalize_of_isOpen isOpen] at normalized
    obtain rfl := Except.ok.inj normalized
    rw [(isOpen_iff.mp isOpen).1] at bar
    cases bar
  · rw [endsInEscape_regex_iff]
    constructor
    · exact fun bar => ⟨normal, normalized, bar⟩
    · rintro ⟨other, same, bar⟩
      obtain rfl := Except.ok.inj (normalized.symm.trans same)
      exact bar

theorem head_encode (c : Char) : ∃ first rest, encode c = first :: rest ∧ first ≠ '|' := by
  unfold encode
  split
  case isTrue => exact ⟨'.', _, rfl, by decide⟩
  split
  case isTrue => exact ⟨'(', _, rfl, by decide⟩
  split
  case isTrue => exact ⟨'\\', _, rfl, by decide⟩
  case isFalse plain =>
    refine ⟨c, _, rfl, ?_⟩
    rintro rfl
    exact plain (by decide)

/-- A pattern that asks for something is written as text that does not begin with a bar. -/
theorem head_regex {pattern : Pattern} (closed : pattern.isOpen = false) :
    ∃ first rest, pattern.regex = first :: rest ∧ first ≠ '|' := by
  obtain ⟨left, text, endAnchored⟩ := pattern
  rw [Pattern.regex, expand_eq_flatMap_encode]
  rcases left with - | - | -
  · cases text with
    | nil => cases closed
    | cons c text =>
        obtain ⟨first, rest, encoded, noBar⟩ := head_encode c
        exact ⟨first, _, by simp only [List.flatMap_cons, encoded]; rfl, noBar⟩
  · exact ⟨'^', _, rfl, by decide⟩
  · exact ⟨'^', _, rfl, by decide⟩

theorem isOpen_of_normalize {pattern normal : Pattern} {matchCase : Bool}
    (normalized : pattern.normalize matchCase = .ok normal) (closed : pattern.isOpen = false) :
    normal.isOpen = false := by
  rw [normalize_eq_map] at normalized
  obtain ⟨text, normalizedText, rfl⟩ := map_eq_ok.mp normalized
  cases anchor : pattern.left with
  | some _ => simp [Pattern.isOpen]
  | none =>
      have someText : pattern.text ≠ [] := by simpa [Pattern.isOpen, anchor] using closed
      rw [anchor] at normalizedText
      obtain rfl := Except.ok.inj normalizedText
      cases matchCase with
      | true => simpa [Pattern.isOpen] using someText
      | false => simpa [Pattern.isOpen] using Text.lowercase_ne_nil someText

/-- A derived filter is not empty, and it does not begin with a bar. -/
theorem head_derive {pattern : Pattern} {matchCase : Bool} {derived : Text}
    (derives : pattern.derive matchCase = .ok derived) :
    ∃ first rest, derived = first :: rest ∧ first ≠ '|' := by
  rcases derive_eq_ok derives with ⟨-, rfl⟩ | ⟨-, rfl⟩ | ⟨closed, normal, normalized, rfl⟩
  · exact ⟨'^', _, rfl, by decide⟩
  · exact ⟨'^', _, rfl, by decide⟩
  · exact head_regex (isOpen_of_normalize normalized closed)

theorem regexBody?_eq_some_iff {pattern : Pattern} {body : Text} :
    pattern.regexBody? = some body ↔ pattern = ⟨none, '/' :: (body ++ ['/']), false⟩ := by
  obtain ⟨left, text, endAnchored⟩ := pattern
  constructor
  · intro found
    unfold regexBody? at found
    split at found
    case h_1 inside =>
      split at found
      case isTrue ends =>
        obtain ⟨front, rfl⟩ := List.isSuffixOf_iff_suffix.mp ends
        simp_all
      case isFalse => cases found
    case h_2 => cases found
  · intro same
    rw [same]
    simp [regexBody?, Text.endsWith]

/-- The anchor in front is told by the first two characters. -/
theorem ofRaw_eq (raw : Text) : ofRaw raw =
    if raw.startsWith ['|', '|'] then ofBody (some .hostname) (raw.drop 2)
    else if raw.startsWith ['|'] then ofBody (some .start) (raw.drop 1)
    else ofBody none raw := by
  rcases raw with - | ⟨c, rest⟩
  · rfl
  by_cases bar : '|' = c
  · subst bar
    rcases rest with - | ⟨next, rest⟩
    · rfl
    by_cases another : '|' = next
    · subst another
      rfl
    · simp [ofRaw, Text.startsWith, List.isPrefixOf, another, Ne.symm another]
  · simp [ofRaw, Text.startsWith, List.isPrefixOf, bar, Ne.symm bar]

theorem ofBody_left (left : Option LeftAnchor) (body : Text) : (ofBody left body).left = left := by
  unfold ofBody
  split <;> rfl

/-- A text between slashes is the body of a regular expression. -/
theorem regexBody?_ofRaw_iff {raw body : Text} :
    (ofRaw raw).regexBody? = some body ↔ raw = '/' :: (body ++ ['/']) := by
  rw [regexBody?_eq_some_iff]
  constructor
  · intro same
    unfold ofRaw at same
    split at same
    case h_1 inside => cases (ofBody_left _ inside).symm.trans (congrArg Pattern.left same)
    case h_2 inside _ => cases (ofBody_left _ inside).symm.trans (congrArg Pattern.left same)
    case h_3 =>
      unfold ofBody at same
      split at same
      case isTrue => cases congrArg Pattern.endAnchored same
      case isFalse => exact congrArg Pattern.text same
  · rintro rfl
    have noBar : Text.endsWith ('/' :: (body ++ ['/'])) ['|'] = false := by
      rw [Text.endsWith, ← List.cons_append, Bool.eq_false_iff, ne_eq, List.isSuffixOf_iff_suffix]
      rintro ⟨front, ends⟩
      cases (List.append_inj' ends rfl).2
    change ofBody none _ = _
    rw [ofBody, noBar]
    rfl

theorem endAnchored_of_normalize {pattern normal : Pattern} {matchCase : Bool}
    (normalized : pattern.trimStars.normalize matchCase = .ok normal) :
    normal.endAnchored = pattern.endAnchored := by
  rw [normalize_eq_map] at normalized
  obtain ⟨text, -, rfl⟩ := map_eq_ok.mp normalized
  rw [trimStars, apply_ite Pattern.endAnchored]
  exact ite_self _

end Pattern

end Blocklist
