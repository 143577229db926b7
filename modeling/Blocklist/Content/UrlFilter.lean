/-
This file brings URL patterns into the dialect of regular expressions that content blockers
understand, which has neither bounded repetition nor alternation.
-/

import Blocklist.Content.Error
import Blocklist.Text.DecimalDigit

namespace Blocklist.UrlFilter

open Text

/-- A closing brace, which a backslash may escape. -/
def closesRepetition : Text → Bool
  | '\x7d' :: _ => true
  | '\\' :: '\x7d' :: _ => true
  | _ => false

/-- The text behind an opening brace gives a least count, a greatest one or both, and closes. -/
def countsRepetition (text : Text) : Bool :=
  let least := text.takeWhile isDecimalDigit
  match text.dropWhile isDecimalDigit with
  | ',' :: behind =>
      let greatest := behind.takeWhile isDecimalDigit
      (!least.isEmpty || !greatest.isEmpty) && closesRepetition (behind.dropWhile isDecimalDigit)
  | behind => !least.isEmpty && closesRepetition behind

def hasBoundedRepetition : Text → Bool
  | [] => false
  | c :: rest => (c == '\x7b' && countsRepetition rest) || hasBoundedRepetition rest

/-- A bar that no backslash escapes. -/
def hasBareBar : Text → Bool
  | [] => false
  | [c] => c == '|'
  | c :: next :: rest =>
      if c = '\\' then hasBareBar rest else c == '|' || hasBareBar (next :: rest)

/-- The end of the URL as an alternative of separators is left out, and refused otherwise. -/
def ofPattern (pattern : Text) : Except ConversionError Text :=
  let filter := replacePair '|' '$' [] pattern
  if hasBoundedRepetition filter then .error (.foreignRegex .boundedRepetition)
  else if hasBareBar filter then .error (.foreignRegex .alternation)
  else .ok filter

end Blocklist.UrlFilter
