/-
This file tells the lines of a filter list apart by the marks that they bear.
-/

import Blocklist.Filter.Error
import Blocklist.Text.Blank

namespace Blocklist

open Text

/-- Blank lines, comments, indented lines and prose are passed over without a report. -/
def isComment (line : Text) : Bool :=
  (trim line).isEmpty || line.startsWith ['!'] || line.startsWith [' '] ||
    line.holds " - ".toList || line.startsWith "[Adblock".toList

inductive LineKind where
  | network
  | cosmetic
  | script
  | unsupported (kind : Text)
  | noRule
deriving DecidableEq, Repr

namespace LineKind

/-- A single ASCII character, a comment and a heading hold no rule. -/
def holdsNoRule (line : Text) : Bool :=
  (line.length == 1 && line.isAscii) || line.startsWith ['!'] ||
    (match line with
      | '#' :: c :: _ => isBlank c
      | _ => false) ||
    line.startsWith "[Adblock".toList

/-- The kind that the text behind the first number sign tells. -/
def ofSuffix (suffix : Text) : LineKind :=
  let startsWithAny := fun (marks : List String) =>
    marks.any fun mark => suffix.startsWith mark.toList
  if startsWithAny ["%#", "@%#"] then .script
  else if startsWithAny ["?#", "@?#", "$?#", "@$?#"] then .unsupported UnsupportedKind.extendedCss
  else if startsWithAny ["#+js(", "#script:inject("] then .script
  else if startsWithAny ["#", "@#", "$#", "@$#"] then .cosmetic
  else .network

/-- A line with no other mark is a network rule. -/
def ofLine (line : Text) : LineKind :=
  if holdsNoRule line then .noRule
  else if line.startsWith ['|'] || line.startsWith "@@|".toList then .network
  else if line.holds "$$".toList || line.holds "$@$".toList then
    .unsupported UnsupportedKind.htmlFiltering
  else
    match cutFirst? '#' line with
    | some (_, suffix) => ofSuffix suffix
    | none => .network

end LineKind

end Blocklist
