/-
This file holds the rules for labels of scripts that run from right to left.
-/

import Blocklist.Hostname.Direction.Table
import Blocklist.Text

namespace Blocklist.Hostname

inductive Direction where
  | leftToRight
  | rightToLeft
  | arabicNumber
  | europeanNumber
  | mark
  | neutral
  | separator
deriving DecidableEq, Repr

namespace Direction

def ofAscii (code : Nat) : Direction :=
  if (65 ≤ code ∧ code ≤ 90) ∨ (97 ≤ code ∧ code ≤ 122) then .leftToRight
  else if 48 ≤ code ∧ code ≤ 57 then .europeanNumber
  else if (9 ≤ code ∧ code ≤ 13) ∨ (28 ≤ code ∧ code ≤ 32) then .separator
  else .neutral

def ofChar (c : Char) : Direction :=
  if c.toNat < 128 then ofAscii c.toNat
  else
    match (directionRuns.run? c.toNat).map Prod.snd with
    | none => .leftToRight
    | some 1 => .rightToLeft
    | some 2 => .arabicNumber
    | some 3 => .europeanNumber
    | some 4 => .mark
    | some 5 => .neutral
    | some _ => .separator

/-- The label asks for the rules. -/
def turns (label : Text) : Bool :=
  label.any fun c => ofChar c == .rightToLeft || ofChar c == .arabicNumber

/-- The last direction that is no mark. -/
def last? (directions : List Direction) : Option Direction :=
  (directions.reverse.dropWhile (· == .mark)).head?

/-- A label that starts from left to right keeps that direction, and ends in it. -/
def keepsLeftToRight (directions : List Direction) : Bool :=
  directions.all (fun direction =>
    direction == .leftToRight || direction == .europeanNumber || direction == .neutral ||
      direction == .mark) &&
    (last? directions == some .leftToRight || last? directions == some .europeanNumber)

/-- A label that starts from right to left keeps that direction, with numbers of one kind. -/
def keepsRightToLeft (directions : List Direction) : Bool :=
  directions.all (fun direction => direction != .leftToRight && direction != .separator) &&
    (last? directions == some .rightToLeft || last? directions == some .europeanNumber ||
      last? directions == some .arabicNumber) &&
    !(directions.contains .arabicNumber && directions.contains .europeanNumber)

/-- A label begins with a letter of its direction, and an empty label obeys. -/
def obeys (label : Text) : Bool :=
  let directions := label.map ofChar
  match directions.head? with
  | none => true
  | some .leftToRight => keepsLeftToRight directions
  | some .rightToLeft => keepsRightToLeft directions
  | some _ => false

end Direction

end Blocklist.Hostname
