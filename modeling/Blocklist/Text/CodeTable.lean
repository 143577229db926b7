/-
This file looks code points up in sorted tables.
-/

namespace Blocklist

/-- An entry packs fields of 20 bits, with the code point that it is found by in front. The
entries increase, and they stand in blocks so that a search can pass over most of them. -/
abbrev CodeTable := List (List Nat)

namespace CodeTable

/-- The number of values that a field can hold. -/
def fieldSize : Nat := 0x100000

/-- The number of values that two fields can hold. -/
def pairSize : Nat := 0x10000000000

/-- The last entry below a bound. -/
def lastBelow? (bound : Nat) (found : Option Nat) : List Nat → Option Nat
  | [] => found
  | entry :: rest => if entry < bound then lastBelow? bound (some entry) rest else found

/-- The last block that begins below a bound. -/
def blockBelow (bound : Nat) (found : List Nat) : CodeTable → List Nat
  | [] => found
  | block :: rest => if block.headD bound < bound then blockBelow bound block rest else found

def entryBelow? (table : CodeTable) (bound : Nat) : Option Nat :=
  lastBelow? bound none (blockBelow bound [] table)

/-- The distance of a code point from the start of its range, in a table with two fields. -/
def offset? (ranges : CodeTable) (code : Nat) : Option Nat :=
  match ranges.entryBelow? ((code + 1) * fieldSize) with
  | some entry => if code ≤ entry % fieldSize then some (code - entry / fieldSize) else none
  | none => none

/-- The code point lies in one of the ranges. -/
def covers (ranges : CodeTable) (code : Nat) : Bool := (ranges.offset? code).isSome

/-- The distance of a code point from the start of its run, and the value of the run. -/
def run? (runs : CodeTable) (code : Nat) : Option (Nat × Nat) :=
  match runs.entryBelow? ((code + 1) * pairSize) with
  | some entry =>
      if code ≤ entry / fieldSize % fieldSize then some (code - entry / pairSize, entry % fieldSize) else none
  | none => none

/-- The two fields behind a code point. -/
def pair? (pairs : CodeTable) (code : Nat) : Option (Nat × Nat) :=
  match pairs.entryBelow? ((code + 1) * pairSize) with
  | some entry =>
      if entry / pairSize = code then some (entry / fieldSize % fieldSize, entry % fieldSize) else none
  | none => none

/-- The code point whose two fields are given. -/
def codeOf? (pairs : CodeTable) (first second : Nat) : Option Nat :=
  let key := first * fieldSize + second
  pairs.findSome? fun block =>
    (block.find? fun entry => entry % pairSize == key).map fun entry => entry / pairSize

end CodeTable

end Blocklist
