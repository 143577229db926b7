/-
This file finds the pseudo-classes of a CSS selector.
-/

import Blocklist.Text

namespace Blocklist

namespace Selector

/-- What a scan of a selector knows between two characters. -/
structure Scan where
  escaped : Bool
  quote : Option Char
  depth : Nat
deriving DecidableEq, Repr

namespace Scan

def start : Scan := ⟨false, none, 0⟩

/-- The character opens a pseudo-class unless it is escaped, quoted or in brackets. -/
def opensPseudoClass (scan : Scan) (c : Char) : Bool :=
  c == ':' && !scan.escaped && scan.quote == none && scan.depth == 0

/-- Brackets count outside of quotes only, and a backslash shields the next character. -/
def step (scan : Scan) (c : Char) : Scan :=
  if scan.escaped then { scan with escaped := false }
  else if c = '\\' then { scan with escaped := true }
  else
    match scan.quote with
    | some opened => if c = opened then { scan with quote := none } else scan
    | none =>
        if c = '"' ∨ c = '\x27' then { scan with quote := some c }
        else if c = '[' then { scan with depth := scan.depth + 1 }
        else if c = ']' then { scan with depth := scan.depth - 1 }
        else scan

end Scan

/-- The texts behind the colons that open a pseudo-class, from left to right. -/
def pseudoClassesFrom (scan : Scan) : Text → List Text
  | [] => []
  | c :: rest =>
      if scan.opensPseudoClass c then rest :: pseudoClassesFrom (scan.step c) rest
      else pseudoClassesFrom (scan.step c) rest

def pseudoClasses (selector : Text) : List Text := pseudoClassesFrom Scan.start selector

/-- Pseudo-classes that need a script and cannot be declared. -/
def proceduralOperators : List String :=
  ["-abp-", "contains", "has", "if", "if-not", "matches-css", "matches-css-after",
    "matches-css-before", "properties", "subject", "xpath"]

def isProcedural (pseudoClass : Text) : Bool :=
  proceduralOperators.any fun operator => pseudoClass.startsWith operator.toList

def isStyle (pseudoClass : Text) : Bool := pseudoClass.startsWith "style(".toList

end Selector

end Blocklist
