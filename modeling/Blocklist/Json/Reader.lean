/-
This file reads JSON values from text.
-/

import Blocklist.Json

namespace Blocklist.Json

def isSpace (c : Char) : Bool := c == ' ' || c == '\n' || c == '\r' || c == '\t'

def skipSpace (text : Text) : Text := text.dropWhile isSpace

def hexValue? (c : Char) : Option Nat :=
  if '0' ≤ c ∧ c ≤ '9' then some (c.toNat - 48)
  else if 'a' ≤ c ∧ c ≤ 'f' then some (c.toNat - 87)
  else if 'A' ≤ c ∧ c ≤ 'F' then some (c.toNat - 55)
  else none

/-- The number that four hexadecimal digits write. -/
def fourHex? (first second third fourth : Char) : Option Nat := do
  let a ← hexValue? first
  let b ← hexValue? second
  let c ← hexValue? third
  let d ← hexValue? fourth
  return ((a * 16 + b) * 16 + c) * 16 + d

def namedEscape? (c : Char) : Option Char :=
  if c = '"' then some '"'
  else if c = '\\' then some '\\'
  else if c = '/' then some '/'
  else if c = 'b' then some '\x08'
  else if c = 'f' then some '\x0c'
  else if c = 'n' then some '\n'
  else if c = 'r' then some '\r'
  else if c = 't' then some '\t'
  else none

/-- Code points and surrogate halves of a string up to its closing quote, and the text behind. -/
def units? : Text → Option (List Nat × Text)
  | [] => none
  | '"' :: rest => some ([], rest)
  | '\\' :: 'u' :: first :: second :: third :: fourth :: rest => do
      let unit ← fourHex? first second third fourth
      let (others, behind) ← units? rest
      return (unit :: others, behind)
  | '\\' :: name :: rest => do
      let c ← namedEscape? name
      let (others, behind) ← units? rest
      return (c.toNat :: others, behind)
  | c :: rest =>
      if c.toNat < 32 ∨ c = '\\' then none
      else do
        let (others, behind) ← units? rest
        return (c.toNat :: others, behind)

/-- Surrogate halves are joined in pairs, and a half that stands alone is refused. -/
def joinUnits? : List Nat → Option Text
  | [] => some []
  | unit :: rest =>
      if 0xD800 ≤ unit ∧ unit < 0xDC00 then
        match rest with
        | low :: behind =>
            if 0xDC00 ≤ low ∧ low < 0xE000 then
              (joinUnits? behind).map
                (Char.ofNat (0x10000 + (unit - 0xD800) * 1024 + (low - 0xDC00)) :: ·)
            else none
        | [] => none
      else if 0xDC00 ≤ unit ∧ unit < 0xE000 then none
      else (joinUnits? rest).map (Char.ofNat unit :: ·)

/-- The text of a string whose opening quote has been read. -/
def string? (text : Text) : Option (Text × Text) := do
  let (units, behind) ← units? text
  let value ← joinUnits? units
  return (value, behind)

def isDigit (c : Char) : Bool := decide ('0' ≤ c ∧ c ≤ '9')

def digitsValue (digits : Text) : Nat :=
  digits.foldl (fun value digit => value * 10 + (digit.toNat - 48)) 0

/-- An optional point with digits behind it. -/
def pointPart? : Text → Option (Text × Text)
  | '.' :: rest =>
      let digits := rest.takeWhile isDigit
      if digits.isEmpty then none else some ('.' :: digits, rest.dropWhile isDigit)
  | text => some ([], text)

/-- An optional exponent with an optional sign. -/
def exponentPart? : Text → Option (Text × Text)
  | [] => some ([], [])
  | mark :: rest =>
      if mark = 'e' ∨ mark = 'E' then
        let (sign, unsigned) :=
          match rest with
          | c :: behind => if c = '+' ∨ c = '-' then ([c], behind) else ([], rest)
          | [] => ([], [])
        let digits := unsigned.takeWhile isDigit
        if digits.isEmpty then none
        else some (mark :: (sign ++ digits), unsigned.dropWhile isDigit)
      else some ([], mark :: rest)

/-- Numbers have no leading zero, and a negative zero is no integer. -/
def number? (text : Text) : Option (Value × Text) := do
  let (negative, unsigned) :=
    match text with
    | '-' :: rest => (true, rest)
    | _ => (false, text)
  let whole := unsigned.takeWhile isDigit
  if whole.isEmpty ∨ (whole.length > 1 ∧ whole.head? = some '0') then none
  else
    let (point, afterPoint) ← pointPart? (unsigned.dropWhile isDigit)
    let (exponent, behind) ← exponentPart? afterPoint
    let magnitude := digitsValue whole
    if point.isEmpty ∧ exponent.isEmpty ∧ ¬(negative ∧ magnitude = 0) then
      return (.integer (if negative then -(magnitude : Int) else magnitude), behind)
    else
      return (.fraction ((if negative then ['-'] else []) ++ whole ++ point ++ exponent), behind)

mutual

/-- A value after blanks, with the text behind it. -/
def value? (fuel : Nat) (text : Text) : Option (Value × Text) :=
  match fuel with
  | 0 => none
  | fuel + 1 =>
      match skipSpace text with
      | 'n' :: 'u' :: 'l' :: 'l' :: rest => some (.null, rest)
      | 't' :: 'r' :: 'u' :: 'e' :: rest => some (.bool true, rest)
      | 'f' :: 'a' :: 'l' :: 's' :: 'e' :: rest => some (.bool false, rest)
      | '"' :: rest => (string? rest).map fun (value, behind) => (.text value, behind)
      | '[' :: rest =>
          match skipSpace rest with
          | ']' :: behind => some (.array [], behind)
          | start => (items? fuel start).map fun (items, behind) => (.array items, behind)
      | '\x7b' :: rest =>
          match skipSpace rest with
          | '\x7d' :: behind => some (.object [], behind)
          | start => (members? fuel start).map fun (members, behind) => (.object members, behind)
      | start => number? start

/-- One item or more, up to the closing bracket. -/
def items? (fuel : Nat) (text : Text) : Option (List Value × Text) :=
  match fuel with
  | 0 => none
  | fuel + 1 => do
      let (item, rest) ← value? fuel text
      match skipSpace rest with
      | ']' :: behind => return ([item], behind)
      | ',' :: more =>
          let (items, behind) ← items? fuel more
          return (item :: items, behind)
      | _ => none

/-- One member or more, up to the closing brace. -/
def members? (fuel : Nat) (text : Text) : Option (List (Text × Value) × Text) :=
  match fuel with
  | 0 => none
  | fuel + 1 =>
      match skipSpace text with
      | '"' :: opened => do
          let (key, afterKey) ← string? opened
          match skipSpace afterKey with
          | ':' :: start =>
              let (value, rest) ← value? fuel start
              match skipSpace rest with
              | '\x7d' :: behind => return ([(key, value)], behind)
              | ',' :: more =>
                  let (members, behind) ← members? fuel more
                  return ((key, value) :: members, behind)
              | _ => none
          | _ => none
      | _ => none

end

/-- The one value that a text writes, with blanks around it. -/
def read? (text : Text) : Option Value :=
  match value? (2 * text.length + 2) text with
  | some (value, rest) => if (skipSpace rest).isEmpty then some value else none
  | none => none

end Blocklist.Json
