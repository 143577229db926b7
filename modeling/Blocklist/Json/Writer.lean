/-
This file writes JSON values, on one line or indented with tabs.
-/

import Blocklist.Json

namespace Blocklist.Json

def hexDigit (digit : Nat) : Char :=
  if digit < 10 then Char.ofNat (48 + digit) else Char.ofNat (87 + digit)

/-- Quotes, backslashes and control characters are escaped, and nothing else is. -/
def escape (c : Char) : Text :=
  if c = '"' then ['\\', '"']
  else if c = '\\' then ['\\', '\\']
  else if c = '\x08' then ['\\', 'b']
  else if c = '\x0c' then ['\\', 'f']
  else if c = '\n' then ['\\', 'n']
  else if c = '\r' then ['\\', 'r']
  else if c = '\t' then ['\\', 't']
  else if c.toNat < 32 then
    ['\\', 'u', '0', '0', hexDigit (c.toNat / 16), hexDigit (c.toNat % 16)]
  else [c]

def quote (text : Text) : Text := '"' :: (text.flatMap escape ++ ['"'])

def writeInteger (value : Int) : Text := (toString value).toList

/-- A new line with one tab for each enclosing array or object. -/
def newLine (depth : Nat) : Text := '\n' :: List.replicate depth '\t'

namespace Value

mutual

/-- Each item and member stands on its own line, one tab deeper than its container. -/
def indented (depth : Nat) : Value → Text
  | .null => "null".toList
  | .bool true => "true".toList
  | .bool false => "false".toList
  | .integer value => writeInteger value
  | .fraction written => written
  | .text value => quote value
  | .array [] => ['[', ']']
  | .array (item :: items) =>
      '[' :: (newLine (depth + 1) ++ indented (depth + 1) item ++
        indentedItems (depth + 1) items ++ newLine depth ++ [']'])
  | .object [] => ['\x7b', '\x7d']
  | .object ((key, value) :: members) =>
      '\x7b' :: (newLine (depth + 1) ++ quote key ++ [':', ' '] ++ indented (depth + 1) value ++
        indentedMembers (depth + 1) members ++ newLine depth ++ ['\x7d'])

def indentedItems (depth : Nat) : List Value → Text
  | [] => []
  | item :: items => ',' :: (newLine depth ++ indented depth item ++ indentedItems depth items)

def indentedMembers (depth : Nat) : List (Text × Value) → Text
  | [] => []
  | (key, value) :: members =>
      ',' :: (newLine depth ++ quote key ++ [':', ' '] ++ indented depth value ++
        indentedMembers depth members)

end

mutual

/-- No blanks stand between the parts. -/
def compact : Value → Text
  | .null => "null".toList
  | .bool true => "true".toList
  | .bool false => "false".toList
  | .integer value => writeInteger value
  | .fraction written => written
  | .text value => quote value
  | .array [] => ['[', ']']
  | .array (item :: items) => '[' :: (compact item ++ compactItems items ++ [']'])
  | .object [] => ['\x7b', '\x7d']
  | .object ((key, value) :: members) =>
      '\x7b' :: (quote key ++ [':'] ++ compact value ++ compactMembers members ++ ['\x7d'])

def compactItems : List Value → Text
  | [] => []
  | item :: items => ',' :: (compact item ++ compactItems items)

def compactMembers : List (Text × Value) → Text
  | [] => []
  | (key, value) :: members =>
      ',' :: (quote key ++ [':'] ++ compact value ++ compactMembers members)

end

end Value

end Blocklist.Json
