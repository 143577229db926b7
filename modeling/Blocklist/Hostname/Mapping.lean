/-
This file maps the characters of a hostname to those that a hostname may have.
-/

import Blocklist.Hostname.Mapping.Table
import Blocklist.Text

namespace Blocklist.Hostname.Mapping

/-- A hostname in its final form may have the character; no ASCII capital is allowed. -/
def isAllowed (c : Char) : Bool :=
  if c.toNat < 128 then !c.isUpper else keptRanges.covers c.toNat

/-- The characters that fields of 20 bits hold, the first in the highest field. -/
def unpack (fuel packed : Nat) : Text :=
  match fuel with
  | 0 => []
  | fuel + 1 =>
      if packed = 0 then []
      else
        unpack fuel (packed / CodeTable.fieldSize) ++ [Char.ofNat (packed % CodeTable.fieldSize)]

/-- The text that a character stands for; there is none for a character that is not allowed. -/
def image? (c : Char) : Option Text :=
  let code := c.toNat
  if isAllowed c then some [c]
  else if code < 128 then some [c.toLower]
  else
    match substituteRuns.run? code with
    | some (offset, target) => some [Char.ofNat (target + offset)]
    | none =>
        match expansions.findSome? (List.lookup code) with
        | some packed => some (unpack 18 packed)
        | none => if droppedRanges.covers code then some [] else none

/-- Each character is replaced by the text that it stands for. -/
def mapText? (text : Text) : Option Text := (text.mapM image?).map List.flatten

end Blocklist.Hostname.Mapping
