/-
This file gives internationalised hostnames their ASCII form.
-/

import Blocklist.Hostname.Composition
import Blocklist.Hostname.Direction
import Blocklist.Hostname.Mapping
import Blocklist.Hostname.Punycode

namespace Blocklist.Hostname

open Text

/-- The mark of a label in ASCII form. -/
def labelMark : Text := "xn--".toList

/-- A label does not begin with a combining mark, and all its characters are allowed. -/
def isValidLabel (label : Text) : Bool :=
  match label with
  | [] => true
  | first :: _ =>
      !Direction.markRanges.covers first.toNat && label.all Mapping.isAllowed

/-- The characters that a label stands for; a label in ASCII form must stand for a normal one. -/
def readLabel? (label : Text) : Option Text :=
  match label.after? labelMark with
  | some encoded => do
      let decoded ← Punycode.decode? encoded
      if Composition.isNormal decoded && isValidLabel decoded then some decoded else none
  | none => if isValidLabel label then some label else none

/-- A label of ASCII characters stays as it is. -/
def writeLabel? (label : Text) : Option Text :=
  if label.isAscii then some label else (Punycode.encode? label).map (labelMark ++ ·)

/-- A name with a label that turns obeys the rules of direction in all labels. -/
def toAscii? (name : Text) : Option Text := do
  let mapped ← Mapping.mapText? name
  let labels ← (fields '.' (Composition.normalForm mapped)).mapM readLabel?
  if labels.any Direction.turns && !labels.all Direction.obeys then none
  else
    let written ← labels.mapM writeLabel?
    return ['.'].intercalate written

end Blocklist.Hostname
