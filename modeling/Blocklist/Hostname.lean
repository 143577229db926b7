/-
This file brings the hostnames of rules to one form.
-/

import Blocklist.Hostname.Ascii
import Blocklist.Text.Blank
import Blocklist.Text.LetterCase

namespace Blocklist.Hostname

open Text

/-- A hostname without blanks around it, in small letters and in ASCII form. -/
def normalize? (name : Text) : Option Text :=
  let lowered := (trim name).lowercase
  if lowered.isAscii then some lowered else toAscii? lowered

/-- The characters of a hostname in ASCII form. -/
def isValidChar (c : Char) : Bool := c.isAlphanum || c == '-' || c == '.' || c == '_'

def isValid (name : Text) : Bool := !name.isEmpty && name.all isValidChar

/-- The normal forms of the names that are not blank, each once; a name without one is told. -/
def normalizeFrom (seen : List Text) : List Text → Except Text (List Text)
  | [] => .ok seen
  | name :: names =>
      if (trim name).isEmpty then normalizeFrom seen names
      else
        match normalize? name with
        | none => .error name
        | some normal =>
            normalizeFrom (if seen.contains normal then seen else seen ++ [normal]) names

def normalizeAll (names : List Text) : Except Text (List Text) := normalizeFrom [] names

end Blocklist.Hostname
