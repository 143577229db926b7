/-
This file holds the domain entries of a rule, as they are written.
-/

import Blocklist.Text.Blank

namespace Blocklist

open Text

/-- An entry names pages that a rule applies to, or pages that it spares. -/
structure DomainEntry where
  name : Text
  excluded : Bool
deriving DecidableEq, Repr

namespace DomainEntry

/-- A tilde in front of the name excludes it. -/
def ofText (text : Text) : DomainEntry :=
  match text with
  | '~' :: name => ⟨name, true⟩
  | _ => ⟨text, false⟩

/-- The name is a regular expression between slashes, or a lone slash. -/
def isSlashed (entry : DomainEntry) : Bool :=
  entry.name.startsWith ['/'] && entry.name.endsWith ['/']

/-- The name leaves its last label open. -/
def isOpenEnded (entry : DomainEntry) : Bool := entry.name.endsWith ".*".toList

def included (entries : List DomainEntry) : List Text :=
  (entries.filter fun entry => !entry.excluded).map DomainEntry.name

def excludedNames (entries : List DomainEntry) : List Text :=
  (entries.filter DomainEntry.excluded).map DomainEntry.name

/-- The entries between commas, without the blanks around them. -/
def ofList (text : Text) : List DomainEntry :=
  (((fields ',' text).map trim).filter (!·.isEmpty)).map ofText

end DomainEntry

end Blocklist
