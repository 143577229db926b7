/-
This file reads the options of a URL rule.
-/

import Blocklist.Filter.DomainEntry
import Blocklist.Filter.Error
import Blocklist.Filter.TypeMask

namespace Blocklist

open Text

inductive RuleOption where
  | domains (entries : List DomainEntry)
  | party (isThird : Bool)
  | matchCase
  | request (types : TypeMask) (wanted : Bool)
  | pageException (types : TypeMask)
deriving DecidableEq, Repr

namespace RuleOption

def requestTypes : List (String × TypeMask) := [
  ("image", .image), ("stylesheet", .styleSheet), ("css", .styleSheet), ("script", .script),
  ("media", .media), ("popup", .popup), ("xmlhttprequest", .xmlHttpRequest),
  ("xhr", .xmlHttpRequest), ("other", .other), ("font", .font), ("subdocument", .subdocument),
  ("frame", .subdocument), ("object", .object), ("object-subrequest", .objectSubrequest),
  ("websocket", .webSocket)]

def pageExceptions : List (String × TypeMask) := [
  ("document", .document), ("doc", .document), ("elemhide", .elemHide), ("ehide", .elemHide),
  ("urlblock", .urlBlock), ("jsinject", .jsInject), ("content", .content),
  ("generichide", .genericHide), ("ghide", .genericHide), ("genericblock", .genericBlock)]

/-- The types under a name. -/
def typesNamed? (name : Text) (table : List (String × TypeMask)) : Option TypeMask :=
  (table.find? fun entry => entry.1.toList == name).map Prod.snd

/-- The domains between bars, without empty names and regular expressions. -/
def domainEntries (value : Text) : List DomainEntry :=
  ((fields '|' value).map DomainEntry.ofText).filter fun entry =>
    !entry.name.isEmpty && !entry.isSlashed

/-- The name of an option and its value, behind all tildes in front. -/
def split (text : Text) : Text × Text :=
  let bare := text.dropWhile (· == '~')
  (cutFirst? '=' bare).getD (bare, [])

/-- A tilde in front reverses an option; page exceptions and the letter case do not allow it. -/
def parse (text : Text) : Except FilterError RuleOption :=
  let negated := text.startsWith ['~']
  let (name, value) := split text
  if name = "domain".toList then
    let entries := domainEntries value
    if entries.isEmpty then .error .noSupportedDomains else .ok (.domains entries)
  else if name = "third-party".toList ∨ name = "3p".toList then .ok (.party !negated)
  else if name = "first-party".toList ∨ name = "1p".toList then .ok (.party negated)
  else if name = "match-case".toList then
    if negated then .error (.negatedOption name) else .ok .matchCase
  else
    match typesNamed? name requestTypes, typesNamed? name pageExceptions with
    | some types, _ => .ok (.request types !negated)
    | none, some types =>
        if negated then .error (.negatedOption name) else .ok (.pageException types)
    | none, none => .error (.unrecognisedOption name)

/-- The options between commas. -/
def parseAll (text : Text) : Except FilterError (List RuleOption) :=
  (fields ',' text).mapM parse

end RuleOption

/-- What the options of a rule say together. -/
structure OptionSet where
  includedDomains : List Text
  excludedDomains : List Text
  thirdParty : Option Bool
  matchCase : Bool
  wanted : TypeMask
  unwanted : TypeMask
  pageExceptions : TypeMask
deriving DecidableEq, Repr

namespace OptionSet

def empty : OptionSet := ⟨[], [], none, false, ∅, ∅, ∅⟩

/-- A later party option overrides an earlier one, and all other options add up. -/
def add (options : OptionSet) : RuleOption → OptionSet
  | .domains entries =>
      { options with
        includedDomains := options.includedDomains ++ DomainEntry.included entries
        excludedDomains := options.excludedDomains ++ DomainEntry.excludedNames entries }
  | .party isThird => { options with thirdParty := some isThird }
  | .matchCase => { options with matchCase := true }
  | .request types true => { options with wanted := options.wanted ∪ types }
  | .request types false => { options with unwanted := options.unwanted ∪ types }
  | .pageException types => { options with pageExceptions := options.pageExceptions ∪ types }

def ofList (options : List RuleOption) : OptionSet := options.foldl add empty

/-- A rule that wants no type has the usual ones. -/
def types (options : OptionSet) : TypeMask :=
  ((if options.wanted = ∅ then .all else options.wanted) \ options.unwanted) ∪
    options.pageExceptions

end OptionSet

end Blocklist
