/-
This file pins exceptions for whole documents to the domain that they are written for.
-/

import Blocklist.Content.Error
import Blocklist.Content.Rule
import Blocklist.Filter.Rule
import Blocklist.Hostname

namespace Blocklist

open Text

/-- The page that an exception names, with what its text says behind the domain. -/
structure NamedPage where
  domain : Option Text
  path : Text
deriving DecidableEq, Repr

namespace NamedPage

def schemes : List String :=
  ["http://www.", "https://www.", "http://", "https://", "||", "//"]

/-- The text without the first of the schemes that it begins with. -/
def dropScheme (text : Text) : Text :=
  (schemes.findSome? fun scheme => text.after? scheme.toList).getD text

/-- The text behind the first occurrence of a mark. -/
def behind? (mark : Text) : Text → Option Text
  | [] => if mark.isEmpty then some [] else none
  | c :: rest => (Text.after? (c :: rest) mark).or (behind? mark rest)

/-- The value of a domain option, or else the pattern without scheme and options. -/
def address (text : Text) : Text :=
  match if text.contains '$' then behind? "domain=".toList text else none with
  | some value => value.takeWhile (· ≠ ',')
  | none =>
      let pattern := dropScheme text
      match cutLast? '$' pattern with
      | some (before, _) => before
      | none => pattern

def endsDomain (c : Char) : Bool := c == '/' || c == '^'

/-- The domain reaches to the first slash or separator, and must be a hostname. -/
def ofText (text : Text) : NamedPage :=
  let address := address text
  let name := address.takeWhile fun c => !endsDomain c
  ⟨(Hostname.normalize? name).filter Hostname.isValid, address.dropWhile fun c => !endsDomain c⟩

/-- Nothing but a separator or a slash follows the domain. -/
def isWhole (page : NamedPage) : Bool :=
  page.path == [] || page.path == ['^'] || page.path == ['/']

end NamedPage

namespace UrlRule

/-- The exception turns the filter off for whole pages. -/
def exemptsPages (rule : UrlRule) : Bool :=
  rule.types == .document ∪ .all || rule.types == .urlBlock ∪ .all

/-- The page of an exception takes the place of its other conditions on the URL. -/
def exempt (rule : UrlRule) (trigger : Trigger) : Except ConversionError Trigger := do
  if !rule.isException then return trigger
  else if rule.exemptsPages then
    let page := NamedPage.ofText rule.body
    if !page.isWhole then throw (.exceptionWithPath page.path)
    let some domain := page.domain | throw .exceptionWithoutDomain
    if trigger.unlessDomain.isSome then throw .conflictingDomains
    return { trigger with
      ifDomain := some [domain]
      urlFilter := Trigger.anyUrl.urlFilter
      resourceTypes := none }
  else if rule.types.contains .elemHide then
    return { trigger with resourceTypes := some [.document] }
  else return trigger

end UrlRule

end Blocklist
