/-
This file reads cosmetic rules.
-/

import Blocklist.Filter.DomainEntry
import Blocklist.Filter.Error
import Blocklist.Filter.Rule
import Blocklist.Filter.Selector

namespace Blocklist

open Text

namespace CosmeticRule

/-- The mark between the domains and the selector. -/
structure Marker where
  isException : Bool
  isInjected : Bool
deriving DecidableEq, Repr

/-- The marker that continues a number sign, with the text behind it. -/
def Marker.ofSuffix? (suffix : Text) : Option (Marker × Text) :=
  match suffix with
  | '#' :: rest => some (⟨false, false⟩, rest)
  | '@' :: '#' :: rest => some (⟨true, false⟩, rest)
  | '$' :: '#' :: rest => some (⟨false, true⟩, rest)
  | '@' :: '$' :: '#' :: rest => some (⟨true, true⟩, rest)
  | _ => none

/-- Entries that cannot be expressed are dropped, unless they are all that the rule has. -/
def supportedDomains (text : Text) : Except FilterError (List DomainEntry) :=
  let entries := DomainEntry.ofList text
  let isForeign := fun (entry : DomainEntry) =>
    (entry.isSlashed && entry.name != ['/']) || entry.isOpenEnded
  let supported := entries.filter fun entry => !isForeign entry
  if supported.isEmpty && entries.any isForeign then .error .noSupportedDomains
  else .ok supported

/-- A selector with a style is injected, and one with a procedure is refused. -/
def injects (selector : Text) : List Text → Except FilterError Bool
  | [] => .ok false
  | pseudoClass :: rest =>
      if Selector.isStyle pseudoClass then
        if selector.endsWith [')'] then (injects selector rest).map fun _ => true
        else .error .unreadable
      else if Selector.isProcedural pseudoClass then
        .error (.unsupported UnsupportedKind.proceduralCosmetic)
      else injects selector rest

def parse (line : Text) : Except FilterError CosmeticRule := do
  let some (front, suffix) := cutFirst? '#' line | throw .unreadable
  let some (marker, behind) := Marker.ofSuffix? suffix | throw .unreadable
  let domains ← supportedDomains front
  let selector := trim behind
  if selector.isEmpty then throw .emptySelector
  let isInjected ←
    if marker.isInjected then pure true else injects selector (Selector.pseudoClasses selector)
  return {
    selector
    includedDomains := DomainEntry.included domains
    excludedDomains := DomainEntry.excludedNames domains
    isException := marker.isException
    isInjected
    line }

end CosmeticRule

end Blocklist
