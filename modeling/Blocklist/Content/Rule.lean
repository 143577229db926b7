/-
This file holds the rules of a content blocker.
-/

import Blocklist.Text

namespace Blocklist

inductive ResourceType where
  | document
  | image
  | styleSheet
  | script
  | font
  | raw
  | media
  | popup
deriving DecidableEq, Repr

def ResourceType.name : ResourceType → Text
  | .document => "document".toList
  | .image => "image".toList
  | .styleSheet => "style-sheet".toList
  | .script => "script".toList
  | .font => "font".toList
  | .raw => "raw".toList
  | .media => "media".toList
  | .popup => "popup".toList

def ResourceType.every : List ResourceType :=
  [.document, .image, .styleSheet, .script, .font, .raw, .media, .popup]

def ResourceType.ofName? (name : Text) : Option ResourceType :=
  ResourceType.every.find? fun type => type.name == name

theorem ResourceType.ofName?Name (type : ResourceType) :
    ResourceType.ofName? type.name = some type := by
  cases type <;> decide

/-- A request to the site of the page is a first-party request. -/
inductive LoadType where
  | firstParty
  | thirdParty
deriving DecidableEq, Repr

def LoadType.name : LoadType → Text
  | .firstParty => "first-party".toList
  | .thirdParty => "third-party".toList

def LoadType.ofName? (name : Text) : Option LoadType :=
  [LoadType.firstParty, .thirdParty].find? fun type => type.name == name

theorem LoadType.ofName?Name (type : LoadType) : LoadType.ofName? type.name = some type := by
  cases type <;> decide

/-- The conditions under which a rule acts; an absent one is met by everything. -/
structure Trigger where
  urlFilter : Text
  caseSensitive : Option Bool
  ifDomain : Option (List Text)
  unlessDomain : Option (List Text)
  resourceTypes : Option (List ResourceType)
  loadTypes : Option (List LoadType)
deriving DecidableEq, Repr

namespace Trigger

/-- A trigger with no condition but the URL. -/
def ofUrlFilter (urlFilter : Text) : Trigger := ⟨urlFilter, none, none, none, none, none⟩

def anyUrl : Trigger := ofUrlFilter ".*".toList

/-- A domain list is present, be it empty or not. -/
def isRestricted (trigger : Trigger) : Bool :=
  trigger.ifDomain.isSome || trigger.unlessDomain.isSome

/-- Domains are both required and excluded. -/
def hasConflict (trigger : Trigger) : Bool :=
  !(trigger.ifDomain.getD []).isEmpty && !(trigger.unlessDomain.getD []).isEmpty

end Trigger

/-- The action on exceptions for hiding rules carries the selector that is spared. -/
inductive Action where
  | block
  | ignorePreviousRules (selector : Option Text)
  | cssDisplayNone (selector : Text)
deriving DecidableEq, Repr

namespace Action

def selector? : Action → Option Text
  | .block => none
  | .ignorePreviousRules selector => selector
  | .cssDisplayNone selector => some selector

/-- The exception to what an action does. -/
def exempting : Action → Action
  | .block => .ignorePreviousRules none
  | .cssDisplayNone selector => .ignorePreviousRules (some selector)
  | .ignorePreviousRules selector => .ignorePreviousRules selector

end Action

structure ContentRule where
  trigger : Trigger
  action : Action
deriving DecidableEq, Repr

end Blocklist
