/-
This file holds the reasons why a rule has no counterpart in a content blocker.
-/

import Blocklist.Filter.Error

namespace Blocklist

/-- Types of requests that cannot be told apart. -/
inductive ForeignType where
  | object
  | objectSubrequest
  | jsInject
deriving DecidableEq, Repr

def ForeignType.name : ForeignType → Text
  | .object => "object".toList
  | .objectSubrequest => "object-subrequest".toList
  | .jsInject => "jsinject".toList

/-- Constructs of regular expressions that are not understood. -/
inductive ForeignRegex where
  | boundedRepetition
  | alternation
deriving DecidableEq, Repr

def ForeignRegex.name : ForeignRegex → Text
  | .boundedRepetition => "'\x7bdigit\x7d'".toList
  | .alternation => "'|'".toList

inductive Injection where
  | css
  | script
deriving DecidableEq, Repr

def Injection.name : Injection → Text
  | .css => "CSS".toList
  | .script => "script".toList

inductive ConversionError where
  | unsupportedKind (kind : Text)
  | conflictingDomains
  | foreignType (type : ForeignType)
  | foreignRegex (construct : ForeignRegex)
  | injection (kind : Injection)
  | exceptionWithPath (path : Text)
  | exceptionWithoutDomain
  | conflictAfterExceptions
  | overLimit (limit : Nat)
  | invalidDomain (name : Text)
  | unreadable (cause : FilterError)
deriving DecidableEq, Repr

namespace ConversionError

/-- A kind of rule that is not supported counts as such, and not as a fault in reading. -/
def ofFilterError : FilterError → ConversionError
  | .unsupported kind => .unsupportedKind kind
  | cause => .unreadable cause

def message : ConversionError → Text
  | .unsupportedKind kind => kind ++ " rules are not supported".toList
  | .conflictingDomains =>
      "content blockers do not support both permitted and restricted domains".toList
  | .foreignType type => type.name ++ " content type is not supported".toList
  | .foreignRegex construct =>
      "content blockers do not support ".toList ++ construct.name ++
        " in regular expressions".toList
  | .injection kind => kind.name ++ " injection rules cannot be converted".toList
  | .exceptionWithPath path =>
      "document level exception with path `".toList ++ path ++ "` cannot be converted".toList
  | .exceptionWithoutDomain => "could not parse a domain from exception rule".toList
  | .conflictAfterExceptions =>
      "permitted and restricted domains both present after applying CSS exceptions".toList
  | .overLimit limit =>
      (toString limit).toList ++ " rules limit is reached, next rules are ignored".toList
  | .invalidDomain name => "invalid domain `".toList ++ name ++ "`".toList
  | .unreadable cause => "failed to parse rule: ".toList ++ cause.message

end ConversionError

end Blocklist
