/-
This file holds the reasons why a line of a filter list cannot be read as a rule.
-/

import Blocklist.Text

namespace Blocklist

inductive FilterError where
  | unreadable
  | emptySelector
  | noSupportedDomains
  | unrecognisedOption (name : Text)
  | negatedOption (name : Text)
  | punycode
  | unsupported (kind : Text)
deriving DecidableEq, Repr

def FilterError.message : FilterError → Text
  | .unreadable => "failed to parse filter".toList
  | .emptySelector => "empty selector".toList
  | .noSupportedDomains => "no supported domains".toList
  | .unrecognisedOption name => "unrecognised option `".toList ++ name ++ "`".toList
  | .negatedOption name => "negated option `".toList ++ name ++ "`".toList
  | .punycode => "punycode error".toList
  | .unsupported kind => kind ++ " rules are not supported".toList

namespace UnsupportedKind

def htmlFiltering : Text := "HTML filtering".toList

def extendedCss : Text := "extended CSS".toList

def proceduralCosmetic : Text := "procedural cosmetic".toList

end UnsupportedKind

end Blocklist
