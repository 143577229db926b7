/-
This file reads URL rules.
-/

import Blocklist.Filter.Pattern
import Blocklist.Filter.Rule
import Blocklist.Filter.RuleOption

namespace Blocklist

open Text

namespace UrlRule

/-- The pattern and the options around the dollar sign between them. Behind a slash at the start
and another one, the sign is looked for past the last slash, and otherwise it is the last sign. -/
def cutOptions? (body : Text) : Option (Text × Text) :=
  match body with
  | '/' :: rest =>
      match cutLast? '/' rest with
      | some (inside, behind) =>
          (cutFirst? '$' behind).map fun (before, options) =>
            ('/' :: (inside ++ '/' :: before), options)
      | none => cutLast? '$' body
  | _ => cutLast? '$' body

def patternTexts (raw : Text) (matchCase : Bool) : Except FilterError PatternTexts :=
  let pattern := Pattern.ofRaw raw
  match pattern.regexBody? with
  | some body => .ok ⟨some (Pattern.unescape body), none, raw⟩
  | none => (pattern.derive matchCase).map fun derived => ⟨none, some derived, raw⟩

/-- Two at signs mark an exception. -/
def parse (line : Text) : Except FilterError UrlRule := do
  let isException := line.startsWith ['@', '@']
  let body := if isException then line.drop 2 else line
  let (raw, options) ←
    match cutOptions? body with
    | some (raw, written) => do pure (raw, ← RuleOption.parseAll written)
    | none => pure (body, [])
  let options := OptionSet.ofList options
  if options.types = ∅ then throw .unreadable
  let pattern ← patternTexts raw options.matchCase
  return {
    pattern
    types := options.types
    isException
    thirdParty := options.thirdParty
    matchCase := options.matchCase
    includedDomains := options.includedDomains
    excludedDomains := options.excludedDomains
    line }

end UrlRule

end Blocklist
