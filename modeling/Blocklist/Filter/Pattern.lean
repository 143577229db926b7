/-
This file turns the pattern of a URL rule into a regular expression.
-/

import Blocklist.Filter.Error
import Blocklist.Hostname

namespace Blocklist

open Text

/-- Two bars in front stand for the start of a hostname, and one for the start of the URL. -/
inductive LeftAnchor where
  | hostname
  | start
deriving DecidableEq, Repr

structure Pattern where
  left : Option LeftAnchor
  text : Text
  endAnchored : Bool
deriving DecidableEq, Repr

namespace Pattern

/-- A bar at the end stands for the end of the URL. -/
def ofBody (left : Option LeftAnchor) (body : Text) : Pattern :=
  if body.endsWith ['|'] then ⟨left, body.dropLast, true⟩ else ⟨left, body, false⟩

def ofRaw (raw : Text) : Pattern :=
  match raw with
  | '|' :: '|' :: body => ofBody (some .hostname) body
  | '|' :: body => ofBody (some .start) body
  | _ => ofBody none raw

/-- The text between the slashes around a pattern without anchors. -/
def regexBody? (pattern : Pattern) : Option Text :=
  match pattern.left, pattern.endAnchored, pattern.text with
  | none, false, '/' :: inside =>
      if Text.endsWith inside ['/'] then some inside.dropLast else none
  | _, _, _ => none

/-- The escapes of slashes and colons are undone. -/
def unescape (body : Text) : Text :=
  replacePair '\\' ':' [':'] (replacePair '\\' '/' ['/'] body)

/-- The start of the URL is that of a web socket, and nothing else is asked for. -/
def isWebSocket (pattern : Pattern) : Bool :=
  pattern.left == some .start &&
    (pattern.text == "ws://".toList || pattern.text == "wss://".toList)

/-- Stars at an open end are dropped, and so are stars in front unless a hostname starts there. -/
def trimStars (pattern : Pattern) : Pattern :=
  let text :=
    if pattern.endAnchored then pattern.text else dropTrailing (· == '*') pattern.text
  if pattern.left ≠ some .hostname ∧ text.startsWith ['*'] then
    ⟨none, text.dropWhile (· == '*'), pattern.endAnchored⟩
  else { pattern with text }

/-- The pattern asks nothing of the URL, apart perhaps from its end. -/
def isOpen (pattern : Pattern) : Bool := pattern.text.isEmpty && pattern.left.isNone

def endsHostname (c : Char) : Bool := c == '/' || c == '^' || c == '*'

/-- A hostname in front is put in ASCII form, and what follows it stays. -/
def asciiHostname (text : Text) : Except FilterError Text :=
  let host : Text := text.takeWhile fun c => !endsHostname c
  let rest : Text := text.dropWhile fun c => !endsHostname c
  if host.isAscii then .ok text
  else
    match Hostname.normalize? host with
    | some normal => .ok (normal ++ rest)
    | none => .error .punycode

/-- The text in small letters unless their case matters, with the hostname in ASCII form. -/
def normalize (pattern : Pattern) (matchCase : Bool) : Except FilterError Pattern := do
  let lowered := if matchCase then pattern.text else pattern.text.lowercase
  let text ← if pattern.left = some .hostname then asciiHostname lowered else pure lowered
  return { pattern with text }

/-- A character outside of hostnames and path segments, or the end of the URL. -/
def separatorRegex : Text := "([^a-zA-Z0-9_.%-]|$)".toList

/-- Any scheme, and perhaps subdomains. -/
def hostnameAnchorRegex : Text := "^[^:]+:(//)?([^/]+\\.)?".toList

def anyHttpUrlRegex : Text := "^https?://".toList

def webSocketRegex : Text := "^wss?://".toList

/-- Characters with a meaning in regular expressions, apart from those of patterns. -/
def isSpecial (c : Char) : Bool := "|.$+?\x7b\x7d()[]\\".toList.contains c

def escapeSpecials (text : Text) : Text :=
  text.flatMap fun c => if isSpecial c then ['\\', c] else [c]

def expandStars (text : Text) : Text := text.flatMap fun c => if c = '*' then ['.', '*'] else [c]

def expandSeparators (text : Text) : Text :=
  text.flatMap fun c => if c = '^' then separatorRegex else [c]

def leftRegex : Option LeftAnchor → Text
  | some .hostname => hostnameAnchorRegex
  | some .start => ['^']
  | none => []

/-- Specials are escaped first, so that what the expansions bring in keeps its meaning. -/
def regex (pattern : Pattern) : Text :=
  leftRegex pattern.left ++ expandSeparators (expandStars (escapeSpecials pattern.text)) ++
    if pattern.endAnchored then ['$'] else []

def derive (pattern : Pattern) (matchCase : Bool) : Except FilterError Text :=
  if pattern.isWebSocket then .ok webSocketRegex
  else if pattern.trimStars.isOpen then .ok anyHttpUrlRegex
  else (pattern.trimStars.normalize matchCase).map regex

end Pattern

end Blocklist
