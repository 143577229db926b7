/-
This file brings canonically equivalent texts to one form, with characters composed.
-/

import Blocklist.Hostname.Composition.Table
import Blocklist.Text

namespace Blocklist.Hostname.Composition

/-- Marks of different classes may change places; a character of class zero stays where it is. -/
def combiningClass (c : Char) : Nat :=
  match classRuns.run? c.toNat with
  | some (_, value) => value
  | none => 0

/-- A Hangul syllable consists of a leading consonant, a vowel and perhaps a trailing consonant. -/
def decomposeSyllable? (code : Nat) : Option Text :=
  if 0xAC00 ≤ code ∧ code < 0xAC00 + 11172 then
    let index := code - 0xAC00
    let lead := Char.ofNat (0x1100 + index / 588)
    let vowel := Char.ofNat (0x1161 + index % 588 / 28)
    let trail := index % 28
    some (lead :: vowel :: if trail = 0 then [] else [Char.ofNat (0x11A7 + trail)])
  else none

/-- Only the first character of a decomposition can be decomposed further. -/
def decomposeCode (fuel code : Nat) : Text :=
  match fuel with
  | 0 => [Char.ofNat code]
  | fuel + 1 =>
      match (compositions.pair? code).or (decompositions.pair? code) with
      | some (first, second) =>
          decomposeCode fuel first ++ if second = 0 then [] else [Char.ofNat second]
      | none => [Char.ofNat code]

def decompose (text : Text) : Text :=
  text.flatMap fun c =>
    if c.toNat < 0xC0 then [c]
    else (decomposeSyllable? c.toNat).getD (decomposeCode 4 c.toNat)

/-- A character moves behind the marks of a smaller class than its own. -/
def insertMark (c : Char) : Text → Text
  | [] => [c]
  | next :: rest =>
      if combiningClass next ≠ 0 ∧ combiningClass next < combiningClass c then
        next :: insertMark c rest
      else c :: next :: rest

/-- Marks between two characters of class zero are put in the order of their classes. -/
def arrange (text : Text) : Text := text.foldr insertMark []

def composeSyllable? (first second : Nat) : Option Nat :=
  if 0x1100 ≤ first ∧ first < 0x1113 ∧ 0x1161 ≤ second ∧ second < 0x1176 then
    some (0xAC00 + ((first - 0x1100) * 21 + (second - 0x1161)) * 28)
  else if 0xAC00 ≤ first ∧ first < 0xAC00 + 11172 ∧ (first - 0xAC00) % 28 = 0 ∧
      0x11A7 < second ∧ second < 0x11C3 then
    some (first + (second - 0x11A7))
  else none

/-- The second character of a composition lies beyond the first accents. -/
def composePair? (first second : Char) : Option Char :=
  if second.toNat < 0x300 then none
  else
    ((composeSyllable? first.toNat second.toNat).or
      (compositions.codeOf? first.toNat second.toNat)).map Char.ofNat

/-- A mark joins the last character of class zero unless a mark of its own class or a greater
one stands between them. -/
def composeFrom (starter : Char) (marks : Text) (lastClass : Nat) : Text → Text
  | [] => starter :: marks
  | c :: rest =>
      let current := combiningClass c
      let composed := if marks.isEmpty || lastClass < current then composePair? starter c else none
      match composed with
      | some joined => composeFrom joined marks lastClass rest
      | none =>
          if current = 0 then starter :: (marks ++ composeFrom c [] 0 rest)
          else composeFrom starter (marks ++ [c]) current rest

/-- Marks in front of the first character of class zero stay as they are. -/
def compose : Text → Text
  | [] => []
  | c :: rest => if combiningClass c = 0 then composeFrom c [] 0 rest else c :: compose rest

def normalForm (text : Text) : Text := compose (arrange (decompose text))

def isNormal (text : Text) : Bool := normalForm text == text

end Blocklist.Hostname.Composition
