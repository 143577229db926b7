/-
This file turns capital letters into small letters.
-/

import Blocklist.Text
import Blocklist.Text.LetterCase.Table

namespace Blocklist

namespace LetterCase

def capitalSigma : Char := Char.ofNat 0x3A3

def isCased (c : Char) : Bool :=
  c.isAlpha || (128 ≤ c.toNat && casedRanges.covers c.toNat)

/-- Apostrophes, points, colons, accents and the like do not end a word. -/
def isIgnorable (c : Char) : Bool :=
  if c.toNat < 128 then ['\x27', '.', ':', '^', '\x60'].contains c
  else ignorableRanges.covers c.toNat

/-- The nearest character that is not skipped is a letter. -/
def nextIsCased (text : Text) : Bool :=
  match text.dropWhile isIgnorable with
  | c :: _ => isCased c
  | [] => false

/-- The small letters of one character, without regard to its neighbours. -/
def smallLetters (c : Char) : Text :=
  let code := c.toNat
  if code < 128 then [c.toLower]
  else if code = 0x130 then ['i', Char.ofNat 0x307]
  else
    match capitalRuns.run? code with
    | some (offset, small) => [Char.ofNat (small + offset)]
    | none =>
        match capitalPairs.offset? code with
        | some offset => if offset % 2 = 0 then [Char.ofNat (code + 1)] else [c]
        | none => [c]

theorem smallLettersOfAscii {c : Char} (ascii : c.toNat < 128) : smallLetters c = [c.toLower] := by
  simp [smallLetters, ascii]

/-- A sigma that ends a word has a small letter of its own. -/
def lowerFrom (reversedBefore : Text) : Text → Text
  | [] => []
  | c :: rest =>
      let small :=
        if c = capitalSigma then
          if nextIsCased reversedBefore && !nextIsCased rest then [Char.ofNat 0x3C2]
          else [Char.ofNat 0x3C3]
        else smallLetters c
      small ++ lowerFrom (c :: reversedBefore) rest

end LetterCase

def Text.lowercase (text : Text) : Text := LetterCase.lowerFrom [] text

end Blocklist
