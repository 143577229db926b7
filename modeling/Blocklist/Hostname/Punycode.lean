/-
This file writes text in ASCII: the ASCII characters first, then where the others belong.
-/

import Blocklist.Text

namespace Blocklist.Hostname.Punycode

/-- All quantities of the code fit in words of 32 bits. -/
def wordMax : Nat := 0xFFFFFFFF

/-- The digits are the small letters, followed by the decimal digits. -/
def digitChar (digit : Nat) : Char :=
  if digit < 26 then Char.ofNat (97 + digit) else Char.ofNat (22 + digit)

def digitValue? (c : Char) : Option Nat :=
  if '0' ≤ c ∧ c ≤ '9' then some (c.toNat - 22)
  else if 'a' ≤ c ∧ c ≤ 'z' then some (c.toNat - 97)
  else if 'A' ≤ c ∧ c ≤ 'Z' then some (c.toNat - 65)
  else none

theorem digitValue?DigitChar {digit : Nat} (inRange : digit < 36) :
    digitValue? (digitChar digit) = some digit := by
  have every : ∀ value ∈ List.range 36, digitValue? (digitChar value) = some value := by decide
  exact every digit (List.mem_range.mpr inRange)

/-- The least digit that another digit follows, at a position and under a bias. -/
def threshold (position bias : Nat) : Nat :=
  if position ≤ bias then 1 else if bias + 26 ≤ position then 26 else position - bias

theorem thresholdBounds (position bias : Nat) :
    1 ≤ threshold position bias ∧ threshold position bias ≤ 26 := by
  rw [threshold]
  split
  · omega
  · split <;> omega

/-- The distance is divided by 35 until it is small, and each division counts 36. -/
def damp (fuel distance count : Nat) : Nat :=
  match fuel with
  | 0 => count
  | fuel + 1 =>
      if 455 < distance then damp fuel (distance / 35) (count + 36)
      else count + 36 * distance / (distance + 38)

/-- The bias for the next distance, which is expected to be of the size of this one. -/
def adapt (distance length : Nat) (first : Bool) : Nat :=
  let halved := if first then distance / 700 else distance / 2
  let scaled := halved + halved / length
  damp (scaled + 1) scaled 0

/-- The digits of a distance from a position on. -/
def distanceDigits (fuel bias position distance : Nat) : Text :=
  match fuel with
  | 0 => []
  | fuel + 1 =>
      let least := threshold position bias
      if distance < least then [digitChar distance]
      else
        digitChar (least + (distance - least) % (36 - least)) ::
          distanceDigits fuel bias (position + 36) ((distance - least) / (36 - least))

/-- What has been written so far, the distance since then, the bias and the characters done. -/
structure Encoder where
  output : Text
  distance : Nat
  bias : Nat
  done : Nat

/-- Characters below the current code point lengthen the distance, and equal ones are written. -/
def Encoder.visit (basicCount code : Nat) (encoder : Encoder) (c : Char) : Encoder :=
  if c.toNat < code then { encoder with distance := encoder.distance + 1 }
  else if c.toNat = code then
    { output := encoder.output ++
        distanceDigits (encoder.distance + 1) encoder.bias 36 encoder.distance
      distance := 0
      bias := adapt encoder.distance (encoder.done + 1) (encoder.done == basicCount)
      done := encoder.done + 1 }
  else encoder

/-- The code points are visited in increasing order; a distance that no word holds is refused. -/
def encodeCodes (text : Text) (basicCount : Nat) :
    (reached : Nat) → Encoder → List Nat → Option Text
  | _, encoder, [] => some encoder.output
  | reached, encoder, code :: codes =>
      if (wordMax - encoder.distance) / (encoder.done + 1) < code - reached then none
      else
        let advanced :=
          { encoder with distance := encoder.distance + (code - reached) * (encoder.done + 1) }
        let visited := text.foldl (Encoder.visit basicCount code) advanced
        encodeCodes text basicCount (code + 1)
          { visited with distance := visited.distance + 1 } codes

/-- A number takes its place among increasing numbers, unless it is there. -/
def insertCode (code : Nat) : List Nat → List Nat
  | [] => [code]
  | first :: rest =>
      if code < first then code :: first :: rest
      else if code = first then first :: rest
      else first :: insertCode code rest

def isBasic (c : Char) : Bool := c.toNat < 128

/-- The code points beyond ASCII, in increasing order. -/
def extendedCodes (text : Text) : List Nat :=
  ((text.filter (!isBasic ·)).map Char.toNat).foldr insertCode []

def encode? (text : Text) : Option Text :=
  let basic := text.filter isBasic
  let written := if basic.isEmpty then [] else basic ++ ['-']
  encodeCodes text basic.length 128 ⟨written, 0, 72, basic.length⟩ (extendedCodes text)

/-- The sum of a number and the distance at the start of a text, with the text behind. -/
def readDistance? (bias total weight position : Nat) : Text → Option (Nat × Text)
  | [] => none
  | c :: rest =>
      match digitValue? c with
      | none => none
      | some digit =>
          if (wordMax - total) / weight < digit then none
          else
            let sum := total + digit * weight
            let least := threshold position bias
            if digit < least then some (sum, rest)
            else if wordMax / (36 - least) < weight then none
            else readDistance? bias sum (weight * (36 - least)) (position + 36) rest

/-- The text decoded so far, the place of the last character, its code point and the bias. -/
structure Decoder where
  output : Text
  place : Nat
  code : Nat
  bias : Nat

/-- A sum of place and distance counts whole passes through the text as steps of the code point. -/
def Decoder.insert? (decoder : Decoder) (sum : Nat) : Option Decoder :=
  let length := decoder.output.length + 1
  if wordMax - decoder.code < sum / length then none
  else
    let code := decoder.code + sum / length
    if code.isValidChar then
      some {
        output := decoder.output.insertIdx (sum % length) (Char.ofNat code)
        place := sum % length + 1
        code
        bias := adapt (sum - decoder.place) length (decoder.place == 0) }
    else none

def decodeDistances? (fuel : Nat) (decoder : Decoder) (text : Text) : Option Text :=
  match fuel, text with
  | _, [] => some decoder.output
  | 0, _ :: _ => none
  | fuel + 1, _ :: _ => do
      let (sum, rest) ← readDistance? decoder.bias decoder.place 1 36 text
      decodeDistances? fuel (← decoder.insert? sum) rest

/-- The ASCII characters stand before the last hyphen, if there are any. -/
def decode? (text : Text) : Option Text :=
  let (basic, digits) :=
    match Text.cutLast? '-' text with
    | some (basic, digits) => if basic.isEmpty then ([], text) else (basic, digits)
    | none => ([], text)
  if Text.isAscii basic then decodeDistances? digits.length ⟨basic, 0, 128, 72⟩ digits else none

end Blocklist.Hostname.Punycode
