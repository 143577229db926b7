/-
This file holds JSON values and the reading of their parts.
-/

import Blocklist.Text

namespace Blocklist.Json

/-- A number with a fraction or an exponent keeps the text that it was written with. -/
inductive Value where
  | null
  | bool (value : Bool)
  | integer (value : Int)
  | fraction (written : Text)
  | text (value : Text)
  | array (items : List Value)
  | object (members : List (Text × Value))
deriving Inhabited, Repr

namespace Value

def ofTexts (texts : List Text) : Value := .array (texts.map .text)

/-- An absent value is written as null. -/
def ofOption {A : Type} (encode : A → Value) : Option A → Value
  | none => .null
  | some value => encode value

/-- The value of the first member with this key. -/
def member? (key : Text) : Value → Option Value
  | .object members => (members.find? fun entry => entry.1 == key).map Prod.snd
  | _ => none

def bool? : Value → Option Bool
  | .bool value => some value
  | _ => none

/-- Whole numbers below a bound. -/
def below? (bound : Nat) (value : Value) : Option Nat :=
  match value with
  | .integer (.ofNat number) => if number < bound then some number else none
  | _ => none

/-- Whole numbers that a word of 64 bits holds in two's complement. -/
def int64? (value : Value) : Option Int :=
  match value with
  | .integer number =>
      if -0x8000000000000000 ≤ number ∧ number < 0x8000000000000000 then some number else none
  | _ => none

def text? : Value → Option Text
  | .text value => some value
  | _ => none

/-- An array whose items all decode. -/
def array? {A : Type} (decode : Value → Option A) : Value → Option (List A)
  | .array items => items.mapM decode
  | _ => none

def texts? (value : Value) : Option (List Text) := value.array? text?

/-- A member that must be there. -/
def required? {A : Type} (key : Text) (decode : Value → Option A) (value : Value) : Option A :=
  (value.member? key).bind decode

/-- A member that may be missing or null. -/
def optional? {A : Type} (key : Text) (decode : Value → Option A) (value : Value) :
    Option (Option A) :=
  match value.member? key with
  | none | some .null => some none
  | some present => (decode present).map some

end Value

end Blocklist.Json
