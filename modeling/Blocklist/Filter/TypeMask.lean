/-
This file holds the set of request types and page exceptions that a URL rule names.
-/

namespace Blocklist

/-- A mask is a set of up to 32 types, one for each bit. -/
structure TypeMask where
  bits : BitVec 32
deriving DecidableEq, Repr

namespace TypeMask

instance : EmptyCollection TypeMask := ⟨⟨0⟩⟩

instance : Union TypeMask := ⟨fun first second => ⟨first.bits ||| second.bits⟩⟩

instance : Inter TypeMask := ⟨fun first second => ⟨first.bits &&& second.bits⟩⟩

instance : SDiff TypeMask := ⟨fun whole removed => ⟨whole.bits &&& ~~~removed.bits⟩⟩

/-- The type with this index belongs to the mask. -/
def has (mask : TypeMask) (index : Nat) : Bool := mask.bits.getLsbD index

theorem hasUnion (first second : TypeMask) (index : Nat) :
    (first ∪ second).has index = (first.has index || second.has index) :=
  BitVec.getLsbD_or

theorem hasInter (first second : TypeMask) (index : Nat) :
    (first ∩ second).has index = (first.has index && second.has index) :=
  BitVec.getLsbD_and

theorem hasDiff (whole removed : TypeMask) (index : Nat) :
    (whole \ removed).has index = (whole.has index && !removed.has index) := by
  change (whole.bits &&& ~~~removed.bits).getLsbD index = _
  rw [BitVec.getLsbD_and, BitVec.getLsbD_not, has, has]
  by_cases inRange : index < 32
  · simp [inRange]
  · simp [BitVec.getLsbD_of_ge _ index (Nat.le_of_not_lt inRange)]

theorem eqOfHas {first second : TypeMask}
    (same : ∀ index, index < 32 → first.has index = second.has index) : first = second := by
  cases first
  cases second
  congr 1
  exact BitVec.eq_of_getLsbD_eq same

/-- The mask has every type of the part. -/
def contains (mask part : TypeMask) : Bool := mask ∩ part == part

/-- The mask has some type of the part. -/
def meets (mask part : TypeMask) : Bool := mask ∩ part != ∅

/-- The binary digits of the mask, without leading zeros. -/
def digits (mask : TypeMask) : List Char := Nat.toDigits 2 mask.bits.toNat

def single (index : Nat) : TypeMask := ⟨1#32 <<< index⟩

def other : TypeMask := single 0
def script : TypeMask := single 1
def styleSheet : TypeMask := single 2
def object : TypeMask := single 3
def image : TypeMask := single 4
def xmlHttpRequest : TypeMask := single 5
def objectSubrequest : TypeMask := single 6
def media : TypeMask := single 7
def font : TypeMask := single 8
def subdocument : TypeMask := single 9
def webSocket : TypeMask := single 10

def elemHide : TypeMask := single 20
def urlBlock : TypeMask := single 21
def jsInject : TypeMask := single 22
def content : TypeMask := single 23
def popup : TypeMask := single 24
def genericHide : TypeMask := single 25
def genericBlock : TypeMask := single 26

/-- A rule that names no request type applies to these. -/
def all : TypeMask :=
  other ∪ script ∪ styleSheet ∪ object ∪ image ∪ xmlHttpRequest ∪ objectSubrequest ∪ media

/-- A document exception turns every kind of filtering off. -/
def document : TypeMask := elemHide ∪ urlBlock ∪ jsInject ∪ content

end TypeMask

end Blocklist
