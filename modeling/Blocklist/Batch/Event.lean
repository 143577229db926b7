/-
This file holds the events that a conversion logs.
-/

import Blocklist.Content.Error

namespace Blocklist

/-- The version that a conversion announces. -/
def version : Text := "0.1.0".toList

inductive Level where
  | debug
  | info
  | error
deriving DecidableEq, Repr

def Level.name : Level → Text
  | .debug => "debug".toList
  | .info => "info".toList
  | .error => "error".toList

/-- The sizes of the groups of a batch, and the count of its diagnostics. -/
structure GroupCounts where
  wide : Nat
  domainSensitive : Nat
  pageExceptions : Nat
  blocking : Nat
  other : Nat
  diagnostics : Nat
deriving DecidableEq, Repr

inductive Event where
  | started (count : Nat)
  | rejected (line : Text) (cause : ConversionError)
  | applyingExceptions (count : Nat)
  | conflict (line : Text)
  | exceptionsApplied (count : Nat)
  | exceptionsFailed (count : Nat)
  | compacting (count : Nat)
  | compacted (wide domainSensitive : Nat)
  | grouped (counts : GroupCounts)
  | limitReached (limit ignored : Nat)
deriving DecidableEq, Repr

namespace Event

def level : Event → Level
  | .rejected _ _ => .debug
  | .conflict _ => .debug
  | .limitReached _ _ => .error
  | _ => .info

def number (value : Nat) : Text := (toString value).toList

def message : Event → Text
  | .started count => "Converting ".toList ++ number count ++ " rules".toList
  | .rejected line cause =>
      "Unable to convert rule `".toList ++ line ++ "`: ".toList ++ cause.message
  | .applyingExceptions count =>
      "Applying ".toList ++ number count ++ " css exceptions".toList
  | .conflict line =>
      "Css exceptions leave `".toList ++ line ++
        "` with both permitted and restricted domains".toList
  | .exceptionsApplied count => "Css exceptions applied: ".toList ++ number count
  | .exceptionsFailed count => "Css exceptions errors: ".toList ++ number count
  | .compacting count =>
      "Trying to compact ".toList ++ number count ++ " elemhide rules".toList
  | .compacted wide domainSensitive =>
      "Compacted result: wide=".toList ++ number wide ++ " domainSensitive=".toList ++
        number domainSensitive
  | .grouped counts =>
      "Rules converted: css wide ".toList ++ number counts.wide ++
        ", css domain sensitive ".toList ++ number counts.domainSensitive ++
        ", elemhide exceptions ".toList ++ number counts.pageExceptions ++
        ", url blocking ".toList ++ number counts.blocking ++
        ", other ".toList ++ number counts.other ++
        ", errors ".toList ++ number counts.diagnostics
  | .limitReached limit ignored =>
      number limit ++ " limit is achieved, ".toList ++ number ignored ++
        " rules will be ignored".toList

end Event

end Blocklist
