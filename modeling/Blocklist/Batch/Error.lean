/-
This file holds the reasons why a whole list cannot be converted.
-/

import Blocklist.Text

namespace Blocklist

inductive BatchError where
  | emptyInput
  | foreignAction
deriving DecidableEq, Repr

def BatchError.message : BatchError → Text
  | .emptyInput => "no rules to convert".toList
  | .foreignAction =>
      "internal invariant violated: only css-display-none rules can be compacted".toList

end Blocklist
