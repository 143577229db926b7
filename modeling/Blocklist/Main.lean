/-
This program converts the filter list on standard input into the rules of a content blocker. A
whole number as its argument takes the place of the usual limit.
-/

import Blocklist.Batch.Report

namespace Blocklist.CommandLine

partial def readAll (input : IO.FS.Stream) (text : String) : IO String := do
  let line ← input.getLine
  if line.isEmpty then return text else readAll input (text ++ line)

/-- The limit that the arguments give; what is no whole number is refused. -/
def limit? (arguments : List String) : Option Int :=
  match arguments with
  | [] => some (Int.ofNat ruleLimit)
  | argument :: _ => argument.toInt?

/-- What is told of a conversion besides its rules. -/
def summary (report : Report) : Text :=
  "Converted ".toList ++ Event.number report.convertedCount ++ " rules (".toList ++
    Event.number report.errorsCount ++ " errors, over limit: ".toList ++
    (if report.overLimit then "true".toList else "false".toList) ++ ")".toList

def convert (limit : Int) (text : String) : IO UInt32 := do
  match Report.ofText (some limit) text.toList with
  | .error cause =>
      IO.eprintln (String.ofList cause.message)
      return 1
  | .ok report =>
      for event in report.events.filter (fun event => event.level ≠ .debug) do
        IO.eprintln (String.ofList event.message)
      IO.eprintln (String.ofList (summary report))
      IO.println (String.ofList report.converted)
      return 0

end Blocklist.CommandLine

def main (arguments : List String) : IO UInt32 := do
  match Blocklist.CommandLine.limit? arguments with
  | some limit =>
      let text ← Blocklist.CommandLine.readAll (← IO.getStdin) ""
      Blocklist.CommandLine.convert limit text
  | none =>
      IO.eprintln "limit must be an integer"
      return 1
