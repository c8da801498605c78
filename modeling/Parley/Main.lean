import Parley.CommandLine
import Parley.Json.Layout

/-!
The command: it gathers arguments, environment and randomness, and prints what the self-check says.
-/

open Parley

def randomBytes (count : Nat) : IO Bytes := do
  return (← IO.getRandomBytes count.toUSize).data.toList

def main (arguments : List String) : IO UInt32 := do
  let values ← Settings.variableNames.mapM fun name => do return (name, ← IO.getEnv name)
  let environment : Environment := fun name => (values.lookup name).join
  let freshKey ← randomBytes CommandLine.freshKeyLength
  let patterns ← (List.range 8).mapM fun _ => randomBytes nonceLength
  let report := CommandLine.run arguments environment freshKey (NonceSupply.listed patterns)
  for output in report.output do
    IO.println output.pretty
  for failure in report.failure do
    IO.eprintln ("Error: " ++ failure.message)
  return report.exitCode.toUInt32
