/-
# The program that explains searches

`main` runs the command line on today's date, prints what it says and ends with its status.
-/
import Realty.CommandLine
import Std.Time.Zoned

namespace Realty.CommandLine

/-- Today's date. -/
def currentDate : IO Date := do
  let d ← Std.Time.PlainDate.now
  return ⟨d.year.toInt.toNat, d.month.toNat, d.day.toNat⟩

/-- Prints an outcome, and gives its status. -/
def Outcome.print (o : Outcome) : IO UInt32 := do
  (← IO.getStdout).putStr o.stdout
  (← IO.getStderr).putStr o.stderr
  match o.exit with
  | .status n => return UInt32.ofNat n
  | .reason s =>
    (← IO.getStderr).putStrLn s
    return 1

end Realty.CommandLine

/-- The program. -/
def main (arguments : List String) : IO UInt32 := do
  match Realty.CommandLine.run .standard (← Realty.CommandLine.currentDate) arguments with
  | .ok o => o.print
  | .error e =>
    (← IO.getStderr).putStrLn e.message
    return 1
