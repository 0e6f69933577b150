import ClockManager.Command
/-!
# The program

Prints what a command reports; errors also go to the error stream.
-/

namespace ClockManager

/-- The text of a file, or why it cannot be read. -/
def readTextFile (path : String) : IO (Except String String) := do
  try
    return .ok (← IO.FS.readFile path)
  catch error =>
    return .error (toString error)

end ClockManager

def main (args : List String) : IO Unit := do
  let report ← (ClockManager.Command.ofArgs args).execute ClockManager.readTextFile
  for record in report.log do
    if record.level = .error then IO.eprintln record.line
  IO.println report.output
