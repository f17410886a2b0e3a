import Permit.Log.Time
import Permit.Tour
import Std.Time.DateTime.Timestamp

/-!
# The tour as a program
-/

/-- Walks the tour with the settings of the environment; the log goes to the standard output. -/
def main : IO UInt32 := do
  let filter ← IO.getEnv Permit.Log.filterVariable
  let ansi ← IO.getEnv Permit.Log.ansiVariable
  let now ← Std.Time.Timestamp.now
  let micros := now.toNanosecondsSinceUnixEpoch.val.toNat / 1000
  let ending := Permit.Tour.run filter ansi (Permit.Log.timeText micros)
  IO.print ending.stdout
  IO.eprint ending.stderr
  return ending.exit.toUInt32
