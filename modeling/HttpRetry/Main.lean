import HttpRetry.Cli.Plan
import Std.Time.DateTime.Timestamp

/-!
The `retryplan` program: reads the configuration file its command line names, takes the time,
runs the command line, prints what it printed and logged, and ends with `Error: ` and the
failure's message (exit status 1) when the run failed.
-/

open HttpRetry HttpRetry.Cli

/-- Reads a file, if it can be read. -/
def readIfThere (path : String) : IO (List (String × String)) := do
  try
    let text ← IO.FS.readFile path
    return [(path, text)]
  catch _ =>
    return []

def main (args : List String) : IO UInt32 := do
  let files ← match configPathOf args with
    | some path => readIfThere path
    | none => pure []
  let now := (← Std.Time.Timestamp.now).toNanosecondsSinceUnixEpoch.val
  let run := runPlan ⟨files, now, Time.rfc3339 now⟩ args
  IO.print run.out
  let err ← IO.getStderr
  for line in run.log do
    err.putStrLn line
  match run.failure with
  | some f =>
    err.putStrLn ("Error: " ++ f.message)
    return 1
  | none => return 0
