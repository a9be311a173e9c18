import MetricPath.Tool
import Std.Time.DateTime.Timestamp

/-!
# The program

The command line tool with the files, the input, the environment and the clock of the system.
-/

namespace MetricPath

/-- The text of a file, if there is one and it can be read. -/
def readTextFile (path : String) : IO (Option String) := do
  try
    return some (← IO.FS.readFile path)
  catch _ =>
    return none

/-- The variables of the environment, as the system lists them. -/
def environmentVariables : IO (List (String × String)) := do
  let text := (← readTextFile "/proc/self/environ").getD ""
  let entries := Text.splitChar (Char.ofNat 0) text.toList
  return entries.filterMap fun entry =>
    (Text.cutAt? ['='] entry).map fun (name, value) => (String.ofList name, String.ofList value)

/-- The program in its surroundings. -/
def systemWorld : IO (Tool.World IO) := do
  return {
    fileText := readTextFile
    inputText := do (← IO.getStdin).readToEnd
    environment := ← environmentVariables
    now := (← Std.Time.Timestamp.now).toMillisecondsSinceUnixEpoch.val }

end MetricPath

/-- Run the tool, print its two texts and give its exit code. -/
def main (args : List String) : IO UInt32 := do
  let output ← MetricPath.Tool.run (← MetricPath.systemWorld) args
  IO.print output.text
  IO.eprint output.complaint
  return output.exitCode.toUInt32
