import MetricPath.Check.File
import MetricPath.Exposition
import MetricPath.FilePath
import MetricPath.Settings.Load
import MetricPath.Translator

/-!
# Checks of settings

A check translates the input of a case and compares the lines with the expected ones.  The order
of lines does not count and white space at their ends does not either, but how often a line occurs
does.
-/

namespace MetricPath.Check

/-! ## Comparison -/

/-- The lines of a text that count, in ascending order. -/
def sortedLines (text : String) : List String :=
  let lines := (Text.lines text.toList).map (Text.trimEnd Text.isBlank)
  ((lines.filter fun line => !line.isEmpty).map String.ofList).mergeSort fun a b => !(b < a)

/-- Of expected and produced lines, those left over when equal ones are paired off. -/
def pairOff : (expected produced : List String) → List String × List String
  | missing, [] => (missing, [])
  | missing, line :: lines =>
    if line ∈ missing then pairOff (missing.erase line) lines
    else
      let (missing, extra) := pairOff missing lines
      (missing, line :: extra)

/-- How a case went. -/
structure Outcome where
  name : String
  /-- Expected lines that were not produced. -/
  missing : List String
  /-- Produced lines that were not expected. -/
  extra : List String
deriving DecidableEq, Repr

/-- Whether the lines are the expected ones. -/
def Outcome.passed (o : Outcome) : Bool := o.missing.isEmpty && o.extra.isEmpty

/-- Compare the lines of two texts. -/
def compare (name expected produced : String) : Outcome :=
  let (missing, extra) := pairOff (sortedLines expected) (sortedLines produced)
  ⟨name, missing, extra⟩

/-! ## Running -/

/-- Why cases cannot be run. -/
inductive Fault where
  | unreadableFile (path : String)
  | malformedFile (path : String)
  | settings (path : String) (reason : Settings.LoadError)
  | rules (reason : PathError)
  | input (case : String) (reason : Exposition.Fault)
deriving DecidableEq

/-- The message of a fault. -/
def Fault.message : Fault → String
  | .unreadableFile path => "Failed to read test file " ++ path
  | .malformedFile path => "Failed to parse test file " ++ path
  | .settings path _ => "Failed to load configuration " ++ path
  | .rules _ => "Failed to compile rules"
  | .input case _ => "Invalid input in test case " ++ Text.quoted case

/-- Run cases one after another; samples without a time have the time `now`. -/
def runCases (now : Int) (t : Translator) : List Case → Except Fault (List Outcome)
  | [] => .ok []
  | c :: cs => do
    let samples ← (Exposition.read c.input now).mapError (.input c.name)
    let (buffers, t) := t.encodeBatch samples none none
    return compare c.name c.output (String.join buffers) :: (← runCases now t cs)

/-- Run the cases of a file with settings. -/
def runWith (now : Int) (s : Settings) (cases : List Case) : Except Fault (List Outcome) := do
  let config ← s.pathConfig.mapError .rules
  runCases now (Translator.new config none) cases

/-- Run the cases of the file at a path: the path of the settings file, and how the cases went. -/
def runFile {m : Type → Type} [Monad m] (fileText : String → m (Option String))
    (environment : List (String × String)) (now : Int) (path : String) :
    m (Except Fault (String × List Outcome)) := do
  match ← fileText path with
  | none => return .error (.unreadableFile path)
  | some text =>
    match File.read? text with
    | none => return .error (.malformedFile path)
    | some file =>
      let settingsPath := FilePath.join (FilePath.directory path) file.settingsFile
      match ← Settings.load fileText environment (some settingsPath) with
      | .error e => return .error (.settings settingsPath e)
      | .ok s =>
        match runWith now s file.cases with
        | .error e => return .error e
        | .ok outcomes => return .ok (settingsPath, outcomes)

end MetricPath.Check
