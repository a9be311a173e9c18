import MetricPath.Check
import MetricPath.Path.Read
import MetricPath.Settings.Display
import MetricPath.Tool.Command

/-!
# The command line tool

A run of the tool reads files and its input, and gives two texts and an exit code: zero, one for a
command that failed and two for arguments that make no sense.  How files and input are read are
parameters.
-/

namespace MetricPath.Tool

/-- What a run gives. -/
structure Output where
  exitCode : Nat
  /-- The text for the standard output. -/
  text : String
  /-- The text for the standard error. -/
  complaint : String
deriving DecidableEq, Repr

/-- The output of a command that succeeded. -/
def Output.success (text : String) : Output := ⟨0, text, ""⟩

/-- The output of a command that failed with a message. -/
def Output.failure (text complaint message : String) : Output :=
  ⟨1, text, complaint ++ "Error: " ++ message ++ "\n"⟩

/-- Lines, each with its ending. -/
def unlines (lines : List String) : String := String.join (lines.map (· ++ "\n"))

/-- The name of the tool and its version. -/
def versionText : String := "bridgetool 0.1.0\n"

/-! ## Checks -/

/-- The lines about a case. -/
def outcomeLines (o : Check.Outcome) : List String :=
  ("## " ++ o.name) ::
    (if o.passed then ["OK"]
     else
      "Unexpected output:" :: (o.missing.map ("-" ++ ·) ++ o.extra.map ("+" ++ ·)))

/-- The output about cases that have been run with a settings file. -/
def checkOutput (settingsPath : String) (outcomes : List Check.Outcome) : Output :=
  let text := unlines (("# Testing " ++ settingsPath) :: outcomes.flatMap outcomeLines)
  let failed := outcomes.countP fun o => !o.passed
  if failed = 0 then .success text
  else .failure text ""
    (toString failed ++ " of " ++ toString outcomes.length ++ " test case(s) failed")

/-! ## Paths -/

/-- The output about paths whose labels are asked for. -/
def parseOutput (beginning : String) (paths : List String) : Output :=
  let read (path : String) : String × Except PathError LabelSet :=
    (path, LabelSet.ofPath path beginning)
  let results := paths.map read
  let lines := results.filterMap fun (_, r) => r.toOption.map LabelSet.render
  let complaints := results.filterMap fun (path, r) =>
    match r with
    | .ok _ => none
    | .error e => some (path ++ ": " ++ e.message)
  if complaints.isEmpty then .success (unlines lines)
  else .failure (unlines lines) (unlines complaints)
    (toString complaints.length ++ " path(s) could not be parsed")

/-! ## Samples -/

/-- The output about samples in the exposition format. -/
def renderOutput (s : Settings) (beginning? : Option String) (input : String) (now : Int) :
    Output :=
  match Translator.ofSettings s with
  | .error _ => .failure "" "" "Failed to compile rules"
  | .ok t =>
    match Exposition.read input now with
    | .error e => .failure "" "" e.message
    | .ok samples => .success (String.join (t.encodeBatch samples beginning? none).1)

/-! ## Runs -/

/-- What a run depends on. -/
structure World (m : Type → Type) where
  /-- The text of a file, if there is one. -/
  fileText : String → m (Option String)
  /-- The text of the standard input. -/
  inputText : m String
  /-- The variables of the environment. -/
  environment : List (String × String)
  /-- The current time in milliseconds. -/
  now : Int

variable {m : Type → Type} [Monad m]

/-- Go on with the settings of a file, or fail. -/
def World.withSettings (w : World m) (path? : Option String) (go : Settings → m Output) :
    m Output := do
  match ← Settings.load w.fileText w.environment path? with
  | .ok s => go s
  | .error _ => return .failure "" "" "Failed to load configuration"

/-- Run a command. -/
def Command.run (w : World m) : Command → m Output
  | .unittest file => do
    match ← Check.runFile w.fileText w.environment w.now file with
    | .ok (settingsPath, outcomes) => return checkOutput settingsPath outcomes
    | .error fault => return .failure "" "" fault.message
  | .render settings? beginning? =>
    w.withSettings settings? fun s => do
      return renderOutput s beginning? (← w.inputText) w.now
  | .parse beginning paths => return parseOutput beginning paths
  | .config settings? json =>
    w.withSettings settings? fun s =>
      return .success (if json then s.renderJson ++ "\n" else unlines s.summaryLines)

/-- Run the tool with arguments. -/
def run (w : World m) (args : List String) : m Output :=
  match Request.ofArguments args with
  | .run _ command => command.run w
  | .version => return .success versionText
  | .misuse => return ⟨2, "", "error: the arguments make no sense\n"⟩

end MetricPath.Tool
