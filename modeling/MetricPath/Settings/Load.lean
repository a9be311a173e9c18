import MetricPath.Settings.Environment
import MetricPath.Settings.Read
import MetricPath.Yaml.Value

/-!
# Loading settings

Settings come from a configuration file in YAML and from environment variables, which are laid
over the file.  A file that is asked for has to exist; the default one need not.

How files are read is a parameter, `fileText`, which gives no text for what is not a file.  The
environment is a list of names and texts.
-/

namespace MetricPath.Settings

/-- Why settings cannot be loaded. -/
inductive LoadError where
  /-- There is no such file. -/
  | notFound (path : String)
  | faulty (fault : Fault)
  | invalid (reason : Invalid)
deriving DecidableEq, Repr

/-- The message of an error; a fault is only said to be one. -/
def LoadError.message : LoadError → String
  | .notFound path => "configuration file " ++ path ++ " does not exist"
  | .faulty _ => "failed to load configuration"
  | .invalid reason => reason.message

/-- The file that is read when none is asked for. -/
def defaultFile : String := "graphite-bridge.yaml"

/-- The settings of a table of fields, with the ones that the environment sets laid over it. -/
def ofSources (fields : List (String × Value)) (environment : List (String × String)) :
    Except LoadError Settings := do
  let fields := Value.overlayFields fields (Environment.fields environment)
  let s ← (ofFields fields).mapError .faulty
  s.validate.mapError .invalid

/-- The settings of a text in YAML and of the environment. -/
def ofYaml (text : String) (environment : List (String × String)) : Except LoadError Settings :=
  match Yaml.fieldsOf? text.toList with
  | some fields => ofSources fields environment
  | none => .error (.faulty (.here .unreadable))

/-- Load the settings of a file, or of the default one. -/
def load {m : Type → Type} [Monad m] (fileText : String → m (Option String))
    (environment : List (String × String)) (path? : Option String) :
    m (Except LoadError Settings) := do
  match path? with
  | some path =>
    match ← fileText path with
    | some text => return ofYaml text environment
    | none => return .error (.notFound path)
  | none => return ofYaml ((← fileText defaultFile).getD "") environment

end MetricPath.Settings
