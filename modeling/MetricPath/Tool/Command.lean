import MetricPath.Tool.Arguments

/-!
# Commands

The tool has four commands.  Two flags that say how much is logged can stand before and after the
command.
-/

namespace MetricPath.Tool

/-- How much is logged. -/
structure Verbosity where
  verbose : Bool
  quiet : Bool
deriving DecidableEq, Repr

/-- The least level of messages that are logged.  Quiet wins over verbose. -/
def Verbosity.logLevel (v : Verbosity) : String :=
  if v.quiet then "warn" else if v.verbose then "debug" else "info"

/-- What the tool does. -/
inductive Command where
  /-- Run the cases of a file of checks. -/
  | unittest (file : String)
  /-- Print the lines of samples. -/
  | render (settings? beginning? : Option String)
  /-- Print the labels of paths. -/
  | parse (beginning : String) (paths : List String)
  /-- Show the effective settings. -/
  | config (settings? : Option String) (json : Bool)
deriving DecidableEq, Repr

/-- What arguments ask for. -/
inductive Request where
  | run (verbosity : Verbosity) (command : Command)
  | version
  /-- The arguments make no sense. -/
  | misuse
deriving DecidableEq, Repr

/-! ## Options -/

def verboseOption : OptionSpec := ⟨"verbose", .flag, ["verbose"], some 'v'⟩

def quietOption : OptionSpec := ⟨"quiet", .flag, ["quiet"], some 'q'⟩

def configOption : OptionSpec := ⟨"config", .path, ["config"], some 'c'⟩

def prefixOption : OptionSpec := ⟨"prefix", .text, ["prefix"], none⟩

def jsonOption : OptionSpec := ⟨"json", .flag, ["json"], none⟩

def fileOption : OptionSpec := ⟨"test-file", .path, ["test-file", "test.file"], none⟩

/-- The options of every command. -/
def generalOptions : List OptionSpec := [verboseOption, quietOption]

/-- The command of a name and the arguments after it, with the arguments that have been read. -/
def command? (name : String) (args : List String) : Option (Command × Arguments) := do
  let read (specs : List OptionSpec) : Option Arguments :=
    readArguments (generalOptions ++ specs) none {} args
  let bare (a : Arguments) (c : Command) : Option (Command × Arguments) :=
    if a.positionals.isEmpty then some (c, a) else none
  match name with
  | "unittest" => do
    let a ← read [fileOption]
    bare a (.unittest (← a.get? fileOption.name))
  | "render" => do
    let a ← read [configOption, prefixOption]
    bare a (.render (a.get? configOption.name) (a.get? prefixOption.name))
  | "parse" => do
    let a ← read [prefixOption]
    if a.positionals.isEmpty then none
    else return (.parse ((a.get? prefixOption.name).getD "") a.positionals, a)
  | "config" => do
    let a ← read [configOption, jsonOption]
    bare a (.config (a.get? configOption.name) (a.has jsonOption.name))
  | _ => none

/-- The request of a command and its arguments, after the general options `before`. -/
def requestOf (before : Arguments) (name : String) (args : List String) : Request :=
  match command? name args with
  | none => .misuse
  | some (command, after) =>
    let has (spec : OptionSpec) : Bool := before.has spec.name || after.has spec.name
    .run ⟨has verboseOption, has quietOption⟩ command

/-- Read short flags before the command; a `V` asks for the version. -/
def leadingFlags (before : Arguments) : List Char → Option Request ⊕ Arguments
  | [] => .inr before
  | 'V' :: _ => .inl (some .version)
  | c :: cs =>
    match (generalOptions.find? fun spec => spec.short? = some c).bind fun spec =>
        before.add? spec "" with
    | some before => leadingFlags before cs
    | none => .inl none

/-- What arguments ask for, after the general options `before`. -/
def readRequest (before : Arguments) : List String → Request
  | [] => .misuse
  | arg :: args =>
    if arg = "--version" then .version
    else
      match arg.toList with
      | '-' :: '-' :: cs =>
        match readLong generalOptions before cs with
        | some (.done before) => readRequest before args
        | _ => .misuse
      | '-' :: c :: cs =>
        match leadingFlags before (c :: cs) with
        | .inr before => readRequest before args
        | .inl request? => request?.getD .misuse
      | _ => requestOf before arg args

/-- What arguments ask for. -/
def Request.ofArguments (args : List String) : Request := readRequest {} args

end MetricPath.Tool
