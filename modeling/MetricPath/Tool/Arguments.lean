/-!
# Command line arguments

Options come in a long form, `--config file` or `--config=file`, and in a short one, `-c file`,
`-cfile` or `-c=file`; short flags can be joined.  Each option is given at most once, an argument
that begins with a dash is no value of the option before it, and `--` ends the options.
-/

namespace MetricPath.Tool

/-- What an option takes. -/
inductive OptionKind where
  | flag
  /-- Any text. -/
  | text
  /-- A text that is not empty. -/
  | path
deriving DecidableEq, Repr

/-- An option. -/
structure OptionSpec where
  /-- The name that its value has when arguments have been read. -/
  name : String
  kind : OptionKind
  long : List String
  short? : Option Char
deriving DecidableEq, Repr

/-- Arguments that have been read. -/
structure Arguments where
  /-- Options and their values; flags have the empty one. -/
  options : List (String × String) := []
  positionals : List String := []
deriving DecidableEq, Repr

namespace Arguments

/-- The value of an option. -/
def get? (a : Arguments) (name : String) : Option String := a.options.lookup name

/-- Whether an option is given. -/
def has (a : Arguments) (name : String) : Bool := (a.get? name).isSome

/-- Add an option, which must not have been given and must have a value that it takes. -/
def add? (a : Arguments) (spec : OptionSpec) (value : String) : Option Arguments :=
  if a.has spec.name || (spec.kind = .path && value = "") then none
  else some { a with options := a.options ++ [(spec.name, value)] }

end Arguments

/-- Whether an argument is an option and not a value. -/
def looksLikeOption (arg : String) : Bool :=
  match arg.toList with
  | '-' :: _ :: _ => true
  | _ => false

/-- What an argument gives, when what follows it is known. -/
inductive Reading where
  | done (a : Arguments)
  /-- The next argument is the value of an option. -/
  | needsValue (a : Arguments) (spec : OptionSpec)

/-- The name and the value of a long option. -/
def splitLong (cs : List Char) : String × Option String :=
  let name := String.ofList (cs.takeWhile (· ≠ '='))
  match cs.dropWhile (· ≠ '=') with
  | _ :: value => (name, some (String.ofList value))
  | [] => (name, none)

/-- Read a long option without its dashes. -/
def readLong (specs : List OptionSpec) (a : Arguments) (cs : List Char) : Option Reading := do
  let (name, value?) := splitLong cs
  let spec ← specs.find? fun spec => name ∈ spec.long
  match spec.kind, value? with
  | .flag, none => return .done (← a.add? spec "")
  | .flag, some _ => none
  | _, some value => return .done (← a.add? spec value)
  | _, none => return .needsValue a spec

/-- Read short options without their dash. -/
def readShort (specs : List OptionSpec) (a : Arguments) : List Char → Option Reading
  | [] => some (.done a)
  | c :: cs => do
    let spec ← specs.find? fun spec => spec.short? = some c
    match spec.kind, cs with
    | .flag, cs => readShort specs (← a.add? spec "") cs
    | _, [] => return .needsValue a spec
    | _, '=' :: value => return .done (← a.add? spec (String.ofList value))
    | _, value => return .done (← a.add? spec (String.ofList value))

/-- Read an argument that looks like an option. -/
def readOption (specs : List OptionSpec) (a : Arguments) (arg : String) : Option Reading :=
  match arg.toList with
  | '-' :: '-' :: cs => readLong specs a cs
  | '-' :: cs => readShort specs a cs
  | _ => none

/-- Read arguments; `pending?` is an option whose value comes next. -/
def readArguments (specs : List OptionSpec) (pending? : Option OptionSpec) (a : Arguments) :
    List String → Option Arguments
  | [] => if pending?.isSome then none else some a
  | arg :: args =>
    match pending? with
    | some spec =>
      if looksLikeOption arg then none
      else do readArguments specs none (← a.add? spec arg) args
    | none =>
      if arg = "--" then some { a with positionals := a.positionals ++ args }
      else if looksLikeOption arg then do
        match ← readOption specs a arg with
        | .done a => readArguments specs none a args
        | .needsValue a spec => readArguments specs (some spec) a args
      else readArguments specs none { a with positionals := a.positionals ++ [arg] } args

end MetricPath.Tool
