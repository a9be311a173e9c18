import MetricPath.Duration
import MetricPath.Value

/-!
# Reading values as settings

A value is read as what a setting needs: a text, a truth value, a duration, a list, a table of
texts or a record.  A record is written as an object, or as a list that gives its fields in their
order; a field that is not given keeps its default.

The fields of an object are read in the order of their names and the first fault counts, with the
names and positions that lead to it.
-/

namespace MetricPath.Settings

/-- What is wrong with a value. -/
inductive FaultKind where
  /-- The text is not YAML, or not one mapping. -/
  | unreadable
  /-- The value is of another type. -/
  | wrongType
  /-- The value is of the right type but denotes nothing. -/
  | wrongValue
  /-- The record has no such field. -/
  | unknownField
  /-- A whole number that data cannot hold. -/
  | numberTooLarge
deriving DecidableEq, Repr

/-- A fault, and the names and positions that lead to it. -/
structure Fault where
  kind : FaultKind
  path : List String
deriving DecidableEq, Repr

/-- A fault of the value itself. -/
def Fault.here (kind : FaultKind) : Fault := ⟨kind, []⟩

/-- What reading a value gives. -/
abbrev Read := Except Fault

/-- A fault of what a name or a position leads to. -/
def within {α : Type} (step : String) (read : Read α) : Read α :=
  read.mapError fun fault => { fault with path := step :: fault.path }

def readText : Value → Read String
  | .string s => .ok s
  | _ => .error (.here .wrongType)

def readBool : Value → Read Bool
  | .bool b => .ok b
  | _ => .error (.here .wrongType)

def readDuration : Value → Read Duration
  | .string s =>
    match Duration.read? s.toList with
    | some d => .ok d
    | none => .error (.here .wrongValue)
  | _ => .error (.here .wrongType)

/-- Read a text that may be absent, which null says. -/
def readOptionalText : Value → Read (Option String)
  | .null => .ok none
  | v => do return some (← readText v)

/-- Read each of the items from a position on. -/
def readItemsFrom {α : Type} (read : Value → Read α) :
    (position : Nat) → List Value → Read (List α)
  | _, [] => .ok []
  | position, v :: vs => do
    let item ← within (toString position) (read v)
    return item :: (← readItemsFrom read (position + 1) vs)

/-- Read a list. -/
def readList {α : Type} (read : Value → Read α) : Value → Read (List α)
  | .list items => readItemsFrom read 0 items
  | _ => .error (.here .wrongType)

/-- Read a table from names to texts. -/
def readTextTable : Value → Read (List (String × String))
  | .object fields => fields.mapM fun (name, v) => do return (name, ← within name (readText v))
  | _ => .error (.here .wrongType)

/-! ## Records -/

/-- How the fields of a record are read. -/
structure RecordReader (α : Type) where
  /-- The names of the fields, in their order. -/
  names : List String
  /-- The record with the field of a name set. -/
  set : String → Value → α → Read α

/-- Set fields from an object. -/
def RecordReader.setFields {α : Type} (r : RecordReader α) (record : α) :
    List (String × Value) → Read α
  | [] => .ok record
  | (name, v) :: rest => do
    if name ∈ r.names then
      r.setFields (← within name (r.set name v record)) rest
    else .error ⟨.unknownField, [name]⟩

/-- Set fields from a list, of which the first has a position. -/
def RecordReader.setItems {α : Type} (r : RecordReader α) (record : α) :
    (position : Nat) → List String → List Value → Read α
  | position, name :: names, v :: vs => do
    r.setItems (← within (toString position) (r.set name v record)) (position + 1) names vs
  | _, _, _ => .ok record

/-- Read a record; `record` has the defaults of its fields. -/
def RecordReader.read {α : Type} (r : RecordReader α) (record : α) : Value → Read α
  | .object fields => r.setFields record fields
  | .list items => r.setItems record 0 r.names items
  | _ => .error (.here .wrongType)

end MetricPath.Settings
