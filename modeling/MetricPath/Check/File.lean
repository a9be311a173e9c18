import MetricPath.Yaml.Value

/-!
# Files of checks

A file of checks is a YAML document that names a settings file and lists cases.  Its records have
no fields but the ones given here, each at most once; they may also be written as lists of their
fields.
-/

namespace MetricPath.Check

/-- Input in the exposition format, and the lines that are expected of it. -/
structure Case where
  name : String
  input : String
  output : String
deriving DecidableEq, Repr

/-- A settings file and the cases it is checked with. -/
structure File where
  /-- Seen from the directory of the file of checks. -/
  settingsFile : String
  cases : List Case
deriving DecidableEq, Repr

open Yaml (Node)

/-- The fields of a record with the given field names. -/
def fields? (names : List String) : Node → Option (List (String × Node))
  | .mapping _ pairs => do
    let fields ← pairs.mapM fun (k, v) => do return (← k.text?, v)
    let given := fields.map Prod.fst
    if given.all (· ∈ names) && given.Nodup then return fields else none
  | .sequence _ items => if items.length ≤ names.length then some (names.zip items) else none
  | node => if node.isBlank then some [] else none

/-- A text field that is required. -/
def textField? (name : String) (fields : List (String × Node)) : Option String :=
  (fields.lookup name).bind Node.text?

/-- A text field that is empty if it is not given. -/
def textFieldOrEmpty? (name : String) (fields : List (String × Node)) : Option String :=
  match fields.lookup name with
  | some node => node.text?
  | none => some ""

/-- The case of a node. -/
def case? (node : Node) : Option Case := do
  let fields ← fields? ["name", "input", "output"] node
  return ⟨← textField? "name" fields, ← textFieldOrEmpty? "input" fields,
    ← textFieldOrEmpty? "output" fields⟩

/-- The cases of a node. -/
def cases? : Node → Option (List Case)
  | .sequence _ items => items.mapM case?
  | node => if node.isBlank then some [] else none

/-- The file of checks that a text is. -/
def File.read? (text : String) : Option File := do
  match ← Node.load? text.toList with
  | none => none
  | some node => do
    let fields ← fields? ["config_file", "tests"] node
    let settingsFile ← textField? "config_file" fields
    let cases ← match fields.lookup "tests" with
      | some node => cases? node
      | none => some []
    return ⟨settingsFile, cases⟩

end MetricPath.Check
