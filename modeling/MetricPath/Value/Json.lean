import MetricPath.Value

/-!
# Values as JSON

Values are printed as JSON on several lines: each item and each field stands on a line of its own,
two spaces deeper than the brackets around it, and empty lists and objects stay on one line.
-/

namespace MetricPath.Value

/-- Four hexadecimal digits. -/
def fourDigits (n : Nat) : List Char :=
  let digits := Nat.toDigits 16 n
  List.replicate (4 - digits.length) '0' ++ digits

/-- A character within a JSON text. -/
def jsonChar (c : Char) : List Char :=
  match c with
  | '"' => ['\\', '"']
  | '\\' => ['\\', '\\']
  | '\x08' => ['\\', 'b']
  | '\x0c' => ['\\', 'f']
  | '\n' => ['\\', 'n']
  | '\r' => ['\\', 'r']
  | '\t' => ['\\', 't']
  | c => if c.toNat < 0x20 then '\\' :: 'u' :: fourDigits c.toNat else [c]

/-- A text in JSON. -/
def jsonText (s : String) : String := String.ofList ('"' :: (s.toList.flatMap jsonChar ++ ['"']))

/-- A line break and the indentation of a level. -/
def newLine (level : Nat) : String := String.ofList ('\n' :: List.replicate (2 * level) ' ')

mutual

/-- The JSON of a value at a level of indentation. -/
def renderJsonAt (level : Nat) : Value → String
  | .null => "null"
  | .bool b => if b then "true" else "false"
  | .number n => n.render
  | .string s => jsonText s
  | .list [] => "[]"
  | .list (v :: vs) =>
    "[" ++ newLine (level + 1) ++ renderJsonAt (level + 1) v ++ renderJsonItems (level + 1) vs ++
      newLine level ++ "]"
  | .object [] => "\x7b\x7d"
  | .object ((name, v) :: fields) =>
    "\x7b" ++ newLine (level + 1) ++ jsonText name ++ ": " ++ renderJsonAt (level + 1) v ++
      renderJsonFields (level + 1) fields ++ newLine level ++ "\x7d"

/-- The items of a list after the first. -/
def renderJsonItems (level : Nat) : List Value → String
  | [] => ""
  | v :: vs => "," ++ newLine level ++ renderJsonAt level v ++ renderJsonItems level vs

/-- The fields of an object after the first. -/
def renderJsonFields (level : Nat) : List (String × Value) → String
  | [] => ""
  | (name, v) :: fields =>
    "," ++ newLine level ++ jsonText name ++ ": " ++ renderJsonAt level v ++
      renderJsonFields level fields

end

/-- The JSON of a value. -/
def renderJson (v : Value) : String := renderJsonAt 0 v

end MetricPath.Value
