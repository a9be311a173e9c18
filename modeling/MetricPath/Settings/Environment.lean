import MetricPath.Text.Blank
import MetricPath.Text.Split
import MetricPath.Unicode.CharSet
import MetricPath.Value

/-!
# Settings in the environment

A variable such as `GRAPHITE_BRIDGE__WRITE__PATHS_CACHE_TTL` sets a field: its name, in any case
of letters, leads to the field by steps between double underscores.

The value of a variable is a truth value, a number, a text, a character between single quotes, or
a list such as `[1, two]` or an object such as `{a=1, b=[x]}` of such values.  A text needs quotes
only where it would be read as something else, and what cannot be read is a text as a whole.
-/

namespace MetricPath.Settings.Environment

/-! ## Values -/

/-- White space around values. -/
def isSpace (c : Char) : Bool := c = ' ' || c = '\t' || c = '\n'

/-- Characters at which a bare text ends. -/
def isDelimiter (c : Char) : Bool := c ∈ [',', '\x7b', '\x7d', '[', ']']

/-- Characters of names of object fields that are not quoted. -/
def isNameChar (c : Char) : Bool := c.isAlphanum || c = '_' || c = '-'

/-- The value of a bare text: a number, if it is one. -/
def bareValue (cs : List Char) : Value :=
  let float? := if cs.contains '.' then Decimal.read? cs else none
  let int? := (Decimal.intOf? cs).filter fun i =>
    -9223372036854775808 ≤ i && i ≤ 18446744073709551615
  match float?, int? with
  | some x, _ => .number (.float x)
  | none, some i => .number (.int i)
  | none, none => .string (String.ofList cs)

/-- Where the reader of a quoted text is. -/
inductive QuotedState where
  | text
  | escape
  /-- Before so many hexadecimal digits of a code point. -/
  | digits (count point : Nat)

/-- The character of an escape of one letter. -/
def shortEscape? (c : Char) : Option Char :=
  match c with
  | '"' => some '"'
  | '\\' => some '\\'
  | 'b' => some '\x08'
  | 'f' => some '\x0c'
  | 'n' => some '\n'
  | 'r' => some '\r'
  | 't' => some '\t'
  | _ => none

/-- Read a quoted text, of which `text` has been read, latest first, up to its closing quote. -/
def readQuoted (state : QuotedState) (text : List Char) :
    List Char → Option (String × List Char)
  | [] => none
  | c :: cs =>
    match state with
    | .text =>
      if c = '"' then some (String.ofList text.reverse, cs)
      else if c = '\\' then readQuoted .escape text cs
      else if c = '\t' || (0x20 ≤ c.toNat && c.toNat ≠ 0x7F) then readQuoted .text (c :: text) cs
      else none
    | .escape =>
      match shortEscape? c with
      | some d => readQuoted .text (d :: text) cs
      | none =>
        if c = 'u' then readQuoted (.digits 4 0) text cs
        else if c = 'U' then readQuoted (.digits 8 0) text cs
        else none
    | .digits count point =>
      match Unicode.CharSet.hexValue? c with
      | none => none
      | some digit =>
        let point := 16 * point + digit
        if 1 < count then readQuoted (.digits (count - 1) point) text cs
        else if point.isValidChar then readQuoted .text (Char.ofNat point :: text) cs
        else none

/-- The name of a field, and what follows it. -/
def readName : List Char → Option (String × List Char)
  | '"' :: cs => readQuoted .text [] cs
  | cs =>
    if (cs.takeWhile isNameChar).isEmpty then none
    else some (String.ofList (cs.takeWhile isNameChar), cs.dropWhile isNameChar)

mutual

/-- Read a value and the white space around it; `bound` limits its nesting and its parts. -/
def readValue : (bound : Nat) → List Char → Option (Value × List Char)
  | 0, _ => none
  | bound + 1, cs => do
    let cs := cs.dropWhile isSpace
    let (v, rest) ←
      match Text.dropBeginning? "true".toList cs, Text.dropBeginning? "false".toList cs with
      | some rest, _ => some (.bool true, rest)
      | none, some rest => some (.bool false, rest)
      | none, none =>
        match cs with
        | '\x7b' :: cs => (readFields bound cs).map fun (fields, cs) =>
          (.object (Fields.ofList fields), cs)
        | '[' :: cs => (readItems bound cs).map fun (items, cs) => (.list items, cs)
        | '"' :: cs => (readQuoted .text [] cs).map fun (s, cs) => (.string s, cs)
        | '\'' :: c :: '\'' :: cs => some (.string (String.singleton c), cs)
        | '\'' :: _ => none
        | cs =>
          let bare := cs.takeWhile fun c => !isDelimiter c
          some (bareValue (Text.trim Text.isBlank bare), cs.dropWhile fun c => !isDelimiter c)
    return (v, rest.dropWhile isSpace)

/-- Read the items of a list and its end. -/
def readItems : (bound : Nat) → List Char → Option (List Value × List Char)
  | 0, _ => none
  | _, ']' :: cs => some ([], cs)
  | bound + 1, cs => do
    match ← readValue bound cs with
    | (v, ',' :: cs) => do
      let (items, cs) ← readItems bound cs
      return (v :: items, cs)
    | (v, ']' :: cs) => return ([v], cs)
    | _ => none

/-- Read the fields of an object and its end. -/
def readFields : (bound : Nat) → List Char → Option (List (String × Value) × List Char)
  | 0, _ => none
  | _, '\x7d' :: cs => some ([], cs)
  | bound + 1, cs => do
    match ← readName (cs.dropWhile isSpace) with
    | (name, cs) =>
      match cs.dropWhile isSpace with
      | '=' :: cs => do
        match ← readValue bound (cs.dropWhile isSpace) with
        | (v, ',' :: cs) => do
          let (fields, cs) ← readFields bound cs
          return ((name, v) :: fields, cs)
        | (v, '\x7d' :: cs) => return ([(name, v)], cs)
        | _ => none
      | _ => none

end

/-- The value of a variable. -/
def value (text : String) : Value :=
  match readValue (2 * text.length + 2) text.toList with
  | some (v, []) => v
  | _ => .string text

/-! ## Names -/

/-- The beginning of the names of variables. -/
def marker : List Char := "graphite_bridge__".toList

/-- The steps that the name of a variable leads by, if it sets a field. -/
def steps? (name : String) : Option (List String) := do
  let cs := (Text.trim Text.isBlank name.toList).map Char.toLower
  let rest ← Text.dropBeginning? marker cs
  let path := Text.trim Text.isBlank (Text.replaceAll ['_', '_'] ['.'] rest)
  let steps := Text.splitChar '.' path
  if steps.any List.isEmpty then none else return steps.map String.ofList

/-- The value that holds another one at the end of steps. -/
def nest (v : Value) : List String → Value
  | [] => v
  | step :: steps => .object [(step, nest v steps)]

/-- The fields that the variables of an environment set, the later ones laid over the earlier
ones. -/
def fields (environment : List (String × String)) : List (String × Value) :=
  environment.foldl (fun fields (name, text) =>
    match steps? name with
    | some (step :: steps) => Value.overlayFields fields [(step, nest (value text) steps)]
    | _ => fields) []

end MetricPath.Settings.Environment
