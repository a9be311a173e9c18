import MetricPath.Escape
import MetricPath.Pattern
import MetricPath.Template.Tree

/-!
# Rendering templates

Rendering walks the nodes of a template with two values at hand: the context of the whole template
and the dot, the value that the block around is about.  Looking up what is not there gives no
value, which is different from null only in how it is written.

Patterns are compiled when a replacement first needs them and kept in a `PatternCache` that all
templates share.  Rendering therefore is a computation with the cache as its state; the state is
kept also when the computation fails.
-/

namespace MetricPath.Template

/-! ## Compiled patterns -/

/-- Patterns by the text they were compiled from. -/
structure PatternCache where
  entries : List (String × Pattern)
  sound : ∀ e ∈ entries, Pattern.compile e.1 = .ok e.2

namespace PatternCache

def empty : PatternCache := ⟨[], List.forall_mem_nil _⟩

/-- How many patterns have been compiled. -/
def size (c : PatternCache) : Nat := c.entries.length

/-- The cache with one more pattern. -/
def add (c : PatternCache) {source : String} {p : Pattern}
    (compiled : Pattern.compile source = .ok p) : PatternCache :=
  ⟨(source, p) :: c.entries, List.forall_mem_cons.mpr ⟨compiled, c.sound⟩⟩

/-- The pattern of a text and the cache that holds it; a text that is no pattern is not kept. -/
def compile (c : PatternCache) (source : String) : Except Pattern.Fault Pattern × PatternCache :=
  match c.entries.lookup source with
  | some p => (.ok p, c)
  | none =>
    match compiled : Pattern.compile source with
    | .ok p => (.ok p, c.add compiled)
    | .error fault => (.error fault, c)

end PatternCache

/-- A computation that may fail and may compile patterns. -/
abbrev Eval := ExceptT ExecFault (StateM PatternCache)

/-- Fail. -/
def fail {α : Type} (fault : ExecFault) : Eval α := throw fault

/-! ## Values -/

/-- A value, or nothing where a look-up found none. -/
abbrev Datum := Option Value

/-- The kind of a value as error messages name it. -/
def kindName : Value → String
  | .null => "nil"
  | .bool _ => "bool"
  | .number (.float _) => "float64"
  | .number (.int _) => "int"
  | .string _ => "string"
  | .list _ => "[]interface \x7b\x7d"
  | .object _ => "map[string]interface \x7b\x7d"

/-- Whether there is nothing, or null. -/
def isNil : Datum → Bool
  | none => true
  | some .null => true
  | some _ => false

/-- Whether a condition takes the value as true: neither nil nor false, zero or empty. -/
def isTruthy : Datum → Bool
  | none => false
  | some v =>
    match v with
    | .null => false
    | .bool b => b
    | .number (.int i) => i ≠ 0
    | .number (.float x) => !x.isZero
    | .string s => s ≠ ""
    | .list items => !items.isEmpty
    | .object fields => !fields.isEmpty

mutual

/-- A value as templates write it. -/
def render : Value → String
  | .null => "<nil>"
  | .bool b => if b then "true" else "false"
  | .number n => n.render
  | .string s => s
  | .list items => "[" ++ " ".intercalate (renderItems items) ++ "]"
  | .object fields => "map[" ++ " ".intercalate (renderFields fields) ++ "]"

/-- The items of a list as templates write them. -/
def renderItems : List Value → List String
  | [] => []
  | v :: vs => render v :: renderItems vs

/-- The fields of an object as templates write them. -/
def renderFields : List (String × Value) → List String
  | [] => []
  | (name, v) :: fields => (name ++ ":" ++ render v) :: renderFields fields

end

/-- A datum as templates write it. -/
def renderDatum : Datum → String
  | none => "<no value>"
  | some v => render v

/-- A field of a value.  Nothing and null have no fields, and other values than objects cannot be
asked. -/
def field (d : Datum) (name : String) : Eval Datum :=
  match d with
  | none => return none
  | some .null => return none
  | some (.object fields) => return Fields.get? name fields
  | some v => fail (.noField name (kindName v))

/-- A chain of fields of a value. -/
def follow (d : Datum) : List String → Eval Datum
  | [] => return d
  | name :: chain => do follow (← field d name) chain

/-! ## Functions -/

/-- The text of an argument. -/
def textOf (f : Function) (d : Datum) : Eval String :=
  match d with
  | none => fail (.missingArgument f.name)
  | some (.string s) => return s
  | some v => fail (.notString f.name (kindName v))

/-- The value of a text. -/
def textDatum (s : String) : Datum := some (.string s)

/-- The value of a truth value. -/
def boolDatum (b : Bool) : Datum := some (.bool b)

/-- The value of a list of texts. -/
def textsDatum (parts : List (List Char)) : Datum :=
  some (.list (parts.map fun cs => .string (String.ofList cs)))

/-- Whether two values compare as equal: numbers by their nearest fractions, nil with nil, and other
values as trees. -/
def equal (a b : Datum) : Bool :=
  match a, b with
  | some (.number m), some (.number n) => m.toFloat.numEq n.toFloat
  | some x, some y => x.same y
  | none, none => true
  | none, some y => isNil (some y)
  | some x, none => isNil (some x)

/-- An item of a list, or a field of an object. -/
def index (item key : Datum) : Eval Datum :=
  match item with
  | none => fail .indexOfNil
  | some .null => fail .indexOfNil
  | some (.object fields) =>
    match key with
    | some (.string name) => return Fields.get? name fields
    | _ => fail (.notIndexable (kindName (.object fields)))
  | some (.list items) =>
    match key with
    | some (.number n) =>
      match n with
      | .int (.ofNat i) =>
        match items[i]? with
        | some v => return some v
        | none => fail (.indexOutOfRange n.render)
      | _ => fail (.indexOutOfRange n.render)
    | _ => fail (.notIndexable (kindName (.list items)))
  | some v => fail (.notIndexable (kindName v))

/-- Items within items, by one key after the other. -/
def indexAll (item : Datum) : List Datum → Eval Datum
  | [] => return item
  | key :: keys => do indexAll (← index item key) keys

/-- The length of a text in bytes, or of a list or object in its parts. -/
def length (d : Datum) : Eval Nat :=
  match d with
  | none => fail .lengthOfNil
  | some (.string s) => return s.utf8ByteSize
  | some (.list items) => return items.length
  | some (.object fields) => return fields.length
  | some v => fail (.noLength (kindName v))

/-- The first argument that is as true as wanted, or else the last one. -/
def firstOr (want : Bool) (last : Datum) : List Datum → Datum
  | [] => last
  | d :: ds => if isTruthy d == want then d else firstOr want d ds

/-- Whether a datum is a text. -/
def isText : Datum → Bool
  | some (.string _) => true
  | _ => false

/-- The arguments one after the other, with a space between neighbours neither of which is a text.
-/
def printAll (afterText : Bool) : List Datum → String
  | [] => ""
  | d :: ds =>
    let space := if afterText || isText d then "" else " "
    space ++ renderDatum d ++ printAll (isText d) ds

/-- Compile a pattern, or take it from the cache. -/
def compilePattern (source : String) : Eval Pattern := do
  let (compiled, cache) := (← get).compile source
  set cache
  match compiled with
  | .ok p => return p
  | .error fault => fail (.badPattern fault.message)

/-- Call a function. -/
def call (f : Function) (args : List Datum) : Eval Datum :=
  let wrongCount (want : Nat) : Eval Datum := fail (.argumentCount f.name want args.length)
  match f with
  | .replace =>
    match args with
    | [input, old, new] => do
      if isNil input then fail .nothingToReplace
      else
        let old ← textOf f old
        let new ← textOf f new
        let input ← textOf f input
        return textDatum (String.ofList (Text.replaceAll old.toList new.toList input.toList))
    | _ => wrongCount 3
  | .split =>
    match args with
    | [input, delimiter] => do
      let input ← textOf f input
      let delimiter ← textOf f delimiter
      return textsDatum <|
        if delimiter.isEmpty then input.toList.map fun c => [c]
        else Text.splitOn delimiter.toList input.toList
    | _ => wrongCount 2
  | .escape =>
    match args with
    | [input] => do return textDatum (Escape.escape (← textOf f input))
    | _ => wrongCount 1
  | .isSet =>
    match args with
    | [value, key] => do
      let key ← textOf f key
      match value with
      | some (.object fields) => return boolDatum (Fields.get? key fields).isSome
      | _ => return boolDatum false
    | _ => wrongCount 2
  | .replaceRegex =>
    match args with
    | [input, pattern, replacement] => do
      let pattern ← compilePattern (← textOf f pattern)
      let replacement ← textOf f replacement
      let input ← textOf f input
      return textDatum (pattern.replaceAll input replacement)
    | _ => wrongCount 3
  | .index =>
    match args with
    | item :: keys => indexAll item keys
    | [] => fail (.noArguments f.name)
  | .len =>
    match args with
    | [item] => do return some (Value.nat (← length item))
    | _ => wrongCount 1
  | .eq =>
    match args with
    | first :: second :: rest => return boolDatum ((second :: rest).any (equal first))
    | _ => fail .missingComparison
  | .ne =>
    match args with
    | [a, b] => return boolDatum (!equal a b)
    | _ => wrongCount 2
  | .not =>
    match args with
    | [value] => return boolDatum (!isTruthy value)
    | _ => wrongCount 1
  | .and =>
    match args with
    | first :: rest => return firstOr false first (first :: rest)
    | [] => fail (.noArguments f.name)
  | .or =>
    match args with
    | first :: rest => return firstOr true first (first :: rest)
    | [] => fail (.noArguments f.name)
  | .print => return textDatum (printAll true args)

/-! ## Evaluation -/

mutual

/-- The value of an operand. -/
def evalOperand (root : Value) (dot : Datum) : Operand → Eval Datum
  | .dot => return dot
  | .field chain => follow dot chain
  | .root chain => follow (some root) chain
  | .literal v => return some v
  | .call f => call f []
  | .sub commands chain => do follow (← evalPipeline root dot none commands) chain

/-- The values of operands, from left to right. -/
def evalOperands (root : Value) (dot : Datum) : List Operand → Eval (List Datum)
  | [] => return []
  | o :: os => do
    let d ← evalOperand root dot o
    let ds ← evalOperands root dot os
    return d :: ds

/-- The value of a command.  The value piped into it becomes its last argument. -/
def evalCommand (root : Value) (dot : Datum) (piped : Option Datum) : Command → Eval Datum
  | .call f args => do
    let ds ← evalOperands root dot args
    call f (ds ++ piped.toList)
  | .operand o =>
    if piped.isSome then fail .argumentToValue else evalOperand root dot o

/-- The value of a pipeline into which a value may be piped.  Without commands it is that value. -/
def evalPipeline (root : Value) (dot : Datum) (piped : Option Datum) :
    List Command → Eval Datum
  | [] => return piped.getD none
  | c :: cs => do evalPipeline root dot (some (← evalCommand root dot piped c)) cs

end

/-- The values that a range goes through. -/
def rangeItems (d : Datum) : Eval (List Datum) :=
  match d with
  | none => return []
  | some .null => return []
  | some (.list items) => return items.map some
  | some (.object fields) => return fields.map fun p => some p.2
  | some v => fail (.notIterable (kindName v))

/-- Render once for each item, one after the other. -/
def renderEach (body : Datum → Eval String) : List Datum → Eval String
  | [] => return ""
  | d :: ds => do
    let s ← body d
    return s ++ (← renderEach body ds)

mutual

/-- The text of a node. -/
def renderNode (root : Value) (dot : Datum) : Node → Eval String
  | .text s => return s
  | .action pipe => do return renderDatum (← evalPipeline root dot none pipe)
  | .block kind pipe body otherwise => do
    let d ← evalPipeline root dot none pipe
    match kind with
    | .ifBlock => if isTruthy d then renderNodes root dot body else renderNodes root dot otherwise
    | .withBlock => if isTruthy d then renderNodes root d body else renderNodes root dot otherwise
    | .rangeBlock =>
      match ← rangeItems d with
      | [] => renderNodes root dot otherwise
      | items => renderEach (fun d => renderNodes root d body) items

/-- The text of nodes, one after the other. -/
def renderNodes (root : Value) (dot : Datum) : List Node → Eval String
  | [] => return ""
  | n :: ns => do
    let s ← renderNode root dot n
    return s ++ (← renderNodes root dot ns)

end

end MetricPath.Template
