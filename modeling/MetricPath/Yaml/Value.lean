import MetricPath.Text.Split
import MetricPath.Value
import MetricPath.Yaml.Node

/-!
# The values of YAML nodes

A plain scalar is null, a truth value, a number or a text by what it looks like; a scalar between
quotes or in a block is a text.  A core tag says instead which of these a scalar is, and a local
tag, one that begins with `!`, is refused.
-/

namespace MetricPath.Yaml

/-! ## Plain scalars -/

def isNullText (s : String) : Bool := s ∈ ["null", "Null", "NULL", "~"]

def boolOf? (s : String) : Option Bool :=
  if s ∈ ["true", "True", "TRUE"] then some true
  else if s ∈ ["false", "False", "FALSE"] then some false
  else none

/-- The value of a digit in a base up to 16. -/
def digitOf? (base : Nat) (c : Char) : Option Nat :=
  (Unicode.CharSet.hexValue? c).filter (· < base)

/-- The number that digits of a base denote; there has to be one. -/
def natInBase? (base : Nat) (cs : List Char) : Option Nat :=
  if cs.isEmpty then none
  else cs.foldlM (fun n c => (digitOf? base c).map (base * n + ·)) 0

/-- A number in one of the notations with a base, such as `0x1F`. -/
def basedNat? : List Char → Option Nat
  | '0' :: 'x' :: cs => natInBase? 16 cs
  | '0' :: 'o' :: cs => natInBase? 8 cs
  | '0' :: 'b' :: cs => natInBase? 2 cs
  | _ => none

/-- Whether digits begin with a zero that is not all there is; they are a text. -/
def isPadded (cs : List Char) : Bool :=
  let (_, cs) := Decimal.splitSign cs
  1 < cs.length && cs.head? = some '0' && cs.all Decimal.isDigit

/-- A whole number of at most 128 bits, in decimal digits or in one of the notations with a base. -/
def intOf? (cs : List Char) : Option Int :=
  let (negative, digits) := Decimal.splitSign cs
  let n? := (basedNat? digits).or (if isPadded cs then none else natInBase? 10 digits)
  n?.bind fun n =>
    if negative then if n ≤ Nat.pow 2 127 then some (-(n : Int)) else none
    else if n < Nat.pow 2 128 then some (n : Int) else none

/-- A fraction, an infinity or no number.  A fraction beyond the greatest number is a text. -/
def floatOf? (cs : List Char) : Option Binary64 :=
  let (negative, magnitude) := Decimal.splitSign cs
  let s := String.ofList magnitude
  if s ∈ [".inf", ".Inf", ".INF"] then some (Binary64.infinity negative)
  else if String.ofList cs ∈ [".nan", ".NaN", ".NAN"] then some Binary64.nan
  else (Decimal.readUnsigned? negative magnitude).filter Binary64.isFinite

/-- The value of a plain scalar. -/
def plainValue (s : String) : Value :=
  let cs := s.toList
  if s = "" || isNullText s then .null
  else
    match boolOf? s, intOf? cs with
    | some b, _ => .bool b
    | none, some i => .number (.int i)
    | none, none =>
      match if isPadded cs then none else floatOf? cs with
      | some x => .number (.float x)
      | none => .string s

/-! ## Tags -/

/-- What a tag says of a scalar. -/
inductive ScalarTag where
  | null
  | bool
  | int
  | float
  /-- Any other tag that is not local. -/
  | text
  /-- A tag of the document itself. -/
  | «local»
deriving DecidableEq, Repr

/-- What a tag says of a scalar. -/
def ScalarTag.ofTag (tag : String) : ScalarTag :=
  match tag with
  | "tag:yaml.org,2002:null" => .null
  | "tag:yaml.org,2002:bool" => .bool
  | "tag:yaml.org,2002:int" => .int
  | "tag:yaml.org,2002:float" => .float
  | tag => if tag.toList.head? = some '!' then .local else .text

/-- The value of a scalar, unless it is not what its tag says. -/
def scalarValue? (tag? : Option String) (plain : Bool) (text : String) : Option Value :=
  match tag?.map ScalarTag.ofTag with
  | none => some (if plain then plainValue text else .string text)
  | some .null => if isNullText text then some .null else none
  | some .bool => (boolOf? text).map Value.bool
  | some .int => (intOf? text.toList).map fun i => .number (.int i)
  | some .float => (floatOf? text.toList).map fun x => .number (.float x)
  | some .text => some (.string text)
  | some .local => none

/-- Whether a collection may have a tag. -/
def allowsTag (tag? : Option String) : Bool := tag?.all fun tag => ScalarTag.ofTag tag ≠ .local

namespace Node

/-- The text of a scalar. -/
def text? : Node → Option String
  | .scalar _ _ text => some text
  | _ => none

mutual

/-- The value of a node without aliases.  Keys are scalars and stand for their text; of several
equal keys the last counts. -/
def toValue? : Node → Option Value
  | .scalar tag? plain text => scalarValue? tag? plain text
  | .sequence tag? items =>
    if allowsTag tag? then (itemValues? items).map Value.list else none
  | .mapping tag? pairs =>
    if allowsTag tag? then
      (pairValues? pairs).map fun fields => .object (Fields.ofList fields)
    else none
  | .anchored _ node => toValue? node
  | .alias _ => none

/-- The values of nodes. -/
def itemValues? : List Node → Option (List Value)
  | [] => some []
  | n :: ns => do return (← toValue? n) :: (← itemValues? ns)

/-- The texts of keys and the values of what they lead to. -/
def pairValues? : List (Node × Node) → Option (List (String × Value))
  | [] => some []
  | (k, v) :: pairs => do return (← k.text?, ← toValue? v) :: (← pairValues? pairs)

end

/-- Whether nothing is written where a collection is expected. -/
def isBlank : Node → Bool
  | .scalar _ plain text => plain && text = ""
  | _ => false

end Node

/-- The fields of a text that holds one mapping.  An empty document has no fields. -/
def fieldsOf? (cs : List Char) : Option (List (String × Value)) := do
  match ← Node.load? cs with
  | none => return []
  | some node =>
    if node.isBlank then return []
    else
      match node with
      | .mapping _ pairs => return Fields.ofList (← Node.pairValues? pairs)
      | _ => none

end MetricPath.Yaml
