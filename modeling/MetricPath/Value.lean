import MetricPath.Fields
import MetricPath.Number.Decimal

/-!
# Structured values

Template contexts and template data are trees of nulls, truth values, numbers, texts, lists and
objects.  Whole numbers and binary fractions are different values even where they are the same
number.  The names of an object ascend wherever data is read; an object that is only shown keeps the
order it is built in.
-/

namespace MetricPath

/-- A number: a whole one, or a binary fraction. -/
inductive Number where
  | int (i : Int)
  | float (x : Binary64)
deriving DecidableEq, Repr

namespace Number

/-- The nearest binary fraction. -/
def toFloat : Number → Binary64
  | .int i => Binary64.ofInt i
  | .float x => x

/-- Fractions are written with a point: positionally from `1e-5` up to below `1e16`, otherwise with
an exponent. -/
def style : Decimal.Style where
  leastPoint := -4
  greatestPoint := 16
  keepsPoint := true
  infinityText := ['i', 'n', 'f']

/-- The text of a number. -/
def render : Number → String
  | .int i => String.ofList (Decimal.intText i)
  | .float x => String.ofList (style.render x)

/-- Whether two numbers are the same value: a whole number and a fraction never are. -/
def same : Number → Number → Bool
  | .int i, .int j => i = j
  | .float x, .float y => x.numEq y
  | _, _ => false

end Number

/-- A tree of data. -/
inductive Value where
  | null
  | bool (b : Bool)
  | number (n : Number)
  | string (s : String)
  | list (items : List Value)
  | object (fields : List (String × Value))
deriving Repr

namespace Value

instance : Inhabited Value := ⟨.null⟩

/-- A whole number. -/
def nat (n : Nat) : Value := .number (.int n)

mutual

/-- Whether two values are the same tree. -/
def same : Value → Value → Bool
  | .null, .null => true
  | .bool a, .bool b => a = b
  | .number m, .number n => m.same n
  | .string s, .string t => s = t
  | .list xs, .list ys => sameItems xs ys
  | .object xs, .object ys => sameFields xs ys
  | _, _ => false

/-- Whether two lists have the same items. -/
def sameItems : List Value → List Value → Bool
  | [], [] => true
  | x :: xs, y :: ys => same x y && sameItems xs ys
  | _, _ => false

/-- Whether two objects have the same fields. -/
def sameFields : List (String × Value) → List (String × Value) → Bool
  | [], [] => true
  | (m, x) :: xs, (n, y) :: ys => m = n && same x y && sameFields xs ys
  | _, _ => false

end

mutual

/-- A value that another one is laid over: the fields of objects are combined, and anything else is
replaced. -/
def overlay (below : Value) : Value → Value
  | .object fields =>
    match below with
    | .object old => .object (overlayFields old fields)
    | _ => .object fields
  | v => v

/-- Fields that others are laid over. -/
def overlayFields (old : List (String × Value)) :
    List (String × Value) → List (String × Value)
  | [] => old
  | (name, v) :: rest =>
    let value := match Fields.get? name old with
      | some below => overlay below v
      | none => v
    overlayFields (Fields.insert name value old) rest

end

end Value

end MetricPath
