import MetricPath.Fields
import MetricPath.Text.Quoted
import MetricPath.Text.Utf8

/-!
# Label sets

A time series is identified by its labels, a finite map from names to values.  The reserved label
`__name__` holds the name of the metric.  The labels ascend by name and the type says so, which
makes equality of label sets equality of the maps.

The fingerprint of a label set is a hash of its serialisation, `LabelSet.serialize`: each name and
each value in turn, every one closed by a byte that no text contains.
-/

namespace MetricPath

/-- The labels that identify a time series. -/
structure LabelSet where
  pairs : List (String × String)
  ascending : Fields.Ascending pairs
deriving DecidableEq

namespace LabelSet

/-- The reserved label that holds the metric name. -/
def nameLabel : String := "__name__"

theorem ext_pairs {m n : LabelSet} (h : m.pairs = n.pairs) : m = n := by
  cases m; cases n; cases h; rfl

def empty : LabelSet := ⟨[], List.Pairwise.nil⟩

instance : Inhabited LabelSet := ⟨empty⟩

/-- The labels, with the value of one of them set. -/
def insert (m : LabelSet) (name value : String) : LabelSet :=
  ⟨Fields.insert name value m.pairs, Fields.insert_ascending name value m.ascending⟩

/-- The labels given by pairs; of several pairs with one name the last counts. -/
def ofList (pairs : List (String × String)) : LabelSet :=
  ⟨Fields.ofList pairs, Fields.ofList_ascending pairs⟩

/-- The label set of a metric without further labels. -/
def named (name : String) : LabelSet := empty.insert nameLabel name

/-- The value of a label. -/
def get? (m : LabelSet) (name : String) : Option String := Fields.get? name m.pairs

/-- The value of a label; an absent label counts as the empty text. -/
def getOrEmpty (m : LabelSet) (name : String) : String := (m.get? name).getD ""

/-- The metric name. -/
def name? (m : LabelSet) : Option String := m.get? nameLabel

def size (m : LabelSet) : Nat := m.pairs.length

def isEmpty (m : LabelSet) : Bool := m.pairs.isEmpty

/-- The labels other than the metric name. -/
def others (m : LabelSet) : List (String × String) := m.pairs.filter fun p => p.1 ≠ nameLabel

/-- The label set as people write it: the name, then the other labels with quoted values in
braces. -/
def render (m : LabelSet) : String :=
  let labels := m.others.map fun p => p.1 ++ "=" ++ Text.quoted p.2
  let name := m.getOrEmpty nameLabel
  if labels.isEmpty then name else name ++ "\x7b" ++ ", ".intercalate labels ++ "\x7d"

/-! ## Fingerprint -/

/-- The byte that closes a name or a value.  UTF-8 has no such byte. -/
def closing : UInt8 := 0xff

/-- One label as it is hashed. -/
def serializePair (p : String × String) : List UInt8 :=
  Text.bytes p.1.toList ++ closing :: (Text.bytes p.2.toList ++ [closing])

/-- The bytes that are hashed: the labels in the order of their names. -/
def serialize (m : LabelSet) : List UInt8 := m.pairs.flatMap serializePair

end LabelSet

/-- The hash of a label set, by which its paths are remembered. -/
structure Fingerprint where
  value : UInt64
deriving DecidableEq, Repr

namespace Fingerprint

/-- One step of the hash: mix in a byte, then multiply. -/
def step (h : UInt64) (b : UInt8) : UInt64 := (h ^^^ b.toUInt64) * 0x100000001b3

/-- The hash of bytes. -/
def hash (bs : List UInt8) : UInt64 := bs.foldl step 0xcbf29ce484222325

/-- Sixteen hexadecimal digits. -/
def render (f : Fingerprint) : String :=
  let digits := Text.hexText f.value.toNat
  String.ofList (List.replicate (16 - digits.length) '0' ++ digits)

end Fingerprint

/-- The fingerprint of a label set. -/
def LabelSet.fingerprint (m : LabelSet) : Fingerprint := ⟨Fingerprint.hash m.serialize⟩

end MetricPath
