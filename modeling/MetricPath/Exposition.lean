import MetricPath.Datapoint
import MetricPath.Text.Blank
import MetricPath.Text.Split

/-!
# Text exposition

Samples are read from lines such as `up{job="api"} 1 1395066363000`: a name, labels in braces, a
value and a time.  A line that is no sample is passed over.

A type line makes the samples of a name parts of a histogram or of a summary.  Such parts are
collected into groups that differ in nothing but the bound of each part, the group has the time of
its first part, and the groups follow the other samples.
-/

namespace MetricPath.Exposition

/-- The current time is not one that a sample can have. -/
inductive Fault where
  | timeOutOfRange
deriving DecidableEq, Repr

/-- The message of a fault. -/
def Fault.message : Fault → String
  | .timeOutOfRange => "current time is out of range"

/-- Whether a sample can have a time, in milliseconds. -/
def isTime (t : Int) : Bool := -8334601228800000 ≤ t && t ≤ 8210266876799999

/-! ## Lines -/

/-- What a type line says of the samples of a name. -/
inductive Family where
  | single
  | histogram
  | summary
deriving DecidableEq, Repr

/-- The family that a type line names. -/
def Family.ofWord (word : String) : Family :=
  match word with
  | "histogram" => .histogram
  | "summary" => .summary
  | _ => .single

/-- The label that holds the bound of a part. -/
def Family.boundLabel? : Family → Option String
  | .single => none
  | .histogram => some "le"
  | .summary => some "quantile"

/-- The ending of the names of histogram parts. -/
def bucketEnding : List Char := "_bucket".toList

/-- The name that the samples of a declared family have. -/
def Family.sampleName (f : Family) (declared : List Char) : String :=
  match f with
  | .histogram => String.ofList (declared ++ bucketEnding)
  | _ => String.ofList declared

/-- A line that says something. -/
inductive Line where
  | type (declared word : List Char)
  | sample (name : List Char) (labels? : Option (List Char)) (value : List Char)
    (time? : Option (List Char))
deriving DecidableEq, Repr

/-- The text after white space, of which there has to be some. -/
def afterBlanks? : List Char → Option (List Char)
  | c :: cs => if Text.isBlank c then some (cs.dropWhile Text.isBlank) else none
  | [] => none

def isWordChar (c : Char) : Bool := Unicode.word.contains c

/-- A run of characters of a class, of which there has to be one, and what follows. -/
def run? (p : Char → Bool) (cs : List Char) : Option (List Char × List Char) :=
  if (cs.takeWhile p).isEmpty then none else some (cs.takeWhile p, cs.dropWhile p)

/-- The text between braces, if it begins with one, and what follows.  There has to be some text
within, and it ends at the first closing brace. -/
def braced? : List Char → Option (Option (List Char) × List Char)
  | '\x7b' :: cs =>
    match run? (· ≠ '\x7d') cs with
    | some (inside, '\x7d' :: rest) => some (some inside, rest)
    | _ => none
  | cs => some (none, cs)

/-- The type line that a text after `#` makes. -/
def typeLine? (cs : List Char) : Option Line := do
  let cs ← afterBlanks? cs
  let cs ← Text.dropBeginning? "TYPE".toList cs
  let (declared, cs) ← run? isWordChar (← afterBlanks? cs)
  let (word, _) ← run? isWordChar (← afterBlanks? cs)
  return .type declared word

/-- The sample line that a text makes. -/
def sampleLine? (cs : List Char) : Option Line := do
  let (name, cs) ← run? isWordChar cs
  let (labels?, cs) ← braced? cs
  let (value, cs) ← run? (fun c => !Text.isBlank c) (← afterBlanks? cs)
  let time? := (afterBlanks? cs).bind fun cs => run? (fun c => !Text.isBlank c) cs
  return .sample name labels? value (time?.map Prod.fst)

/-- The line that a text makes, if it says something. -/
def Line.read? (cs : List Char) : Option Line :=
  match Text.trim Text.isBlank cs with
  | '#' :: cs => typeLine? cs
  | cs => sampleLine? cs

/-- The label of a text such as `job="api"`.  The text has one equals sign; quotes around the value
do not belong to it. -/
def label? (cs : List Char) : Option (String × String) :=
  match Text.splitChar '=' cs with
  | [name, value] =>
    if name.isEmpty then none
    else some (String.ofList name, String.ofList (Text.trim (· = '"') value))
  | _ => none

/-- The labels between braces. -/
def labelsOf (cs : List Char) : List (String × String) :=
  Fields.ofList ((Text.splitChar ',' cs).filterMap label?)

/-! ## Groups -/

/-- Parts of a histogram or a summary that differ in nothing but their bounds. -/
structure Group where
  family : Family
  /-- The name of the parts. -/
  name : String
  /-- The labels other than the bound. -/
  labels : List (String × String)
  /-- The time of the first part. -/
  timestamp : Int
  /-- Bounds and values. -/
  parts : List (Binary64 × Binary64)

/-- Whether a part belongs to the group. -/
def Group.holds (g : Group) (family : Family) (name : String) (labels : List (String × String)) :
    Bool :=
  g.family = family && g.name = name && g.labels = labels

/-- Add a part to the group it belongs to, or let it begin one. -/
def addPart (part : Group) : List Group → List Group
  | [] => [part]
  | g :: gs =>
    if g.holds part.family part.name part.labels then
      { g with parts := g.parts ++ part.parts } :: gs
    else g :: addPart part gs

/-- The text of a bound. -/
def boundText (x : Binary64) : String :=
  if x.isInfinite && !x.negative then "+Inf" else String.ofList (plainStyle.render x)

/-- The name of the samples of histogram parts: that of the parts, and where their family ends
like a part already, the name of the family. -/
def bucketName (name : List Char) : List Char :=
  let declared := name.take (name.length - bucketEnding.length)
  if Text.endsWith bucketEnding declared then declared else name

/-- A sample name with its labels, one of which may hide the name. -/
def labelSetOf (name : String) (labels : List (String × String)) : LabelSet :=
  LabelSet.ofList ((LabelSet.nameLabel, name) :: labels)

/-- The labels of a part with the given bound. -/
def Group.labelSet (g : Group) (bound : Binary64) : LabelSet :=
  match g.family with
  | .histogram =>
    ((LabelSet.ofList g.labels).insert LabelSet.nameLabel
      (String.ofList (bucketName g.name.toList))).insert "le" (boundText bound)
  | _ => (labelSetOf g.name g.labels).insert "quantile" (boundText bound)

/-- The samples of a group. -/
def Group.samples (g : Group) : List Sample :=
  g.parts.map fun (bound, value) => ⟨g.labelSet bound, value, g.timestamp⟩

/-! ## Texts -/

/-- What has been read. -/
structure Reading where
  /-- The families declared, by the names of their samples. -/
  families : List (String × Family)
  /-- Samples outside of groups, latest first. -/
  samples : List Sample
  groups : List Group

/-- Read a line; samples without a time have the time `now`. -/
def Reading.line (now : Int) (r : Reading) : Line → Reading
  | .type declared word =>
    let family := Family.ofWord (String.ofList word)
    { r with families := Fields.insert (family.sampleName declared) family r.families }
  | .sample name labels? value time? =>
    match Decimal.read? value with
    | none => r
    | some value =>
      let time := ((time?.bind Decimal.intOf?).filter isTime).getD now
      let name := String.ofList name
      let family := (Fields.get? name r.families).getD .single
      match family.boundLabel?, labels?.map labelsOf with
      | some label, some labels =>
        match (Fields.get? label labels).bind fun bound => Decimal.read? bound.toList with
        | none => r
        | some bound =>
          let part : Group := ⟨family, name, Fields.erase label labels, time, [(bound, value)]⟩
          { r with groups := addPart part r.groups }
      | _, labels? =>
        { r with samples := ⟨labelSetOf name (labels?.getD []), value, time⟩ :: r.samples }

/-- The samples of a text; those without a time have the time `now`. -/
def read (text : String) (now : Int) : Except Fault (List Sample) :=
  if !isTime now then .error .timeOutOfRange
  else
    let lines := (Text.lines text.toList).filterMap Line.read?
    let r := lines.foldl (Reading.line now) ⟨[], [], []⟩
    .ok (r.samples.reverse ++ r.groups.flatMap Group.samples)

end MetricPath.Exposition
