import MetricPath.Error
import MetricPath.LabelSet

/-!
# Samples and datapoints

A sample is the value of a time series at a point in time.  It is sent as one line for each of its
paths: the path, the value with six decimals and the time in whole seconds.
-/

namespace MetricPath

/-- The value of a time series at a time, in milliseconds. -/
structure Sample where
  labels : LabelSet
  value : Binary64
  timestamp : Int
deriving DecidableEq

/-- Only finite values can be written. -/
def Sample.isWritable (s : Sample) : Bool := s.value.isFinite

/-- The line of a datapoint.  The time is rounded to the nearest second, half a second to the even
one. -/
def datapointLine (path : String) (value : Binary64) (timestamp : Int) : String :=
  let seconds := Binary64.ofInt timestamp / Binary64.ofInt 1000
  path ++ " " ++ String.ofList (Decimal.fixed 6 value) ++ " " ++
    String.ofList (Decimal.fixed 0 seconds) ++ "\n"

/-- The lines of a sample, one for each path. -/
def Sample.datapoints (s : Sample) (paths : List String) : Except PathError (List String) :=
  if s.isWritable then .ok (paths.map fun path => datapointLine path s.value s.timestamp)
  else .error (.invalidSampleValue s.value)

/-- Pack lines while `buffer` is being filled; a line that would exceed the limit begins another
buffer. -/
def packLines (limit : Nat) (buffer : String) : List String → List String
  | [] => if buffer = "" then [] else [buffer]
  | line :: lines =>
    if buffer ≠ "" ∧ limit < buffer.utf8ByteSize + line.utf8ByteSize then
      buffer :: packLines limit line lines
    else packLines limit (buffer ++ line) lines

/-- Pack lines into buffers of at most `limit` bytes.  Lines are never split, so a longer line
gets a buffer of its own, and no buffer is empty. -/
def chunkLines (lines : List String) (limit : Nat) : List String := packLines limit "" lines

/-! ## Stored points -/

/-- A stored point: its time in seconds, and its value if it has one. -/
structure Point where
  timestamp : Int
  value : Option Binary64
deriving DecidableEq

/-- The points between two neighbours, `interval` seconds apart, on the line through them. -/
def interpolate (interval : Int) (p q : Int × Binary64) : List (Int × Binary64) :=
  let delta := q.1 - p.1
  if interval = 0 ∨ delta ≤ 0 then []
  else
    let slope := (q.2 - p.2) / Binary64.ofInt delta
    (List.range ((delta / interval).toNat - 1)).map fun k =>
      let elapsed := (k + 1 : Nat) * interval
      ((p.1 + elapsed) * 1000, p.2 + Binary64.ofInt elapsed * slope)

/-- The samples of stored points: those with a value, and between neighbours that both have one the
interpolated ones. -/
def samplesFrom (interval : Int) : List Point → List (Int × Binary64)
  | [] => []
  | p :: ps =>
    match p.value with
    | none => samplesFrom interval ps
    | some v =>
      let between := match ps with
        | ⟨t, some w⟩ :: _ => interpolate interval (p.timestamp, v) (t, w)
        | _ => []
      (p.timestamp * 1000, v) :: (between ++ samplesFrom interval ps)

/-- The greatest interval between samples, in seconds. -/
def greatestInterval : Nat := 9223372036854775807

/-- The samples of stored points, interpolated so that they are about `delta` seconds apart;
fractions of a second do not count, and zero asks for no interpolation. -/
def samplesOfPoints (points : List Point) (delta : Nat) : List (Int × Binary64) :=
  samplesFrom (min delta greatestInterval : Nat) points

end MetricPath
