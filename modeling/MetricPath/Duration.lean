import MetricPath.Number.Decimal
import MetricPath.Text.Blank

/-!
# Durations

Durations are written as amounts with units, such as `2h 37min` or `1.5s`; the amounts add up.  They
are printed with one amount for each unit that is not zero, and in a short form with a single unit.
-/

namespace MetricPath

/-- A length of time. -/
structure Duration where
  nanoseconds : Nat
deriving DecidableEq, Repr

namespace Duration

def zero : Duration := ⟨0⟩

def ofSeconds (n : Nat) : Duration := ⟨n * 1000000000⟩

def ofMilliseconds (n : Nat) : Duration := ⟨n * 1000000⟩

/-- The whole seconds. -/
def seconds (d : Duration) : Nat := d.nanoseconds / 1000000000

def isZero (d : Duration) : Bool := d.nanoseconds = 0

/-! ## Units -/

/-- A unit, by its length.  Units up to the minute also measure fractions exactly; fractions of
longer ones are cut to whole seconds, and the nanosecond has none. -/
structure Span where
  /-- Its length in nanoseconds. -/
  length : Nat
  /-- The length of the parts that fractions are counted in. -/
  grain : Option Nat
deriving DecidableEq, Repr

/-- The length of a second. -/
def second : Nat := 1000000000

/-- The unit of a name. -/
def span? (name : List Char) : Option Span :=
  match String.ofList name with
  | "nanos" | "nsec" | "ns" => some ⟨1, none⟩
  | "usec" | "us" | "µs" => some ⟨1000, some 1⟩
  | "millis" | "msec" | "ms" => some ⟨1000000, some 1⟩
  | "seconds" | "second" | "secs" | "sec" | "s" => some ⟨second, some 1⟩
  | "minutes" | "minute" | "min" | "mins" | "m" => some ⟨60 * second, some 1⟩
  | "hours" | "hour" | "hr" | "hrs" | "h" => some ⟨3600 * second, some second⟩
  | "days" | "day" | "d" => some ⟨86400 * second, some second⟩
  | "weeks" | "week" | "wk" | "wks" | "w" => some ⟨7 * 86400 * second, some second⟩
  | "months" | "month" | "M" => some ⟨2630016 * second, some second⟩
  | "years" | "year" | "yr" | "yrs" | "y" => some ⟨31557600 * second, some second⟩
  | _ => none

/-! ## Reading -/

/-- The greatest number that an amount may contain. -/
def greatestAmount : Nat := 18446744073709551615

/-- A number that an amount may contain. -/
def bounded (n : Nat) : Option Nat := if n ≤ greatestAmount then some n else none

/-- Characters of unit names. -/
def isUnitChar (c : Char) : Bool := c.isAlpha || c = 'µ'

/-- The rest of a whole number that has been read up to `n`; white space between digits does not
count.  It ends before a point, before a unit or at the end. -/
def readWhole (n : Nat) : List Char → Option (Nat × List Char)
  | [] => some (n, [])
  | c :: cs =>
    if Decimal.isDigit c then do readWhole (← bounded (10 * n + Decimal.digitValue c)) cs
    else if Text.isBlank c then readWhole n cs
    else if isUnitChar c || c = '.' then some (n, c :: cs)
    else none

/-- The digits of a fraction, as numerator and denominator. -/
def readFraction (num den : Nat) : List Char → Option (Nat × Nat × List Char)
  | [] => if den = 1 then none else some (num, den, [])
  | c :: cs =>
    if Decimal.isDigit c then do
      let den ← bounded (10 * den)
      let num ← bounded (10 * num + Decimal.digitValue c)
      readFraction num den cs
    else if Text.isBlank c then readFraction num den cs
    else if isUnitChar c then if den = 1 then none else some (num, den, c :: cs)
    else none

/-- The length of an amount: a whole number and a fraction of a unit. -/
def amount? (whole : Nat) (fraction? : Option (Nat × Nat)) (unit : Span) : Option Nat := do
  -- whole amounts are counted in seconds or in nanoseconds
  let grain := if unit.length < second then 1 else second
  let count ← bounded (whole * (unit.length / grain))
  match fraction? with
  | none => return count * grain
  | some (num, den) =>
    let grain' ← unit.grain
    let part ← bounded (num * (unit.length / grain'))
    return count * grain + part / den * grain'

/-- Add an amount to a duration, whose seconds must stay bounded. -/
def add? (d : Duration) (nanoseconds : Nat) : Option Duration :=
  let sum : Duration := ⟨d.nanoseconds + nanoseconds⟩
  if sum.seconds ≤ greatestAmount then some sum else none

/-- Add up amounts, the first of which begins with the digit `first`; the number bounds how many
there are. -/
def readAmounts : (bound : Nat) → Duration → (first : Nat) → List Char → Option Duration
  | 0, _, _, _ => none
  | bound + 1, d, first, cs => do
    let (whole, cs) ← readWhole first cs
    let (fraction?, cs) ←
      match cs with
      | '.' :: cs => (readFraction 0 1 cs).map fun (num, den, cs) => (some (num, den), cs)
      | cs => some (none, cs)
    let unit ← span? (cs.takeWhile isUnitChar)
    let d ← d.add? (← amount? whole fraction? unit)
    match cs.dropWhile isUnitChar with
    | [] => some d
    | c :: cs =>
      if Decimal.isDigit c then readAmounts bound d (Decimal.digitValue c) cs
      else if Text.isBlank c then
        match cs.dropWhile Text.isBlank with
        | [] => some d
        | c :: cs =>
          if Decimal.isDigit c then readAmounts bound d (Decimal.digitValue c) cs else none
      else none

/-- The duration that a text denotes.  A zero needs no unit. -/
def read? (cs : List Char) : Option Duration :=
  if cs = ['0'] then some zero
  else
    match cs.dropWhile Text.isBlank with
    | [] => none
    | c :: rest =>
      if Decimal.isDigit c then readAmounts (rest.length + 1) zero (Decimal.digitValue c) rest
      else none

/-! ## Printing -/

/-- An amount with a unit, in the plural if it is asked for; nothing if it is zero. -/
def amountText (plural : Bool) (unit : String) (n : Nat) : Option String :=
  if n = 0 then none else some (toString n ++ unit ++ if plural && 1 < n then "s" else "")

/-- The duration with an amount for each unit that is not zero. -/
def render (d : Duration) : String :=
  if d.isZero then "0s"
  else
    let secs := d.seconds
    let nanos := d.nanoseconds % second
    let inYear := secs % 31557600
    let inMonth := inYear % 2630016
    let inDay := inMonth % 86400
    " ".intercalate <| List.filterMap id [
      amountText true "year" (secs / 31557600),
      amountText true "month" (inYear / 2630016),
      amountText true "day" (inMonth / 86400),
      amountText false "h" (inDay / 3600),
      amountText false "m" (inDay % 3600 / 60),
      amountText false "s" (inDay % 60),
      amountText false "ms" (nanos / 1000000),
      amountText false "us" (nanos / 1000 % 1000),
      amountText false "ns" (nanos % 1000)]

/-- A count of `unit` parts, in units, without zeros at the end of its fraction. -/
def decimalText (n : Nat) (places : Nat) (unit : String) : String :=
  let part := Decimal.natText (n % Nat.pow 10 places)
  let padded := Decimal.zeros (places - part.length) ++ part
  let digits := (padded.reverse.dropWhile (· = '0')).reverse
  let fraction := if digits.isEmpty then "" else "." ++ String.ofList digits
  toString (n / Nat.pow 10 places) ++ fraction ++ unit

/-- The duration in the longest of seconds and their parts that is not longer than it. -/
def renderShort (d : Duration) : String :=
  let n := d.nanoseconds
  if second ≤ n then decimalText n 9 "s"
  else if 1000000 ≤ n then decimalText n 6 "ms"
  else if 1000 ≤ n then decimalText n 3 "µs"
  else decimalText n 0 "ns"

end Duration

end MetricPath
