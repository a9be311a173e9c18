/-!
# Binary floating point of 64 bits

Sample values are binary numbers of 64 bits: a sign, eleven bits of exponent and 52 bits of
fraction.  Here such a number is its bit pattern, and each operation is stated through the exact
value: the operands are fractions of whole numbers, the result is computed exactly, and one
function, `Binary64.ofFraction`, rounds it to the nearest representable number, of two equally
near ones to the one with the even last bit.

So nothing below leaves whole-number arithmetic, and a statement about a sum or a quotient is a
statement about `ofFraction`.  Powers are those of `Nat.pow`.
-/

namespace MetricPath

/-- A binary number of 64 bits, by its bit pattern. -/
structure Binary64 where
  bits : UInt64
deriving DecidableEq, Repr

namespace Binary64

/-! ## Parts of the pattern -/

/-- The sign bit: set for negative numbers and for the negative zero. -/
def negative (x : Binary64) : Bool := Nat.pow 2 63 ≤ x.bits.toNat

/-- The pattern without its sign bit. -/
def magnitude (x : Binary64) : Nat := x.bits.toNat % Nat.pow 2 63

/-- The pattern of infinity without its sign bit; larger patterns are not numbers. -/
def infinityMagnitude : Nat := 0x7FF0000000000000

/-- The number with the given sign and pattern. -/
def ofParts (negative : Bool) (magnitude : Nat) : Binary64 :=
  ⟨UInt64.ofNat ((if negative then Nat.pow 2 63 else 0) + magnitude)⟩

/-- The positive zero. -/
def zero : Binary64 := ⟨0⟩

/-- Infinity, with a sign. -/
def infinity (negative : Bool) : Binary64 := ofParts negative infinityMagnitude

/-- The pattern that stands for no number. -/
def nan : Binary64 := ⟨0x7FF8000000000000⟩

instance : Inhabited Binary64 := ⟨zero⟩

def isNaN (x : Binary64) : Bool := infinityMagnitude < x.magnitude

def isInfinite (x : Binary64) : Bool := x.magnitude = infinityMagnitude

def isFinite (x : Binary64) : Bool := x.magnitude < infinityMagnitude

/-- Both zeros. -/
def isZero (x : Binary64) : Bool := x.magnitude = 0

/-- The number with the opposite sign. -/
def neg (x : Binary64) : Binary64 := ofParts (!x.negative) x.magnitude

/-! ## The value

The absolute value of a finite number is `significand * 2 ^ exponent`. -/

/-- The whole number that `2 ^ exponent` scales. -/
def significand (x : Binary64) : Nat :=
  if x.magnitude < Nat.pow 2 52 then x.magnitude else Nat.pow 2 52 + x.magnitude % Nat.pow 2 52

/-- The exponent of two. -/
def exponent (x : Binary64) : Int :=
  if x.magnitude < Nat.pow 2 52 then -1074 else (x.magnitude / Nat.pow 2 52 : Nat) - 1075

/-- The absolute value of a finite number as a fraction: numerator and denominator. -/
def fraction (x : Binary64) : Nat × Nat :=
  if 0 ≤ x.exponent then (x.significand * Nat.pow 2 x.exponent.toNat, 1)
  else (x.significand, Nat.pow 2 (-x.exponent).toNat)

/-! ## Rounding -/

/-- A quotient rounded to the nearest whole number, of two equally near ones to the even one. -/
def roundHalfEven (num den : Nat) : Nat :=
  let q := num / den
  let r := num % den
  if 2 * r < den then q
  else if den < 2 * r then q + 1
  else if q % 2 = 0 then q else q + 1

/-- The number nearest to `num / den`, with the given sign.  The exponent is chosen so that the
rounded significand has 53 bits, unless the least exponent forbids it; a significand that rounds up
to 54 bits carries into the exponent, because the pattern is their sum. -/
def ofFraction (negative : Bool) (num den : Nat) : Binary64 :=
  if num = 0 ∨ den = 0 then ofParts negative 0
  else
    let rough : Int := (Nat.log2 num : Int) - (Nat.log2 den : Int) - 53
    let scaled (e : Int) : Nat × Nat :=
      if 0 ≤ e then (num, den * Nat.pow 2 e.toNat) else (num * Nat.pow 2 (-e).toNat, den)
    let fits : Bool := (scaled rough).1 / (scaled rough).2 < Nat.pow 2 53
    let e : Int := max (if fits then rough else rough + 1) (-1074)
    let m := roundHalfEven (scaled e).1 (scaled e).2
    let pattern := (e + 1074).toNat * Nat.pow 2 52 + m
    ofParts negative (min pattern infinityMagnitude)

/-- The number nearest to a whole number. -/
def ofInt (i : Int) : Binary64 := ofFraction (i < 0) i.natAbs 1

/-! ## Arithmetic -/

/-- A finite number as a signed multiple of `2 ^ (-1074)`, of which every finite number is one. -/
def units (x : Binary64) : Int :=
  let n : Nat := x.significand * Nat.pow 2 (x.exponent + 1074).toNat
  if x.negative then -(n : Int) else n

/-- A sum.  An exact zero is positive unless both operands are negative. -/
def add (x y : Binary64) : Binary64 :=
  if x.isNaN || y.isNaN then nan
  else if x.isInfinite then
    if y.isInfinite && x.negative != y.negative then nan else x
  else if y.isInfinite then y
  else
    let sum := x.units + y.units
    if sum = 0 then ofParts (x.negative && y.negative) 0
    else ofFraction (sum < 0) sum.natAbs (Nat.pow 2 1074)

/-- A difference. -/
def sub (x y : Binary64) : Binary64 := add x y.neg

/-- A product. -/
def mul (x y : Binary64) : Binary64 :=
  let negative := x.negative != y.negative
  if x.isNaN || y.isNaN then nan
  else if x.isInfinite || y.isInfinite then
    if x.isZero || y.isZero then nan else infinity negative
  else
    let (a, b) := x.fraction
    let (c, d) := y.fraction
    ofFraction negative (a * c) (b * d)

/-- A quotient. -/
def div (x y : Binary64) : Binary64 :=
  let negative := x.negative != y.negative
  if x.isNaN || y.isNaN then nan
  else if x.isInfinite then
    if y.isInfinite then nan else infinity negative
  else if y.isInfinite then ofParts negative 0
  else if y.isZero then
    if x.isZero then nan else infinity negative
  else
    let (a, b) := x.fraction
    let (c, d) := y.fraction
    ofFraction negative (a * d) (b * c)

instance : Neg Binary64 := ⟨neg⟩
instance : Add Binary64 := ⟨add⟩
instance : Sub Binary64 := ⟨sub⟩
instance : Mul Binary64 := ⟨mul⟩
instance : Div Binary64 := ⟨div⟩

/-- Whether two numbers are equal as numbers: the zeros are equal, and what is no number equals
nothing. -/
def numEq (x y : Binary64) : Bool :=
  !x.isNaN && !y.isNaN && (x.bits = y.bits || (x.isZero && y.isZero))

end Binary64

end MetricPath
