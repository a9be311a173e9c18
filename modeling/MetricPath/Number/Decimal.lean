import MetricPath.Number.Binary64
import MetricPath.Text.Split

/-!
# Decimal text of binary numbers

Three functions relate binary numbers and decimal digits.

* `Decimal.shortest`: the fewest digits that read back to a number, and of those the nearest.
* `Decimal.fixed`: a set number of places, by rounding the exact value.
* `Decimal.read?`: the number nearest to a decimal text.

How digits are laid out is for the output format to decide; `Decimal.Style` holds those decisions.
-/

namespace MetricPath

namespace Decimal

/-- The digits of a whole number in base ten. -/
def natText (n : Nat) : List Char := Nat.toDigits 10 n

/-- A whole number in base ten, with a minus sign if negative. -/
def intText : Int → List Char
  | .ofNat n => natText n
  | .negSucc n => '-' :: natText (n + 1)

/-! ## Shortest digits -/

/-- Decimal digits and where the point stands: the value is `0.digits * 10 ^ point`. -/
structure Digits where
  digits : List Char
  point : Int
deriving DecidableEq, Repr

/-- Whether `a / b` lies between the midpoints to the neighbours of the positive finite number `x`,
midpoints included when the significand is even.  Below a power of two the neighbour is half as far
away. -/
def readsBack (x : Binary64) (a b : Nat) : Bool :=
  let m := x.significand
  let e := x.exponent
  let narrow := m = Nat.pow 2 52 && e ≠ -1074
  -- in quarters of `2 ^ e`
  let low := if narrow then 4 * m - 1 else 4 * m - 2
  let high := 4 * m + 2
  let (num, den) : Nat × Nat :=
    if 0 ≤ e then (4 * a, b * Nat.pow 2 e.toNat) else (4 * a * Nat.pow 2 (-e).toNat, b)
  if m % 2 = 0 then low * den ≤ num && num ≤ high * den
  else low * den < num && num < high * den

/-- The least `k` from `start` on, within `fuel` steps, with `num / den < 10 ^ k`. -/
def scaleFrom (num den : Nat) : Nat → Int → Int
  | 0, k => k
  | fuel + 1, k =>
    let below : Bool :=
      if 0 ≤ k then num < den * Nat.pow 10 k.toNat else num * Nat.pow 10 (-k).toNat < den
    if below then k else scaleFrom num den fuel (k + 1)

/-- The least `k` with `num / den < 10 ^ k`, for a fraction that is not zero. -/
def scale (num den : Nat) : Int :=
  let binary : Int := (Nat.log2 num : Int) - (Nat.log2 den : Int)
  scaleFrom num den 8 ((binary * 30103).fdiv 100000 - 2)

/-- On the grid of `count` digits below `10 ^ k`, the neighbour of `x` that reads back, the nearer
one if both do. -/
def onGrid? (x : Binary64) (num den : Nat) (k : Int) (count : Nat) : Option Nat :=
  let e : Int := k - count
  let up : Nat := if 0 ≤ e then Nat.pow 10 e.toNat else 1
  let down : Nat := if 0 ≤ e then 1 else Nat.pow 10 (-e).toNat
  -- the value in steps of the grid is `num * down / (den * up)`
  let q := num * down / (den * up)
  let r := num * down % (den * up)
  let hit (n : Nat) : Bool := n ≠ 0 && readsBack x (n * up) down
  match hit q, hit (q + 1) with
  | true, true =>
    if 2 * r < den * up then some q
    else if den * up < 2 * r then some (q + 1)
    else if q % 2 = 0 then some q else some (q + 1)
  | true, false => some q
  | false, true => some (q + 1)
  | false, false => none

/-- The digits of the first grid, from `count` digits on, that has a neighbour that reads back. -/
def shortestFrom (x : Binary64) (num den : Nat) (k : Int) : Nat → Nat → Digits
  | 0, count =>
    let e : Int := k - count
    let up : Nat := if 0 ≤ e then Nat.pow 10 e.toNat else 1
    let down : Nat := if 0 ≤ e then 1 else Nat.pow 10 (-e).toNat
    ⟨natText (num * down / (den * up)), k⟩
  | fuel + 1, count =>
    match onGrid? x num den k count with
    | some n =>
      let text := natText n
      -- the upper neighbour may be the next power of ten
      ⟨(text.reverse.dropWhile (· = '0')).reverse, k + ((text.length : Int) - count)⟩
    | none => shortestFrom x num den k fuel (count + 1)

/-- The fewest digits that read back to the absolute value of a finite number other than zero. -/
def shortest (x : Binary64) : Digits :=
  let (num, den) := x.fraction
  shortestFrom x num den (scale num den) 17 1

/-! ## Layout -/

/-- The decisions of an output format for numbers. -/
structure Style where
  /-- Positional from this point on; the point of `0.001` is `-2`. -/
  leastPoint : Int
  /-- Positional up to this point; the point of `100` is `3`. -/
  greatestPoint : Int
  /-- Whether a whole number ends in a point and a zero. -/
  keepsPoint : Bool
  /-- The text of positive infinity; the negative one has a minus sign before it. -/
  infinityText : List Char
deriving DecidableEq, Repr

/-- Zeros. -/
def zeros (n : Nat) : List Char := List.replicate n '0'

/-- Digits without an exponent. -/
def Digits.positional (keepsPoint : Bool) (d : Digits) : List Char :=
  let n := d.digits.length
  if d.point ≤ 0 then '0' :: '.' :: (zeros (-d.point).toNat ++ d.digits)
  else
    let p := d.point.toNat
    if n ≤ p then d.digits ++ zeros (p - n) ++ (if keepsPoint then ['.', '0'] else [])
    else d.digits.take p ++ '.' :: d.digits.drop p

/-- Digits with one digit before the point and a signed exponent. -/
def Digits.scientific (d : Digits) : List Char :=
  let e := d.point - 1
  let exponent := (if e < 0 then '-' else '+') :: natText e.natAbs
  match d.digits with
  | [] => ['0']
  | [c] => c :: 'e' :: exponent
  | c :: cs => c :: '.' :: (cs ++ 'e' :: exponent)

/-- A number in the fewest digits, laid out as the format decides. -/
def Style.render (style : Style) (x : Binary64) : List Char :=
  if x.isNaN then ['N', 'a', 'N']
  else
    let body : List Char :=
      if x.isInfinite then style.infinityText
      else if x.isZero then if style.keepsPoint then ['0', '.', '0'] else ['0']
      else
        let d := shortest x
        if style.leastPoint ≤ d.point && d.point ≤ style.greatestPoint then
          d.positional style.keepsPoint
        else d.scientific
    if x.negative then '-' :: body else body

/-! ## Fixed places -/

/-- A number with `places` digits after the point.  The exact value is rounded, a half to the even
digit, and the sign stays also on what rounds to zero. -/
def fixed (places : Nat) (x : Binary64) : List Char :=
  if x.isNaN then ['N', 'a', 'N']
  else
    let body : List Char :=
      if x.isInfinite then ['i', 'n', 'f']
      else
        let (num, den) := x.fraction
        let n := Binary64.roundHalfEven (num * Nat.pow 10 places) den
        let whole := natText (n / Nat.pow 10 places)
        if places = 0 then whole
        else
          let part := natText (n % Nat.pow 10 places)
          whole ++ '.' :: (zeros (places - part.length) ++ part)
    if x.negative then '-' :: body else body

/-! ## Reading -/

def isDigit (c : Char) : Bool := '0' ≤ c && c ≤ '9'

/-- The value of a digit. -/
def digitValue (c : Char) : Nat := c.toNat - '0'.toNat

/-- The number that digits denote. -/
def ofDigits (cs : List Char) : Nat := cs.foldl (fun n c => 10 * n + digitValue c) 0

/-- The number that digits denote, if there is at least one and nothing else. -/
def natOf? (cs : List Char) : Option Nat :=
  if cs.isEmpty || !cs.all isDigit then none else some (ofDigits cs)

/-- A sign, and what follows it. -/
def splitSign : List Char → Bool × List Char
  | '-' :: cs => (true, cs)
  | '+' :: cs => (false, cs)
  | cs => (false, cs)

/-- The whole number that a text denotes: digits after at most one sign. -/
def intOf? (cs : List Char) : Option Int :=
  let (negative, rest) := splitSign cs
  (natOf? rest).map fun n => if negative then -(n : Int) else (n : Int)

/-- The number nearest to `digits * 10 ^ exponent`.  Exponents that put the value beyond every
representable number are settled without computing the power. -/
def ofScaled (negative : Bool) (digits : List Char) (exponent : Int) : Binary64 :=
  let n := ofDigits digits
  if n = 0 then Binary64.ofParts negative 0
  else
    let top : Int := (natText n).length + exponent
    if 310 < top then Binary64.infinity negative
    else if top < -330 then Binary64.ofParts negative 0
    else if 0 ≤ exponent then Binary64.ofFraction negative (n * Nat.pow 10 exponent.toNat) 1
    else Binary64.ofFraction negative n (Nat.pow 10 (-exponent).toNat)

/-- An unsigned decimal number: digits with at most one point and at least one digit, then at most
one exponent. -/
def readUnsigned? (negative : Bool) (cs : List Char) : Option Binary64 :=
  let whole := cs.takeWhile isDigit
  let afterWhole := cs.dropWhile isDigit
  let (part, rest) :=
    match afterWhole with
    | '.' :: more => (more.takeWhile isDigit, more.dropWhile isDigit)
    | more => ([], more)
  if whole.isEmpty && part.isEmpty then none
  else
    let exponent? : Option Int :=
      match rest with
      | [] => some 0
      | c :: more => if c = 'e' || c = 'E' then intOf? more else none
    exponent?.map fun e => ofScaled negative (whole ++ part) (e - part.length)

/-- Whether a text is a word, in any case of its letters. -/
def isWord (word : String) (cs : List Char) : Bool := cs.map Char.toLower = word.toList

/-- The number that a text denotes: a decimal number, `inf`, `infinity` or `nan` in any case,
after at most one sign. -/
def read? (cs : List Char) : Option Binary64 :=
  let (negative, rest) := splitSign cs
  if isWord "inf" rest || isWord "infinity" rest then some (Binary64.infinity negative)
  else if isWord "nan" rest then
    some (if negative then Binary64.nan.neg else Binary64.nan)
  else readUnsigned? negative rest

end Decimal

end MetricPath
