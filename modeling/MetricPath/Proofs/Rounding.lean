import Mathlib.Algebra.Order.Field.Power
import Mathlib.Algebra.Order.Ring.Rat
import Mathlib.Data.Int.ConditionallyCompleteOrder
import Mathlib.Order.Monotone.Basic
import Mathlib.Tactic.Linarith
import Mathlib.Tactic.Positivity
import Mathlib.Tactic.Ring
import MetricPath.Number.Binary64

/-!
# Rounding whole numbers

Each finite binary number is a fraction (`value`), and a whole multiple of the least positive one.
Their patterns are in the order of their values: put the sign in front of the pattern without it
(`rank`), and one number is below another exactly if its rank is (`value_lt_iff`).

A number is nearest to a fraction if no other finite one is nearer, and if an equally near one is
another number only where its own last bit is even (`IsNearest`).  All numbers nearest to one
fraction have one value (`IsNearest.value_eq`): of two equally near values next to each other one
has an odd last bit.  And rounding a whole number gives a number nearest to it
(`isNearest_ofInt`): the quotient by the power of two that leaves 53 bits and the quotient above it
are neighbours in the order of patterns, with the whole number between them
(`isNearest_placed`).  If the quotient is exact, so is the rounding (`value_ofInt`).
-/

namespace MetricPath.Binary64

/-! ## Parts of a pattern -/

theorem magnitude_lt (x : Binary64) : x.magnitude < 2 ^ 63 := Nat.mod_lt _ (by decide)

theorem toNat_bits (x : Binary64) :
    x.bits.toNat = (if x.negative then 2 ^ 63 else 0) + x.magnitude := by
  have bound := x.bits.toNat_lt
  by_cases sign : 2 ^ 63 ≤ x.bits.toNat
  · simp only [negative, magnitude, Nat.pow_eq, sign, decide_true, if_true]
    omega
  · simp only [negative, magnitude, Nat.pow_eq, sign, decide_false]
    simp only [Bool.false_eq_true, if_false]
    omega

/-- The sign and the rest of a pattern make up the pattern. -/
theorem ext_parts {x y : Binary64} (sign : x.negative = y.negative)
    (rest : x.magnitude = y.magnitude) : x = y := by
  have same : x.bits.toNat = y.bits.toNat := by rw [toNat_bits, toNat_bits, sign, rest]
  cases x
  cases y
  exact congrArg mk (UInt64.toNat_inj.mp same)

section Parts

variable {p : Nat} (h : p < 2 ^ 63) (sign : Bool)
include h

theorem toNat_bits_ofParts :
    (ofParts sign p).bits.toNat = (if sign then 2 ^ 63 else 0) + p := by
  rw [ofParts, UInt64.toNat_ofNat', Nat.mod_eq_of_lt]
  · rfl
  · cases sign <;> simp only [Nat.pow_eq, Bool.false_eq_true, if_true, if_false] <;> omega

theorem negative_ofParts : (ofParts sign p).negative = sign := by
  rw [negative, toNat_bits_ofParts h, Nat.pow_eq]
  cases sign
  · exact decide_eq_false (by simpa using h)
  · exact decide_eq_true (by simp)

theorem magnitude_ofParts : (ofParts sign p).magnitude = p := by
  rw [magnitude, toNat_bits_ofParts h, Nat.pow_eq]
  cases sign
  · rw [if_neg Bool.false_ne_true, Nat.zero_add, Nat.mod_eq_of_lt h]
  · rw [if_pos rfl, Nat.add_mod_left, Nat.mod_eq_of_lt h]

end Parts

theorem isFinite_iff {x : Binary64} : x.isFinite ↔ x.magnitude < infinityMagnitude :=
  decide_eq_true_iff

/-! ## Values -/

/-- The value of a finite number. -/
def value (x : Binary64) : ℚ :=
  (if x.negative then -1 else 1) * x.significand * 2 ^ x.exponent

/-- The exponent counts from the least one. -/
theorem exponent_eq (x : Binary64) :
    x.exponent = (x.magnitude / 2 ^ 52 - 1 : Nat) + (-1074 : Int) := by
  rw [exponent, Nat.pow_eq]
  split <;> omega

/-- The least positive value. -/
def leastValue : ℚ := 2 ^ (-1074 : Int)

theorem leastValue_pos : 0 < leastValue := zpow_pos two_pos _

/-- Every value is a whole multiple of the least positive one. -/
theorem value_eq_units (x : Binary64) : x.value = x.units * leastValue := by
  rw [value, units, exponent_eq, neg_add_cancel_right, Int.toNat_natCast, Nat.pow_eq,
    zpow_add₀ two_ne_zero, zpow_natCast, ← leastValue]
  cases x.negative
  · simp only [Bool.false_eq_true, if_false]
    push_cast
    ring
  · simp only [if_true]
    push_cast
    ring

/-! ## The order of patterns -/

/-- The absolute value that a pattern without its sign stands for, in multiples of the least
positive one. -/
def unitsOf (p : Nat) : Nat :=
  if p < 2 ^ 52 then p else (2 ^ 52 + p % 2 ^ 52) * 2 ^ (p / 2 ^ 52 - 1)

theorem unitsOf_of_le {p : Nat} (h : p ≤ 2 ^ 52) : unitsOf p = p := by
  rcases Nat.lt_or_eq_of_le h with lt | rfl
  · exact if_pos lt
  · rfl

/-- A significand of 53 bits stands for itself, scaled; one that is carried over as well. -/
theorem unitsOf_pattern {e m : Nat} (low : 2 ^ 52 ≤ m) (high : m ≤ 2 ^ 53) :
    unitsOf (e * 2 ^ 52 + m) = m * 2 ^ e := by
  rw [unitsOf, if_neg (by omega)]
  rcases Nat.lt_or_eq_of_le high with lt | rfl
  · rw [show (e * 2 ^ 52 + m) % 2 ^ 52 = m - 2 ^ 52 by omega,
      show (e * 2 ^ 52 + m) / 2 ^ 52 - 1 = e by omega, Nat.add_sub_cancel' low]
  · rw [show (e * 2 ^ 52 + 2 ^ 53) % 2 ^ 52 = 0 by omega,
      show (e * 2 ^ 52 + 2 ^ 53) / 2 ^ 52 - 1 = e + 1 by omega, pow_succ 2 e]
    omega

theorem strictMono_unitsOf : StrictMono unitsOf := by
  refine strictMono_nat_of_lt_succ fun p => ?_
  by_cases small : p < 2 ^ 52
  · rw [unitsOf_of_le (by omega), unitsOf_of_le (by omega)]
    exact Nat.lt_succ_self p
  · obtain ⟨e, m, low, high, rfl⟩ : ∃ e m, 2 ^ 52 ≤ m ∧ m < 2 ^ 53 ∧ p = e * 2 ^ 52 + m :=
      ⟨p / 2 ^ 52 - 1, p % 2 ^ 52 + 2 ^ 52, by omega, by omega, by omega⟩
    rw [Nat.add_assoc, unitsOf_pattern low (by omega), unitsOf_pattern (by omega) (by omega)]
    exact Nat.mul_lt_mul_of_pos_right (Nat.lt_succ_self m) (Nat.two_pow_pos e)

/-- The place of a number among all numbers. -/
def rank (x : Binary64) : Int := if x.negative then -(x.magnitude : Int) else x.magnitude

/-- What the number of a rank stands for, in multiples of the least positive one. -/
def unitsAt (r : Int) : Int := if r < 0 then -(unitsOf r.natAbs : Int) else unitsOf r.natAbs

theorem units_eq_unitsAt (x : Binary64) : x.units = unitsAt x.rank := by
  have absolute :
      x.significand * 2 ^ (x.exponent + 1074).toNat = unitsOf x.magnitude := by
    rw [exponent_eq, neg_add_cancel_right, Int.toNat_natCast, significand, unitsOf, Nat.pow_eq]
    by_cases small : x.magnitude < 2 ^ 52
    · rw [if_pos small, if_pos small, Nat.div_eq_of_lt small, Nat.zero_sub, pow_zero, Nat.mul_one]
    · rw [if_neg small, if_neg small]
  have positive : 0 < x.magnitude → 0 < unitsOf x.magnitude := fun pos =>
    unitsOf_of_le (Nat.zero_le _) ▸ strictMono_unitsOf pos
  rw [units, Nat.pow_eq, absolute, unitsAt, rank]
  cases x.negative
  · simp
  · rcases Nat.eq_zero_or_pos x.magnitude with zero | pos
    · rw [zero]
      rfl
    · simp [pos]

theorem strictMono_unitsAt : StrictMono unitsAt := by
  intro r s below
  have grows : ∀ {p q : Nat}, p < q → (unitsOf p : Int) < unitsOf q := fun h =>
    Int.ofNat_lt.mpr (strictMono_unitsOf h)
  unfold unitsAt
  by_cases low : r < 0 <;> by_cases high : s < 0
  · rw [if_pos low, if_pos high]
    exact Int.neg_lt_neg (grows (by omega))
  · rw [if_pos low, if_neg high]
    have := grows (show 0 < r.natAbs by omega)
    omega
  · omega
  · rw [if_neg low, if_neg high]
    exact grows (by omega)

theorem value_lt_iff {x y : Binary64} : x.value < y.value ↔ x.rank < y.rank := by
  rw [value_eq_units, value_eq_units, mul_lt_mul_iff_left₀ leastValue_pos, Int.cast_lt,
    units_eq_unitsAt, units_eq_unitsAt, strictMono_unitsAt.lt_iff_lt]

theorem value_le_iff {x y : Binary64} : x.value ≤ y.value ↔ x.rank ≤ y.rank := by
  rw [← not_lt, value_lt_iff, not_lt]

theorem value_eq_iff {x y : Binary64} : x.value = y.value ↔ x.rank = y.rank := by
  rw [le_antisymm_iff, value_le_iff, value_le_iff, ← le_antisymm_iff]

/-- The number of a rank. -/
def ofRank (r : Int) : Binary64 := ofParts (r < 0) r.natAbs

theorem rank_ofRank {r : Int} (h : r.natAbs < 2 ^ 63) : (ofRank r).rank = r := by
  rw [rank, ofRank, negative_ofParts h, magnitude_ofParts h]
  by_cases below : r < 0
  · rw [decide_eq_true below, if_pos rfl]
    omega
  · rw [decide_eq_false below, if_neg Bool.false_ne_true]
    omega

theorem natAbs_rank (x : Binary64) : x.rank.natAbs = x.magnitude := by
  unfold rank
  split <;> omega

theorem significand_mod_two (x : Binary64) : x.significand % 2 = x.magnitude % 2 := by
  rw [significand, Nat.pow_eq]
  split <;> omega

/-! ## Equality -/

/-- Only the zeros share a place. -/
theorem rank_eq_iff {x y : Binary64} :
    x.rank = y.rank ↔ x = y ∨ x.magnitude = 0 ∧ y.magnitude = 0 := by
  constructor
  · intro same
    have rest : x.magnitude = y.magnitude := by rw [← natAbs_rank, same, natAbs_rank]
    by_cases sign : x.negative = y.negative
    · exact .inl (ext_parts sign rest)
    · have opposite : x.rank = -y.rank := by
        rw [rank, rank, rest, Bool.eq_not.mpr sign]
        cases y.negative
        · rfl
        · exact (Int.neg_neg _).symm
      right
      rw [← natAbs_rank, ← natAbs_rank]
      omega
  · rintro (rfl | ⟨zx, zy⟩)
    · rfl
    · rw [← natAbs_rank] at zx zy
      omega

/-- Finite numbers compare as equal exactly if they have the same value. -/
theorem numEq_iff {x y : Binary64} (hx : x.isFinite) (hy : y.isFinite) :
    x.numEq y ↔ x.value = y.value := by
  have number {z : Binary64} (h : z.isFinite) : z.isNaN = false :=
    decide_eq_false (Nat.lt_asymm (isFinite_iff.mp h))
  have zero {z : Binary64} : z.isZero ↔ z.magnitude = 0 := decide_eq_true_iff
  have bits : x.bits = y.bits ↔ x = y := by
    cases x
    cases y
    exact (Binary64.mk.injEq ..).symm.to_iff
  rw [value_eq_iff, rank_eq_iff, numEq, number hx, number hy]
  simp only [Bool.not_false, Bool.true_and, Bool.or_eq_true, decide_eq_true_eq, bits,
    Bool.and_eq_true, zero]

/-! ## Nearest numbers -/

/-- A number that a fraction may be rounded to: no finite number is nearer, and an equally near one
has another value only if the last bit of this one is even. -/
structure IsNearest (q : ℚ) (x : Binary64) : Prop where
  finite : x.isFinite
  nearest : ∀ y : Binary64, y.isFinite → |q - x.value| ≤ |q - y.value|
  even : ∀ y : Binary64, y.isFinite → |q - y.value| = |q - x.value| →
    y.value = x.value ∨ x.significand % 2 = 0

/-- Between two numbers of different values with even last bits there is another number. -/
theorem exists_between_of_even {x y : Binary64} (hx : x.isFinite) (hy : y.isFinite)
    (evenX : x.significand % 2 = 0) (evenY : y.significand % 2 = 0) (below : x.value < y.value) :
    ∃ z : Binary64, z.isFinite ∧ x.value < z.value ∧ z.value < y.value := by
  rw [significand_mod_two, ← natAbs_rank] at evenX evenY
  rw [isFinite_iff, ← natAbs_rank, infinityMagnitude] at hx hy
  have ranks := value_lt_iff.mp below
  have place : (ofRank (x.rank + 1)).rank = x.rank + 1 := rank_ofRank (by omega)
  refine ⟨ofRank (x.rank + 1), ?_, ?_, ?_⟩
  · rw [isFinite_iff, ← natAbs_rank, place, infinityMagnitude]
    omega
  · rw [value_lt_iff, place]
    omega
  · rw [value_lt_iff, place]
    omega

/-- Equally far from two values is what lies in their middle. -/
theorem nearer_between {q a b c : ℚ} (same : |q - a| = |q - b|) (low : a < c) (high : c < b) :
    |q - c| < |q - a| := by
  have middle : q - a = b - q := by
    rcases abs_eq_abs.mp same with same | same <;> linarith
  rw [abs_of_pos (by linarith : 0 < q - a), abs_lt]
  constructor <;> linarith

/-- Of two nearest numbers with different values both have an even last bit, and a number between
them is nearer. -/
theorem IsNearest.not_lt {q : ℚ} {x y : Binary64} (hx : IsNearest q x) (hy : IsNearest q y) :
    ¬x.value < y.value := by
  intro below
  have same : |q - x.value| = |q - y.value| :=
    le_antisymm (hx.nearest y hy.finite) (hy.nearest x hx.finite)
  have evenX := (hx.even y hy.finite same.symm).resolve_left below.ne'
  have evenY := (hy.even x hx.finite same).resolve_left below.ne
  obtain ⟨z, finite, low, high⟩ := exists_between_of_even hx.finite hy.finite evenX evenY below
  exact absurd (hx.nearest z finite) (not_le.mpr (nearer_between same low high))

/-- All numbers nearest to one fraction have one value. -/
theorem IsNearest.value_eq {q : ℚ} {x y : Binary64} (hx : IsNearest q x) (hy : IsNearest q y) :
    x.value = y.value :=
  le_antisymm (le_of_not_gt (hy.not_lt hx)) (le_of_not_gt (hx.not_lt hy))

/-- To which of two numbers of one value a fraction is rounded does not matter. -/
theorem IsNearest.congr {q : ℚ} {x y : Binary64} (h : IsNearest q x) (same : x.value = y.value) :
    IsNearest q y := by
  have rest : x.magnitude = y.magnitude := by
    rw [← natAbs_rank, value_eq_iff.mp same, natAbs_rank]
  refine ⟨?_, ?_, ?_⟩
  · rw [isFinite, ← rest]
    exact h.finite
  · rw [← same]
    exact h.nearest
  · rw [← same, significand, ← rest, ← significand]
    exact h.even

theorem isNearest_self {x : Binary64} (hx : x.isFinite) : IsNearest x.value x where
  finite := hx
  nearest y _ := by
    rw [sub_self, abs_zero]
    exact abs_nonneg _
  even y _ same := by
    rw [sub_self, abs_zero, abs_eq_zero, sub_eq_zero] at same
    exact .inl same.symm

/-- The lower of two neighbours is nearest to what lies between them and not above their middle. -/
theorem isNearest_lower {q : ℚ} {x y : Binary64} (hx : x.isFinite) (next : y.rank = x.rank + 1)
    (low : x.value ≤ q) (half : 2 * q ≤ x.value + y.value)
    (even : 2 * q = x.value + y.value → x.significand % 2 = 0) : IsNearest q x := by
  have outside (z : Binary64) : z.value ≤ x.value ∨ y.value ≤ z.value := by
    rw [value_le_iff, value_le_iff]
    omega
  have distance : |q - x.value| = q - x.value := abs_of_nonneg (sub_nonneg.mpr low)
  refine ⟨hx, fun z _ => ?_, fun z _ same => ?_⟩
  · rw [distance, le_abs]
    rcases outside z with below | above
    · left
      linarith
    · right
      linarith
  · rw [distance] at same
    rcases outside z with below | above
    · left
      rw [abs_of_nonneg (by linarith)] at same
      linarith
    · right
      refine even (le_antisymm half ?_)
      rw [abs_of_nonpos (by linarith)] at same
      linarith

/-! ## Opposite numbers -/

theorem negative_neg (x : Binary64) : x.neg.negative = !x.negative :=
  negative_ofParts x.magnitude_lt _

theorem magnitude_neg (x : Binary64) : x.neg.magnitude = x.magnitude :=
  magnitude_ofParts x.magnitude_lt _

theorem significand_neg (x : Binary64) : x.neg.significand = x.significand := by
  rw [significand, significand, magnitude_neg]

theorem isFinite_neg (x : Binary64) : x.neg.isFinite = x.isFinite := by
  rw [isFinite, isFinite, magnitude_neg]

theorem rank_neg (x : Binary64) : x.neg.rank = -x.rank := by
  rw [rank, rank, negative_neg, magnitude_neg]
  cases x.negative
  · rfl
  · exact (Int.neg_neg _).symm

theorem value_neg (x : Binary64) : x.neg.value = -x.value := by
  rw [value, value, significand_neg, negative_neg, exponent, magnitude_neg, ← exponent]
  cases x.negative <;> simp

theorem neg_neg_self (x : Binary64) : x.neg.neg = x :=
  ext_parts (by rw [negative_neg, negative_neg, Bool.not_not])
    (by rw [magnitude_neg, magnitude_neg])

/-- What is nearest is so on both sides of zero. -/
theorem IsNearest.neg {q : ℚ} {x : Binary64} (h : IsNearest q x) : IsNearest (-q) x.neg := by
  have distance (y : Binary64) : |-q - y.value| = |q - y.neg.value| := by
    rw [value_neg, ← abs_neg, neg_sub, sub_neg_eq_add, sub_neg_eq_add, add_comm]
  have finite {y : Binary64} (hy : y.isFinite) : y.neg.isFinite := (isFinite_neg y).trans hy
  refine ⟨finite h.finite, fun y hy => ?_, fun y hy same => ?_⟩
  · rw [distance, distance, neg_neg_self]
    exact h.nearest y.neg (finite hy)
  · rw [distance, distance, neg_neg_self] at same
    rw [significand_neg, value_neg, ← neg_eq_iff_eq_neg, ← value_neg]
    exact h.even y.neg (finite hy) same

/-- The upper of two neighbours is nearest to what lies between them and not below their middle. -/
theorem isNearest_upper {q : ℚ} {x y : Binary64} (hy : y.isFinite) (next : y.rank = x.rank + 1)
    (high : q ≤ y.value) (half : x.value + y.value ≤ 2 * q)
    (even : 2 * q = x.value + y.value → y.significand % 2 = 0) : IsNearest q y := by
  have mirrored : IsNearest (-q) y.neg := by
    refine isNearest_lower (y := x.neg) ((isFinite_neg y).trans hy) ?_ ?_ ?_ fun middle => ?_
    · rw [rank_neg, rank_neg]
      omega
    · rw [value_neg]
      exact neg_le_neg high
    · rw [value_neg, value_neg]
      linarith
    · rw [value_neg, value_neg] at middle
      rw [significand_neg]
      exact even (by linarith)
  have same := mirrored.neg
  rwa [neg_neg, neg_neg_self] at same

/-! ## Rounded quotients -/

/-- A quotient is rounded down or up, whichever is nearer, and to the even one if both are. -/
theorem roundHalfEven_cases (num den : Nat) :
    (roundHalfEven num den = num / den ∧ 2 * (num % den) ≤ den ∧
        (2 * (num % den) = den → num / den % 2 = 0)) ∨
      (roundHalfEven num den = num / den + 1 ∧ den ≤ 2 * (num % den) ∧
        (2 * (num % den) = den → (num / den + 1) % 2 = 0)) := by
  unfold roundHalfEven
  dsimp only
  by_cases down : 2 * (num % den) < den
  · rw [if_pos down]
    exact .inl ⟨rfl, by omega, by omega⟩
  · by_cases up : den < 2 * (num % den)
    · rw [if_neg down, if_pos up]
      exact .inr ⟨rfl, by omega, by omega⟩
    · rw [if_neg down, if_neg up]
      by_cases even : num / den % 2 = 0
      · rw [if_pos even]
        exact .inl ⟨rfl, by omega, fun _ => even⟩
      · rw [if_neg even]
        exact .inr ⟨rfl, by omega, fun _ => by omega⟩

theorem roundHalfEven_mul (num den : Nat) {k : Nat} (pos : 0 < k) :
    roundHalfEven (k * num) (k * den) = roundHalfEven num den := by
  unfold roundHalfEven
  rw [Nat.mul_div_mul_left num den pos, Nat.mul_mod_mul_left]
  simp only [Nat.mul_left_comm 2 k, Nat.mul_lt_mul_left pos]

/-! ## Significands above the exponent of a whole number -/

/-- The number with a significand of 53 bits, the first of which stands for `2 ^ places`. -/
def placed (places m : Nat) : Binary64 := ofParts false ((places + 1022) * 2 ^ 52 + m)

theorem pow_mul_leastValue (places : Nat) :
    (2 : ℚ) ^ (places + 1022) * leastValue = 2 ^ places / 2 ^ 52 := by
  have exponents : ((places + 1022 : Nat) : Int) + -1074 = places - (52 : Nat) := by omega
  rw [leastValue, ← zpow_natCast, ← zpow_add₀ two_ne_zero, exponents, zpow_sub₀ two_ne_zero,
    zpow_natCast, zpow_natCast]

section Placed

variable {places m : Nat} (short : places < 64) (high : m ≤ 2 ^ 53)
include short high

theorem isFinite_placed : (placed places m).isFinite := by
  rw [placed, isFinite_iff, magnitude_ofParts (by omega), infinityMagnitude]
  omega

theorem significand_placed : (placed places m).significand % 2 = m % 2 := by
  rw [placed, significand_mod_two, magnitude_ofParts (by omega)]
  omega

theorem rank_placed : (placed places m).rank = ((places + 1022) * 2 ^ 52 + m : Nat) := by
  rw [placed, rank, negative_ofParts (by omega), magnitude_ofParts (by omega),
    if_neg Bool.false_ne_true]

/-- A significand behind the last one of 53 bits counts as well: it is carried over. -/
theorem value_placed (low : 2 ^ 52 ≤ m) :
    (placed places m).value = m * 2 ^ places / 2 ^ 52 := by
  rw [value_eq_units, units_eq_unitsAt, rank_placed short high, unitsAt, if_neg (by omega),
    Int.natAbs_natCast, unitsOf_pattern low high, Int.cast_natCast, Nat.cast_mul, Nat.cast_pow,
    Nat.cast_ofNat, mul_assoc, pow_mul_leastValue, mul_div_assoc]

end Placed

/-- A quotient of 53 bits is rounded to the nearest number. -/
theorem isNearest_placed {places num : Nat} (short : places < 64)
    (low : 2 ^ 52 ≤ num / 2 ^ places) (high : num / 2 ^ places < 2 ^ 53) :
    IsNearest (num / 2 ^ 52) (placed places (roundHalfEven num (2 ^ places))) := by
  have cut := Nat.div_add_mod num (2 ^ places)
  have rest := Nat.mod_lt num (Nat.two_pow_pos places)
  have rounded := roundHalfEven_cases num (2 ^ places)
  generalize roundHalfEven num (2 ^ places) = m at *
  generalize num / 2 ^ places = q at *
  generalize num % 2 ^ places = r at *
  -- What is rounded lies between the numbers of `q` and `q + 1`, which are neighbours.
  have below := value_placed short high.le low
  have above := value_placed (m := q + 1) short high (Nat.le_succ_of_le low)
  rw [Nat.cast_succ, add_one_mul] at above
  have next : (placed places (q + 1)).rank = (placed places q).rank + 1 := by
    rw [rank_placed (m := q + 1) short high, rank_placed short high.le, ← Nat.add_assoc,
      Int.natCast_succ]
  have whole : (num : ℚ) = q * 2 ^ places + r := by
    rw [mul_comm (q : ℚ)]
    exact_mod_cast cut.symm
  have positive : (0 : ℚ) ≤ r := Nat.cast_nonneg r
  have less : (r : ℚ) ≤ 2 ^ places := by exact_mod_cast rest.le
  have tie (middle : 2 * (num / 2 ^ 52 : ℚ) =
      (placed places q).value + (placed places (q + 1)).value) : 2 * r = 2 ^ places := by
    have : (2 * r : ℚ) = 2 ^ places := by
      rw [below, above] at middle
      linarith
    exact_mod_cast this
  rcases rounded with ⟨rfl, half, even⟩ | ⟨rfl, half, even⟩
  · have half : (2 * r : ℚ) ≤ 2 ^ places := by exact_mod_cast half
    refine isNearest_lower (isFinite_placed short high.le) next ?_ ?_ fun middle =>
      (significand_placed short high.le).trans (even (tie middle))
    · rw [below]
      linarith
    · rw [below, above]
      linarith
  · have half : (2 ^ places : ℚ) ≤ 2 * r := by exact_mod_cast half
    refine isNearest_upper (isFinite_placed short high) next ?_ ?_ fun middle =>
      (significand_placed short high).trans (even (tie middle))
    · rw [above]
      linarith
    · rw [below, above]
      linarith

/-! ## Whole numbers -/

/-- A quotient with a power of two taken out of it. -/
def scaled (num den : Nat) (e : Int) : Nat × Nat :=
  if 0 ≤ e then (num, den * 2 ^ e.toNat) else (num * 2 ^ (-e).toNat, den)

/-- The pattern of a quotient, if the significand of one place more has more than 53 bits and the
exponent is not below the least one. -/
theorem ofFraction_eq (negative : Bool) {num den : Nat} {e : Int} (hnum : num ≠ 0) (hden : den ≠ 0)
    (he : (Nat.log2 num : Int) - Nat.log2 den - 53 = e - 1)
    (long : 2 ^ 53 ≤ (scaled num den (e - 1)).1 / (scaled num den (e - 1)).2) (least : -1074 ≤ e) :
    ofFraction negative num den =
      ofParts negative (min
        ((e + 1074).toNat * 2 ^ 52 + roundHalfEven (scaled num den e).1 (scaled num den e).2)
        infinityMagnitude) := by
  rw [ofFraction, if_neg (not_or.mpr ⟨hnum, hden⟩), he]
  simp only [Nat.pow_eq, ← scaled.eq_1]
  rw [decide_eq_false (Nat.not_lt.mpr long), if_neg Bool.false_ne_true, sub_add_cancel,
    max_eq_left least]

theorem ofFraction_true (num den : Nat) :
    ofFraction true num den = (ofFraction false num den).neg := by
  have opposite {p : Nat} (h : p ≤ infinityMagnitude) : ofParts true p = (ofParts false p).neg := by
    rw [infinityMagnitude] at h
    rw [neg, negative_ofParts (by omega), magnitude_ofParts (by omega), Bool.not_false]
  rw [ofFraction, ofFraction]
  split
  · exact opposite (Nat.zero_le _)
  · exact opposite (min_le_right _ _)

/-- A power of two taken out of a whole number leaves a quotient by a power of two. -/
theorem scaled_whole (n : Nat) {places digits : Nat} {e : Int} (he : e = places - digits) :
    ∃ k > 0, n * 2 ^ digits = k * (scaled n 1 e).1 ∧ 2 ^ places = k * (scaled n 1 e).2 := by
  by_cases up : 0 ≤ e
  · refine ⟨2 ^ digits, Nat.two_pow_pos _, ?_, ?_⟩
    · rw [scaled, if_pos up, Nat.mul_comm]
    · rw [scaled, if_pos up, Nat.one_mul, ← Nat.pow_add]
      congr 1
      omega
  · refine ⟨2 ^ places, Nat.two_pow_pos _, ?_, ?_⟩
    · rw [scaled, if_neg up, Nat.mul_left_comm, ← Nat.pow_add]
      congr 2
      omega
    · rw [scaled, if_neg up, Nat.mul_one]

section Whole

variable {n : Nat} (pos : 0 < n)
include pos

/-- The quotient that is rounded has 53 bits. -/
theorem quotient_bounds :
    2 ^ 52 ≤ n * 2 ^ 52 / 2 ^ Nat.log2 n ∧ n * 2 ^ 52 / 2 ^ Nat.log2 n < 2 ^ 53 := by
  have low : 2 ^ Nat.log2 n ≤ n := Nat.log2_self_le pos.ne'
  have high : n < 2 ^ (Nat.log2 n + 1) := Nat.lt_log2_self
  constructor
  · rw [Nat.le_div_iff_mul_le (Nat.two_pow_pos _), Nat.mul_comm]
    exact Nat.mul_le_mul_right _ low
  · rw [Nat.div_lt_iff_lt_mul (Nat.two_pow_pos _)]
    rw [pow_succ] at high
    omega

variable (bound : n < 2 ^ 64)
include bound

theorem ofFraction_whole :
    ofFraction false n 1 = placed (Nat.log2 n) (roundHalfEven (n * 2 ^ 52) (2 ^ Nat.log2 n)) := by
  have short : Nat.log2 n < 64 := (Nat.log2_lt pos.ne').mpr bound
  have one : Nat.log2 1 = 0 := by decide
  have longer : (Nat.log2 n : Int) - 52 - 1 = (Nat.log2 n : Int) - (53 : Nat) := by omega
  have fitting : (Nat.log2 n : Int) - 52 = (Nat.log2 n : Int) - (52 : Nat) := rfl
  obtain ⟨k, kpos, num, den⟩ := scaled_whole n longer
  obtain ⟨k', kpos', num', den'⟩ := scaled_whole n fitting
  have long : 2 ^ 53 ≤ n * 2 ^ 53 / 2 ^ Nat.log2 n := by
    rw [Nat.le_div_iff_mul_le (Nat.two_pow_pos _), Nat.mul_comm]
    exact Nat.mul_le_mul_right _ (Nat.log2_self_le pos.ne')
  rw [num, den, Nat.mul_div_mul_left _ _ kpos] at long
  have rounded : roundHalfEven (n * 2 ^ 52) (2 ^ Nat.log2 n) ≤ 2 ^ 53 := by
    rcases roundHalfEven_cases (n * 2 ^ 52) (2 ^ Nat.log2 n) with ⟨eq, _⟩ | ⟨eq, _⟩
    · exact eq ▸ (quotient_bounds pos).2.le
    · exact eq ▸ (quotient_bounds pos).2
  rw [ofFraction_eq false pos.ne' one_ne_zero (by omega) long (by omega),
    ← roundHalfEven_mul _ _ kpos', ← num', ← den',
    show ((Nat.log2 n : Int) - 52 + 1074).toNat = Nat.log2 n + 1022 by omega, min_eq_left, placed]
  rw [infinityMagnitude]
  omega

theorem isNearest_ofFraction : IsNearest n (ofFraction false n 1) := by
  obtain ⟨low, high⟩ := quotient_bounds pos
  have nearest := isNearest_placed ((Nat.log2_lt pos.ne').mpr bound) low high
  rw [Nat.cast_mul, Nat.cast_pow, Nat.cast_ofNat, mul_div_cancel_right₀ _ (by positivity)]
    at nearest
  rw [ofFraction_whole pos bound]
  exact nearest

/-- A whole number whose quotient has no remainder is the value of a finite number. -/
theorem exists_value_eq (divides : 2 ^ Nat.log2 n ∣ n * 2 ^ 52) :
    ∃ x : Binary64, x.isFinite ∧ x.value = n := by
  have short : Nat.log2 n < 64 := (Nat.log2_lt pos.ne').mpr bound
  obtain ⟨low, high⟩ := quotient_bounds pos
  obtain ⟨q, hq⟩ := divides
  rw [hq, Nat.mul_div_cancel_left _ (Nat.two_pow_pos _)] at low high
  refine ⟨placed (Nat.log2 n) q, isFinite_placed short high.le, ?_⟩
  rw [value_placed short high.le low, div_eq_iff (by positivity), mul_comm]
  exact_mod_cast hq.symm

end Whole

theorem cast_of_pos {i : Int} (above : 0 < i) : (i : ℚ) = i.natAbs := by
  rw [Nat.cast_natAbs, abs_of_pos above]

theorem cast_of_neg {i : Int} (below : i < 0) : (i : ℚ) = -(i.natAbs : ℚ) := by
  rw [Nat.cast_natAbs, abs_of_neg below, Int.cast_neg, neg_neg]

theorem value_ofInt_zero : (ofInt 0).value = (0 : Int) := by
  rw [value_eq_units, show (ofInt 0).units = 0 by decide, Int.cast_zero, zero_mul]

/-- Rounding a whole number of 64 bits gives a number nearest to it. -/
theorem isNearest_ofInt {i : Int} (bound : i.natAbs < 2 ^ 64) : IsNearest i (ofInt i) := by
  rcases lt_trichotomy i 0 with below | rfl | above
  · rw [ofInt, decide_eq_true below, ofFraction_true, cast_of_neg below]
    exact (isNearest_ofFraction (Int.natAbs_pos.mpr below.ne) bound).neg
  · exact value_ofInt_zero ▸ isNearest_self (by decide)
  · rw [ofInt, decide_eq_false (not_lt.mpr above.le), cast_of_pos above]
    exact isNearest_ofFraction (Int.natAbs_pos.mpr above.ne') bound

theorem dvd_of_exact {m k : Nat} (short : m ≤ 2 ^ 53) (pos : 0 < m * 2 ^ k) :
    2 ^ Nat.log2 (m * 2 ^ k) ∣ m * 2 ^ k * 2 ^ 52 := by
  have low : 2 ^ Nat.log2 (m * 2 ^ k) ≤ m * 2 ^ k := Nat.log2_self_le pos.ne'
  have high : m * 2 ^ k ≤ 2 ^ (53 + k) := by
    rw [Nat.pow_add]
    exact Nat.mul_le_mul_right _ short
  have places : Nat.log2 (m * 2 ^ k) ≤ 53 + k :=
    (Nat.pow_le_pow_iff_right (by decide)).mp (low.trans high)
  rcases Nat.lt_or_eq_of_le places with lt | eq
  · rw [Nat.mul_assoc, ← Nat.pow_add]
    exact (Nat.pow_dvd_pow 2 (by omega)).mul_left m
  · -- Then it is that power of two itself.
    rw [← eq] at high
    exact ⟨2 ^ 52, congrArg (· * 2 ^ 52) (Nat.le_antisymm high low)⟩

/-- A whole number of at most 53 bits, with zeros behind them, is rounded to itself. -/
theorem value_ofInt {m : Int} {k : Nat} (short : m.natAbs ≤ 2 ^ 53)
    (bound : (m * 2 ^ k).natAbs < 2 ^ 64) : (ofInt (m * 2 ^ k)).value = (m * 2 ^ k : Int) := by
  have absolute : (m * 2 ^ k).natAbs = m.natAbs * 2 ^ k := by
    rw [Int.natAbs_mul, Int.natAbs_pow]
    rfl
  generalize m * 2 ^ k = i at *
  -- It is enough that some number has this value, since that is nearest to it.
  suffices same : ∃ x : Binary64, x.isFinite ∧ x.value = i by
    obtain ⟨x, finite, value⟩ := same
    exact value ▸ (isNearest_ofInt bound).value_eq (value ▸ isNearest_self finite)
  rcases eq_or_ne i 0 with rfl | nonzero
  · exact ⟨ofInt 0, by decide, value_ofInt_zero⟩
  have pos : 0 < i.natAbs := Int.natAbs_pos.mpr nonzero
  obtain ⟨x, finite, value⟩ := exists_value_eq pos bound
    (absolute ▸ dvd_of_exact short (absolute ▸ pos))
  rcases lt_or_gt_of_ne nonzero with below | above
  · refine ⟨x.neg, (isFinite_neg x).trans finite, ?_⟩
    rw [value_neg, value, cast_of_neg below]
  · exact ⟨x, finite, value.trans (cast_of_pos above).symm⟩

end MetricPath.Binary64
