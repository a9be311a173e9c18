import MetricPath.Proofs.Rounding
import MetricPath.Template.Eval

/-!
# Equality of numbers in templates

Templates compare numbers by the fractions nearest to them.  So two numbers are equal exactly if one
fraction is nearest to both (`compare_numbers_iff`).  A number is always equal to itself, also as a
whole number to a fraction.  And different numbers are told apart if each is a fraction, as whole
numbers of at most 53 bits are; two longer ones may be nearest to the same fraction.
-/

namespace MetricPath

namespace Number

/-- The number that is denoted. -/
def value : Number → ℚ
  | .int i => i
  | .float x => x.value

/-- The numbers of data: whole ones of 64 bits, with or without a sign, and finite fractions. -/
def IsJson : Number → Prop
  | .int i => -2 ^ 63 ≤ i ∧ i < 2 ^ 64
  | .float x => x.isFinite

instance : DecidablePred IsJson
  | .int i => inferInstanceAs (Decidable (-2 ^ 63 ≤ i ∧ i < 2 ^ 64))
  | .float x => inferInstanceAs (Decidable (x.isFinite = true))

/-- Every fraction, and the whole numbers of at most 53 bits with zeros behind them. -/
def IsExact : Number → Prop
  | .int i => ∃ (m : Int) (k : Nat), m.natAbs ≤ 2 ^ 53 ∧ i = m * 2 ^ k
  | .float _ => True

theorem isNearest_toFloat {a : Number} (h : a.IsJson) : Binary64.IsNearest a.value a.toFloat := by
  cases a with
  | int i => exact Binary64.isNearest_ofInt (by have := h.1; have := h.2; omega)
  | float x => exact Binary64.isNearest_self h

theorem value_toFloat {a : Number} (h : a.IsJson) (exact : a.IsExact) :
    a.toFloat.value = a.value := by
  cases a with
  | int i =>
    obtain ⟨m, k, short, rfl⟩ := exact
    exact Binary64.value_ofInt short (by have := h.1; have := h.2; omega)
  | float x => rfl

end Number

namespace Template

open Number

theorem run_eq (a b : Datum) (c : PatternCache) :
    (call .eq [a, b]).run.run c = (.ok (boolDatum (equal a b)), c) := by
  rw [← Bool.or_false (equal a b)]
  rfl

theorem run_ne (a b : Datum) (c : PatternCache) :
    (call .ne [a, b]).run.run c = (.ok (boolDatum !equal a b), c) := rfl

/-- **Numbers are compared by their nearest fractions.**  Of two numbers `eq` says whether they have
a nearest fraction in common, and `ne` says the opposite.  So a number is always equal to itself,
whichever form it has, and different numbers are told apart if both are exact. -/
theorem compare_numbers_iff (a b : Number) (ha : a.IsJson) (hb : b.IsJson) (c : PatternCache) :
    ∃ same : Bool,
      (call .eq [some (.number a), some (.number b)]).run.run c = (.ok (boolDatum same), c) ∧
      (call .ne [some (.number a), some (.number b)]).run.run c = (.ok (boolDatum !same), c) ∧
      (same ↔ ∃ x, Binary64.IsNearest a.value x ∧ Binary64.IsNearest b.value x) ∧
      (a.value = b.value → same) ∧
      (a.IsExact → b.IsExact → same → a.value = b.value) := by
  have nearestA := isNearest_toFloat ha
  have nearestB := isNearest_toFloat hb
  have values := Binary64.numEq_iff nearestA.finite nearestB.finite
  refine ⟨a.toFloat.numEq b.toFloat, run_eq .., run_ne .., ?_, ?_, ?_⟩
  · rw [values]
    constructor
    · intro same
      exact ⟨a.toFloat, nearestA, nearestB.congr same.symm⟩
    · rintro ⟨x, nearA, nearB⟩
      exact (nearestA.value_eq nearA).trans (nearB.value_eq nearestB)
  · intro same
    rw [values]
    exact nearestA.value_eq (same ▸ nearestB)
  · intro exactA exactB same
    rw [← value_toFloat ha exactA, ← value_toFloat hb exactB, ← values]
    exact same

/-- The whole number one and the fraction one are the same number, and exact in both forms. -/
theorem compare_numbers_iff_one :
    let a := int 1
    let b := float ⟨0x3FF0000000000000⟩
    (a.IsJson ∧ b.IsJson) ∧ (a.IsExact ∧ b.IsExact) ∧ a.value = b.value ∧
      (call .eq [some (.number a), some (.number b)]).run.run PatternCache.empty =
        (.ok (boolDatum true), PatternCache.empty) ∧
      (call .ne [some (.number a), some (.number b)]).run.run PatternCache.empty =
        (.ok (boolDatum false), PatternCache.empty) := by
  intro a b
  have jsonA : a.IsJson := by decide
  have jsonB : b.IsJson := by decide
  have exactA : a.IsExact := ⟨1, 0, by decide, rfl⟩
  have value : a.value = b.value := (value_toFloat jsonA exactA).symm
  obtain ⟨same, eq, ne, -, itself, -⟩ := compare_numbers_iff a b jsonA jsonB PatternCache.empty
  rw [itself value] at eq ne
  exact ⟨⟨jsonA, jsonB⟩, ⟨exactA, trivial⟩, value, eq, ne⟩

/-- Two neighbouring whole numbers of 54 bits count as equal.  In lists they do not. -/
theorem compare_numbers_neighbours :
    let a := int 9007199254740992
    let b := int 9007199254740993
    (a.IsJson ∧ b.IsJson) ∧ a.value ≠ b.value ∧
      (call .eq [some (.number a), some (.number b)]).run.run PatternCache.empty =
        (.ok (boolDatum true), PatternCache.empty) ∧
      (call .ne [some (.number a), some (.number b)]).run.run PatternCache.empty =
        (.ok (boolDatum false), PatternCache.empty) ∧
      (call .eq [some (.list [.number a]), some (.list [.number b])]).run.run PatternCache.empty =
        (.ok (boolDatum false), PatternCache.empty) := by
  intro a b
  have alike : equal (some (.number a)) (some (.number b)) = true := by decide
  have apart : equal (some (.list [.number a])) (some (.list [.number b])) = false := by decide
  refine ⟨⟨by decide, by decide⟩, ?_, ?_, ?_, ?_⟩
  · rw [Number.value, Number.value, Ne, Int.cast_inj]
    decide
  · rw [run_eq, alike]
  · rw [run_ne, alike, Bool.not_true]
  · rw [run_eq, apart]

end Template

end MetricPath
