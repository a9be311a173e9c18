import Mathlib.Data.Int.Basic
import Mathlib.Data.List.Range
import Mathlib.Data.List.Sort
import MetricPath.Datapoint
import MetricPath.Duration

/-!
# Samples between stored points

Between two neighbours that both have a value a sample stands after each whole number of intervals
that leaves at least one more interval before the second (`mem_times_interpolate`).  So nothing is
left out if the distance of the two is a multiple of the interval, or shorter than it; otherwise the
last sample is missing, and the gap before the second point is longer than the interval, though
shorter than two (`samplesOfPoints_between`).

Samples keep the points (`samplesOfPoints_keeps_points`).  Every sample is a stored one or lies
strictly between two neighbours (`mem_samplesFrom`).  This orders the samples, and two ascending
lists with the same members are equal.

`samplesOfPointsChecked?` is the same computation in numbers of 64 bits: it fails where an operation
leaves them or divides by zero.
-/

namespace MetricPath

/-! ## Numbers of 64 bits -/

/-- Whether a number has 64 bits, one of them for the sign. -/
def IsWord (n : Int) : Prop := -9223372036854775808 ≤ n ∧ n ≤ 9223372036854775807

instance : DecidablePred IsWord := fun n => by unfold IsWord; infer_instance

/-- The result of an operation, if it has 64 bits. -/
def word? (n : Int) : Option Int := if IsWord n then some n else none

/-- A quotient, rounded towards zero; there is none by zero. -/
def quotient? (a b : Int) : Option Int := if b = 0 then none else word? (a.tdiv b)

/-- The sample after a number of steps from the point `p`. -/
def stepChecked? (interval : Int) (p : Int × Binary64) (slope : Binary64) (step : Nat) :
    Option (Int × Binary64) := do
  let elapsed ← word? (step * interval)
  let time ← word? (p.1 + elapsed)
  let passed ← word? (time - p.1)
  let stamp ← word? (time * 1000)
  return (stamp, p.2 + Binary64.ofInt passed * slope)

/-- The points between two neighbours, where every operation is checked. -/
def interpolateChecked? (interval : Int) (p q : Int × Binary64) :
    Option (List (Int × Binary64)) := do
  if interval = 0 then return []
  let delta ← word? (q.1 - p.1)
  if delta ≤ 0 then return []
  let slope := (q.2 - p.2) / Binary64.ofInt delta
  let steps ← quotient? delta interval
  (List.range' 1 (steps.toNat - 1)).mapM (stepChecked? interval p slope)

/-- What a computation makes of the first point of a list and the point `p` before it, if the first
one has a value; otherwise there is nothing between them. -/
def withNext {α : Type} (nothing : α) (between : Int × Binary64 → α) (points : List Point) : α :=
  match points.head? with
  | some ⟨t, some v⟩ => between (t, v)
  | _ => nothing

/-- The samples of stored points, where every operation is checked. -/
def samplesChecked? (interval : Int) : List Point → Option (List (Int × Binary64))
  | [] => some []
  | p :: ps =>
    match p.value with
    | none => samplesChecked? interval ps
    | some v => do
      let stamp ← word? (p.timestamp * 1000)
      let between ← withNext (some []) (interpolateChecked? interval (p.timestamp, v)) ps
      let samples ← samplesChecked? interval ps
      return (stamp, v) :: (between ++ samples)

/-- The samples of stored points about `delta` seconds apart, where every operation is checked.  A
number of seconds with more than 64 bits counts as the greatest one. -/
def samplesOfPointsChecked? (points : List Point) (delta : Nat) : Option (List (Int × Binary64)) :=
  samplesChecked? ((word? delta).getD greatestInterval) points

/-! ## Steps between neighbours -/

section Between

variable {interval : Int} {p q : Int × Binary64}

/-- Nothing is sampled without an interval. -/
theorem interpolate_zero (p q : Int × Binary64) : interpolate 0 p q = [] := by
  rw [interpolate, if_pos (.inl rfl)]

/-- The times of the samples between two points, step by step. -/
theorem times_interpolate (pos : 0 ≤ interval) (p q : Int × Binary64) :
    (interpolate interval p q).map Prod.fst =
      (List.range (((q.1 - p.1) / interval).toNat - 1)).map fun k =>
        (p.1 + (k + 1 : Nat) * interval) * 1000 := by
  rcases Int.le_iff_eq_or_lt.mp pos with rfl | pos
  · rw [interpolate_zero, Int.ediv_zero]
    rfl
  by_cases backward : q.1 - p.1 ≤ 0
  · have steps := Int.ediv_nonpos_of_nonpos_of_neg backward pos
    rw [interpolate, if_pos (.inr backward), Int.toNat_eq_zero.mpr steps]
    rfl
  · rw [interpolate, if_neg (by omega), List.map_map]
    rfl

/-- A step is sampled if one more would not go beyond the second point. -/
theorem mem_times_interpolate (pos : 0 ≤ interval) {time : Int} :
    time ∈ (interpolate interval p q).map Prod.fst ↔
      ∃ k : Nat, 1 ≤ k ∧ 0 < interval ∧ p.1 + (k + 1) * interval ≤ q.1 ∧
        time = (p.1 + k * interval) * 1000 := by
  rw [times_interpolate pos, List.mem_map]
  constructor
  · rintro ⟨k, below, rfl⟩
    have below := List.mem_range.mp below
    have ne : interval ≠ 0 := by
      rintro rfl
      rw [Int.ediv_zero] at below
      exact absurd below (Nat.not_lt_zero k)
    have steps : ((k + 2 : Nat) : Int) ≤ (q.1 - p.1) / interval := by omega
    have within := (Int.le_ediv_iff_mul_le (by omega)).mp steps
    refine ⟨k + 1, Nat.succ_pos k, by omega, ?_, rfl⟩
    rw [show ((k + 1 : Nat) : Int) + 1 = (k + 2 : Nat) by omega]
    omega
  · rintro ⟨k, one, pos, within, rfl⟩
    have steps : ((k + 1 : Nat) : Int) ≤ (q.1 - p.1) / interval := by
      refine (Int.le_ediv_iff_mul_le pos).mpr ?_
      push_cast
      omega
    refine ⟨k - 1, List.mem_range.mpr (by omega), ?_⟩
    rw [Nat.sub_add_cancel one]

/-- A sample between two points lies strictly between them, at a step. -/
theorem mem_interpolate (pos : 0 ≤ interval) {s : Int × Binary64}
    (h : s ∈ interpolate interval p q) :
    p.1 * 1000 < s.1 ∧ s.1 < q.1 * 1000 ∧ ∃ k : Nat, s.1 = (p.1 + k * interval) * 1000 := by
  obtain ⟨k, one, pos, within, eq⟩ :=
    (mem_times_interpolate pos).mp (List.mem_map_of_mem (f := Prod.fst) h)
  have forward : 0 < (k : Int) * interval := Int.mul_pos (by omega) pos
  rw [Int.add_mul, Int.one_mul] at within
  refine ⟨?_, ?_, k, eq⟩
  · rw [eq]
    omega
  · rw [eq]
    omega

/-- Nothing is sampled between points that are less than two intervals apart. -/
theorem interpolate_eq_nil (near : q.1 - p.1 < 2 * interval) : interpolate interval p q = [] := by
  by_cases backward : q.1 - p.1 ≤ 0
  · rw [interpolate, if_pos (.inr backward)]
  refine List.eq_nil_iff_forall_not_mem.mpr fun s mem => ?_
  obtain ⟨k, one, pos, within, -⟩ :=
    (mem_times_interpolate (by omega)).mp (List.mem_map_of_mem (f := Prod.fst) mem)
  have two := Int.mul_le_mul_of_nonneg_right (a := 2) (b := k + 1) (by omega) (Int.le_of_lt pos)
  omega

/-- A greatest interval that is longer than the distance of the points is no restriction. -/
theorem interpolate_min (delta : Nat) (near : q.1 - p.1 ≤ greatestInterval) :
    interpolate (min delta greatestInterval : Nat) p q = interpolate delta p q := by
  rcases Nat.le_total delta greatestInterval with le | ge
  · rw [Nat.min_eq_left le]
  · have pos : 0 < greatestInterval := by decide
    rw [Nat.min_eq_right ge, interpolate_eq_nil (by omega), interpolate_eq_nil (by omega)]

/-- The samples between two points ascend. -/
theorem pairwise_interpolate (pos : 0 ≤ interval) (p q : Int × Binary64) :
    (interpolate interval p q).Pairwise (·.1 < ·.1) := by
  rcases Int.le_iff_eq_or_lt.mp pos with rfl | pos
  · rw [interpolate_zero]
    exact .nil
  rw [← List.pairwise_map (f := Prod.fst) (R := (· < ·)), times_interpolate (by omega),
    List.pairwise_map]
  refine List.pairwise_lt_range.imp fun {a b} lt => ?_
  have further := Int.mul_lt_mul_of_pos_right (a := (a + 1 : Nat)) (b := (b + 1 : Nat)) (by omega)
    pos
  omega

/-! ## Samples of points -/

/-- The points that have a value, as samples. -/
def storedSamples (points : List Point) : List (Int × Binary64) :=
  points.filterMap fun p => p.value.map fun v => (p.timestamp * 1000, v)

theorem samplesFrom_cons_none {p : Point} (h : p.value = none) (ps : List Point) :
    samplesFrom interval (p :: ps) = samplesFrom interval ps := by
  rw [samplesFrom, h]

theorem samplesFrom_cons_some {p : Point} {v : Binary64} (h : p.value = some v)
    (ps : List Point) :
    samplesFrom interval (p :: ps) =
      (p.timestamp * 1000, v) ::
        (withNext [] (interpolate interval (p.timestamp, v)) ps ++ samplesFrom interval ps) := by
  rw [samplesFrom, h]
  rcases ps with _ | ⟨⟨t, _ | w⟩, ps⟩ <;> rfl

/-- A point that has a value is sampled, whatever stands before it; what is sampled up to it does
not depend on what comes after. -/
theorem samplesFrom_append (pre : List Point) (t : Int) (v : Binary64) (ps : List Point) :
    samplesFrom interval (pre ++ ⟨t, some v⟩ :: ps) =
      samplesFrom interval (pre ++ [⟨t, some v⟩]) ++
        (withNext [] (interpolate interval (t, v)) ps ++ samplesFrom interval ps) := by
  induction pre with
  | nil =>
    rw [List.nil_append, List.nil_append, samplesFrom_cons_some rfl, samplesFrom_cons_some rfl]
    rfl
  | cons p pre ih =>
    rw [List.cons_append, List.cons_append]
    cases value : p.value with
    | none => rw [samplesFrom_cons_none value, samplesFrom_cons_none value, ih]
    | some w =>
      have head : (pre ++ ⟨t, some v⟩ :: ps).head? = (pre ++ [(⟨t, some v⟩ : Point)]).head? := by
        cases pre <;> rfl
      rw [samplesFrom_cons_some value, samplesFrom_cons_some value, ih, withNext, head, ← withNext,
        List.cons_append, List.append_assoc]

/-- A sample is a stored one, or it lies between two neighbours that both have a value. -/
theorem mem_samplesFrom {points : List Point} {s : Int × Binary64}
    (h : s ∈ samplesFrom interval points) :
    s ∈ storedSamples points ∨ ∃ t v t' w, [⟨t, some v⟩, ⟨t', some w⟩] <:+: points ∧
      s ∈ interpolate interval (t, v) (t', w) := by
  induction points with
  | nil => cases h
  | cons p ps ih =>
    have later (h : s ∈ samplesFrom interval ps) :
        s ∈ storedSamples (p :: ps) ∨ ∃ t v t' w, [⟨t, some v⟩, ⟨t', some w⟩] <:+: p :: ps ∧
          s ∈ interpolate interval (t, v) (t', w) := by
      refine (ih h).imp (fun stored => ?_) fun ⟨t, v, t', w, neighbours, between⟩ =>
        ⟨t, v, t', w, neighbours.trans (List.suffix_cons p ps).isInfix, between⟩
      exact ((List.sublist_cons_self p ps).filterMap _).subset stored
    cases value : p.value with
    | none => exact later (by rwa [samplesFrom_cons_none value] at h)
    | some v =>
      rw [samplesFrom_cons_some value, List.mem_cons, List.mem_append] at h
      rcases h with rfl | between | h
      · exact .inl (by simp [storedSamples, value])
      · rcases ps with _ | ⟨⟨t', _ | w⟩, ps⟩
        · cases between
        · cases between
        · refine .inr ⟨p.timestamp, v, t', w, ?_, between⟩
          rw [← value]
          exact (List.prefix_append [p, ⟨t', some w⟩] ps).isInfix
      · exact later h

/-- The points that have a value are among the samples, in their order. -/
theorem storedSamples_sublist (interval : Int) (points : List Point) :
    (storedSamples points).Sublist (samplesFrom interval points) := by
  induction points with
  | nil => exact List.nil_sublist _
  | cons p ps ih =>
    cases value : p.value with
    | none =>
      rw [samplesFrom_cons_none value, storedSamples, List.filterMap_cons_none (by rw [value]; rfl)]
      exact ih
    | some v =>
      rw [samplesFrom_cons_some value, storedSamples,
        List.filterMap_cons_some (by rw [value]; rfl)]
      exact (ih.trans (List.sublist_append_right _ _)).cons_cons _

/-- No sample comes before all points. -/
theorem exists_le_of_mem_samplesFrom (pos : 0 ≤ interval) {points : List Point}
    {s : Int × Binary64} (h : s ∈ samplesFrom interval points) :
    ∃ p ∈ points, p.timestamp * 1000 ≤ s.1 := by
  rcases mem_samplesFrom h with stored | ⟨t, v, t', w, neighbours, between⟩
  · obtain ⟨p, mem, sample⟩ := List.mem_filterMap.mp stored
    obtain ⟨v, -, rfl⟩ := Option.map_eq_some_iff.mp sample
    exact ⟨p, mem, Int.le_refl _⟩
  · exact ⟨⟨t, some v⟩, neighbours.subset List.mem_cons_self,
      Int.le_of_lt (mem_interpolate pos between).1⟩

/-- The samples of ascending points ascend. -/
theorem pairwise_samplesFrom (pos : 0 ≤ interval) {points : List Point}
    (ascending : points.Pairwise (·.timestamp < ·.timestamp)) :
    (samplesFrom interval points).Pairwise (·.1 < ·.1) := by
  induction points with
  | nil => exact .nil
  | cons p ps ih =>
    obtain ⟨first, ascending⟩ := List.pairwise_cons.mp ascending
    cases value : p.value with
    | none =>
      rw [samplesFrom_cons_none value]
      exact ih ascending
    | some v =>
      rw [samplesFrom_cons_some value, List.pairwise_cons, List.pairwise_append]
      have later {s : Int × Binary64} (h : s ∈ samplesFrom interval ps) :
          p.timestamp * 1000 < s.1 := by
        obtain ⟨q, mem, le⟩ := exists_le_of_mem_samplesFrom pos h
        have lt := first q mem
        omega
      rcases ps with _ | ⟨⟨t', _ | w⟩, ps⟩
      · exact ⟨fun _ h => absurd h List.not_mem_nil, .nil, .nil,
          fun _ h => absurd h List.not_mem_nil⟩
      · exact ⟨fun s h => later h, .nil, ih ascending, fun _ h => absurd h List.not_mem_nil⟩
      · refine ⟨fun s h => ?_, pairwise_interpolate pos _ _, ih ascending, fun s between r h => ?_⟩
        · exact (List.mem_append.mp h).elim (fun between => (mem_interpolate pos between).1) later
        · -- the sample is before the second point, which is the first one of the others
          have before := (mem_interpolate pos between).2.1
          obtain ⟨q, mem, le⟩ := exists_le_of_mem_samplesFrom pos h
          rcases List.mem_cons.mp mem with rfl | mem
          · exact Int.lt_of_lt_of_le before le
          · have lt := (List.pairwise_cons.mp ascending).1 q mem
            dsimp only at before lt
            omega

/-- A sample between two neighbours is not at the time of any point. -/
theorem ne_time_of_mem_interpolate (pos : 0 ≤ interval) {points : List Point}
    (ascending : points.Pairwise (·.timestamp < ·.timestamp)) {t t' : Int} {v w : Binary64}
    (neighbours : [⟨t, some v⟩, ⟨t', some w⟩] <:+: points) {s : Int × Binary64}
    (between : s ∈ interpolate interval (t, v) (t', w)) {p : Point} (mem : p ∈ points) :
    s.1 ≠ p.timestamp * 1000 := by
  obtain ⟨after, before, -⟩ := mem_interpolate pos between
  obtain ⟨pre, post, rfl⟩ := neighbours
  simp only [List.append_assoc, List.cons_append, List.nil_append, List.pairwise_append,
    List.pairwise_cons, List.mem_cons, List.mem_append] at ascending mem
  obtain ⟨-, ⟨-, late, -⟩, early⟩ := ascending
  dsimp only at after before late early
  rcases mem with mem | rfl | rfl | mem
  · have lt := early p mem _ (.inl rfl)
    dsimp only at lt
    omega
  · dsimp only
    omega
  · dsimp only
    omega
  · have lt := late p mem
    omega

end Between

/-! ## Nothing overflows -/

theorem word?_eq_some {n : Int} (h : IsWord n) : word? n = some n := if_pos h

/-- A computation on the members of a list succeeds if it does on each. -/
theorem mapM_eq_some {α β : Type} {f : α → Option β} {g : α → β} (xs : List α)
    (h : ∀ x ∈ xs, f x = some (g x)) : xs.mapM f = some (xs.map g) := by
  induction xs with
  | nil => rfl
  | cons x xs ih =>
    rw [List.mapM_cons, h x List.mem_cons_self, ih fun y hy => h y (List.mem_cons_of_mem x hy)]
    rfl

/-- A step before the second point stays within the numbers of 64 bits. -/
theorem stepChecked?_eq {interval : Int} {p q : Int × Binary64} (pos : 0 < interval)
    (first : IsWord (p.1 * 1000)) (second : IsWord (q.1 * 1000)) (slope : Binary64) {step : Nat}
    (within : p.1 + step * interval < q.1) :
    stepChecked? interval p slope step =
      some ((p.1 + step * interval) * 1000,
        p.2 + Binary64.ofInt (step * interval) * slope) := by
  unfold IsWord at first second
  have forward : 0 ≤ (step : Int) * interval := Int.mul_nonneg (by omega) (by omega)
  have elapsed : word? (step * interval) = some (step * interval) :=
    word?_eq_some (by unfold IsWord; omega)
  have time : word? (p.1 + step * interval) = some (p.1 + step * interval) :=
    word?_eq_some (by unfold IsWord; omega)
  have passed : word? (p.1 + step * interval - p.1) = some (step * interval) := by
    rw [show p.1 + step * interval - p.1 = step * interval by omega, elapsed]
  have stamp : word? ((p.1 + step * interval) * 1000) = some ((p.1 + step * interval) * 1000) :=
    word?_eq_some (by unfold IsWord; omega)
  simp only [stepChecked?, elapsed, time, passed, stamp, Option.bind_eq_bind, Option.bind_some,
    Option.pure_def]

/-- The interpolated points are what the checked computation gives. -/
theorem interpolateChecked?_eq {interval : Int} {p q : Int × Binary64} (pos : 0 ≤ interval)
    (first : IsWord (p.1 * 1000)) (second : IsWord (q.1 * 1000)) :
    interpolateChecked? interval p q = some (interpolate interval p q) := by
  rcases Int.le_iff_eq_or_lt.mp pos with rfl | pos
  · rw [interpolate_zero]
    rfl
  have distance : word? (q.1 - p.1) = some (q.1 - p.1) := by
    refine word?_eq_some ?_
    unfold IsWord at first second ⊢
    omega
  rw [interpolateChecked?, if_neg (by omega), distance]
  by_cases backward : q.1 - p.1 ≤ 0
  · rw [interpolate, if_pos (.inr backward)]
    exact if_pos backward
  -- from here on division rounds down, as it does towards zero
  have steps : quotient? (q.1 - p.1) interval = some ((q.1 - p.1) / interval) := by
    have nonneg := Int.ediv_nonneg (a := q.1 - p.1) (by omega) (Int.le_of_lt pos)
    have le := Int.ediv_le_self interval (a := q.1 - p.1) (by omega)
    rw [quotient?, if_neg (by omega), Int.tdiv_eq_ediv_of_nonneg (by omega)]
    refine word?_eq_some ?_
    unfold IsWord at first second ⊢
    omega
  have each := mapM_eq_some (f := stepChecked? interval p
      ((q.2 - p.2) / Binary64.ofInt (q.1 - p.1)))
    (g := fun step => ((p.1 + step * interval) * 1000, p.2 + Binary64.ofInt (step * interval) *
      ((q.2 - p.2) / Binary64.ofInt (q.1 - p.1))))
    (List.range' 1 (((q.1 - p.1) / interval).toNat - 1)) fun step mem => by
      refine stepChecked?_eq pos first second _ ?_
      obtain ⟨one, below⟩ := List.mem_range'_1.mp mem
      have within := (Int.le_ediv_iff_mul_le (a := ((step + 1 : Nat) : Int)) (b := q.1 - p.1)
        pos).mp (by omega)
      push_cast at within
      rw [Int.add_mul, Int.one_mul] at within
      omega
  rw [interpolate, if_neg (by omega)]
  simp only [Option.bind_eq_bind, Option.bind_some, if_neg backward, steps, each]
  rw [List.range'_eq_map_range, List.map_map]
  simp only [Function.comp_def, Nat.add_comm 1]

/-- Points whose times have 64 bits in milliseconds are not far apart. -/
theorem near_of_isWord {t t' : Int} (first : IsWord (t * 1000)) (second : IsWord (t' * 1000)) :
    t' - t ≤ greatestInterval := by
  unfold IsWord at first second
  unfold greatestInterval
  omega

/-- The samples are what the checked computation gives. -/
theorem samplesChecked?_eq {interval : Int} (pos : 0 ≤ interval) {points : List Point}
    (fits : ∀ p ∈ points, IsWord (p.timestamp * 1000)) :
    samplesChecked? interval points = some (samplesFrom interval points) := by
  induction points with
  | nil => rfl
  | cons p ps ih =>
    have ih := ih fun q mem => fits q (List.mem_cons_of_mem p mem)
    have first := fits p List.mem_cons_self
    cases value : p.value with
    | none =>
      rw [samplesChecked?, samplesFrom_cons_none value, value]
      exact ih
    | some v =>
      have between : withNext (some []) (interpolateChecked? interval (p.timestamp, v)) ps =
          some (withNext [] (interpolate interval (p.timestamp, v)) ps) := by
        rcases ps with _ | ⟨⟨t', _ | w⟩, ps⟩
        · rfl
        · rfl
        · have second := fits _ (List.mem_cons_of_mem p List.mem_cons_self)
          exact interpolateChecked?_eq pos first second
      rw [samplesChecked?, samplesFrom_cons_some value, value]
      simp only [word?_eq_some first, between, ih, Option.bind_eq_bind, Option.bind_some,
        Option.pure_def]

/-- A number of seconds counts as the greatest one if it has more than 64 bits. -/
theorem getD_word? (delta : Nat) :
    (word? delta).getD greatestInterval = (min delta greatestInterval : Nat) := by
  by_cases bound : IsWord delta
  · rw [word?_eq_some bound, Option.getD_some]
    unfold IsWord at bound
    unfold greatestInterval
    omega
  · rw [word?, if_neg bound, Option.getD_none]
    unfold IsWord at bound
    unfold greatestInterval
    omega

/-! ## Points and samples -/

/-- Samples keep the points.  Of points that ascend and whose times have 64 bits in milliseconds,
the samples are computed within these 64 bits and ascend; at the times of the points stand the
points that have a value, in their order; and every other sample lies strictly between two
neighbours that both have a value, a multiple of the whole seconds of `delta` after the first.  If
`delta` is shorter than a second, there is no other sample. -/
theorem samplesOfPoints_keeps_points {points : List Point} (delta : Duration)
    (ascending : points.Pairwise (·.timestamp < ·.timestamp))
    (fits : ∀ p ∈ points, IsWord (p.timestamp * 1000)) :
    let samples := samplesOfPoints points delta.seconds
    samplesOfPointsChecked? points delta.seconds = some samples ∧
      samples.Pairwise (·.1 < ·.1) ∧
      samples.filter (fun s => s.1 ∈ points.map fun p => p.timestamp * 1000) =
        storedSamples points ∧
      (∀ s ∈ samples, s ∉ storedSamples points →
        ∃ t v t' w, [⟨t, some v⟩, ⟨t', some w⟩] <:+: points ∧
          t * 1000 < s.1 ∧ s.1 < t' * 1000 ∧
          ∃ k : Nat, s.1 = (t + k * delta.seconds) * 1000) ∧
      (delta.seconds = 0 → samples = storedSamples points) := by
  intro samples
  have pos : (0 : Int) ≤ (min delta.seconds greatestInterval : Nat) := by omega
  have sorted := pairwise_samplesFrom pos ascending
  have stored := storedSamples_sublist (min delta.seconds greatestInterval : Nat) points
  have irrefl : Std.Irrefl fun a b : Int × Binary64 => a.1 < b.1 := ⟨fun a => Int.lt_irrefl a.1⟩
  refine ⟨?_, sorted, ?_, fun s mem other => ?_, fun none => ?_⟩
  · rw [samplesOfPointsChecked?, getD_word?]
    exact samplesChecked?_eq pos fits
  · refine (sorted.sublist List.filter_sublist).eq_of_mem_iff (sorted.sublist stored) fun s => ?_
    rw [List.mem_filter, decide_eq_true_eq, List.mem_map]
    constructor
    · rintro ⟨mem, p, point, time⟩
      refine (mem_samplesFrom mem).resolve_right fun ⟨t, v, t', w, neighbours, between⟩ => ?_
      exact ne_time_of_mem_interpolate pos ascending neighbours between point time.symm
    · intro mem
      refine ⟨stored.subset mem, ?_⟩
      obtain ⟨p, point, sample⟩ := List.mem_filterMap.mp mem
      obtain ⟨v, -, rfl⟩ := Option.map_eq_some_iff.mp sample
      exact ⟨p, point, rfl⟩
  · obtain ⟨t, v, t', w, neighbours, between⟩ := (mem_samplesFrom mem).resolve_left other
    have first := fits _ (neighbours.subset List.mem_cons_self)
    have second := fits _ (neighbours.subset (List.mem_cons_of_mem _ List.mem_cons_self))
    rw [interpolate_min delta.seconds (near_of_isWord first second)] at between
    obtain ⟨after, before, steps⟩ := mem_interpolate (Int.natCast_nonneg _) between
    exact ⟨t, v, t', w, neighbours, after, before, steps⟩
  · refine sorted.eq_of_mem_iff (sorted.sublist stored) fun s => ⟨fun mem => ?_, (stored.subset ·)⟩
    refine (mem_samplesFrom mem).resolve_right fun ⟨t, v, t', w, neighbours, between⟩ => ?_
    rw [none, Nat.zero_min, Int.natCast_zero, interpolate_zero] at between
    exact List.not_mem_nil between

/-- The hypotheses of `samplesOfPoints_keeps_points` hold of points of which one has no value and
two are four seconds apart; of a second and a half between samples the whole second counts. -/
theorem samplesOfPoints_keeps_points_fraction :
    let points : List Point := [⟨-2, some ⟨0⟩⟩, ⟨0, none⟩, ⟨1, some ⟨1⟩⟩, ⟨5, some ⟨2⟩⟩]
    let delta := Duration.ofMilliseconds 1500
    points.Pairwise (·.timestamp < ·.timestamp) ∧
      (∀ p ∈ points, IsWord (p.timestamp * 1000)) ∧
      (samplesOfPoints points delta.seconds).map Prod.fst =
        [-2000, 1000, 2000, 3000, 4000, 5000] ∧
      samplesOfPointsChecked? points delta.seconds = some (samplesOfPoints points delta.seconds) ∧
      (samplesOfPoints points delta.seconds).filter
          (fun s => s.1 ∈ points.map fun p => p.timestamp * 1000) =
        [(-2000, ⟨0⟩), (1000, ⟨1⟩), (5000, ⟨2⟩)] := by
  have ascending : [⟨-2, some ⟨0⟩⟩, ⟨0, none⟩, ⟨1, some ⟨1⟩⟩, ⟨5, some ⟨2⟩⟩].Pairwise
    fun p q : Point => p.timestamp < q.timestamp := by decide
  have fits : ∀ p ∈ [(⟨-2, some ⟨0⟩⟩ : Point), ⟨0, none⟩, ⟨1, some ⟨1⟩⟩, ⟨5, some ⟨2⟩⟩],
    IsWord (p.timestamp * 1000) := by decide
  obtain ⟨checked, -, stored, -⟩ :=
    samplesOfPoints_keeps_points (Duration.ofMilliseconds 1500) ascending fits
  exact ⟨ascending, fits, by decide, checked, stored⟩

/-- Of a second and a half between samples only the whole second counts: there is a sample that is
at neither point and no multiple of the second and a half after the first one. -/
theorem samplesOfPoints_off_delta :
    let points : List Point := [⟨0, some ⟨0⟩⟩, ⟨2, some ⟨0⟩⟩]
    ∃ s ∈ samplesOfPoints points (Duration.ofMilliseconds 1500).seconds,
      s ∉ storedSamples points ∧ ¬ ∃ k : Nat, s.1 = 0 + k * 1500 := by
  refine ⟨(1000, ⟨0⟩), by decide, by decide, fun ⟨k, eq⟩ => ?_⟩
  dsimp only at eq
  omega

/-! ## Gaps -/

section Gaps

variable {t t' : Int} {d : Nat}

/-- A distance is a multiple of the interval and the rest, which is shorter than the interval. -/
theorem exists_steps (lt : t < t') (one : 1 ≤ d) :
    ∃ (n : Nat) (rest : Int), t' - t = n * d + rest ∧ 0 ≤ rest ∧ rest < d ∧
      ((t' - t) / d).toNat = n := by
  have pos : (0 : Int) < d := by omega
  have whole : (0 : Int) ≤ (t' - t) / d := Int.ediv_nonneg (by omega) (Int.le_of_lt pos)
  refine ⟨((t' - t) / d).toNat, (t' - t) % d, ?_, Int.emod_nonneg _ (by omega),
    Int.emod_lt_of_pos _ pos, rfl⟩
  rw [Int.toNat_of_nonneg whole]
  have parts := Int.mul_ediv_add_emod (t' - t) d
  rw [Int.mul_comm] at parts
  exact parts.symm

/-- The distance is a multiple of the interval or shorter if there is no rest, or no step. -/
theorem fills_iff {n : Nat} {rest : Int} (distance : t' - t = n * d + rest) (nonneg : 0 ≤ rest)
    (shorter : rest < d) : (d : Int) ∣ t' - t ∨ t' - t < d ↔ rest = 0 ∨ n = 0 := by
  rw [distance, Int.dvd_add_right (Int.dvd_mul_left _ _)]
  constructor
  · rintro (divides | near)
    · exact .inl (Int.eq_zero_of_dvd_of_nonneg_of_lt nonneg shorter divides)
    · refine .inr (Nat.eq_zero_of_not_pos fun pos => ?_)
      have step := Int.mul_le_mul_of_nonneg_right (a := 1) (b := n) (c := d) (by omega) (by omega)
      omega
  · rintro (rfl | rfl)
    · exact .inl (Int.dvd_zero _)
    · right
      omega

/-- All whole steps before the second point are sampled if the last one meets it, or if there is
none. -/
theorem all_steps_iff (lt : t < t') (one : 1 ≤ d) :
    (∀ k : Nat, 1 ≤ k → t + k * d < t' → t + (k + 1) * d ≤ t') ↔
      (d : Int) ∣ t' - t ∨ t' - t < d := by
  obtain ⟨n, rest, distance, nonneg, shorter, -⟩ := exists_steps lt one
  rw [fills_iff distance nonneg shorter]
  constructor
  · intro all
    by_contra missing
    obtain ⟨some, steps⟩ := not_or.mp missing
    have next := all n (Nat.one_le_iff_ne_zero.mpr steps) (by omega)
    rw [Int.add_mul] at next
    omega
  · intro met k one before
    have fewer : (k : Int) * d < (n + 1) * d := by
      rw [Int.add_mul]
      omega
    have le : k ≤ n := by
      have lt := Int.lt_of_mul_lt_mul_right fewer (by omega)
      omega
    rcases met with rfl | rfl
    · -- the last step would be the second point itself
      have ne : k ≠ n := by
        rintro rfl
        omega
      have next := Int.mul_le_mul_of_nonneg_right (a := k + 1) (b := n) (c := d) (by omega)
        (by omega)
      omega
    · omega

/-- Neighbours in a row of samples with a point at each end. -/
theorem isChain_steps {R : Int → Int → Prop} (n : Nat)
    (step : ∀ time : Int, R (time * 1000) ((time + d) * 1000)) :
    List.IsChain R (t * 1000 ::
        ((List.range n).map fun k : Nat => (t + (k + 1 : Nat) * d) * 1000) ++ [t' * 1000]) ↔
      R ((t + n * d) * 1000) (t' * 1000) := by
  have times : t * 1000 :: ((List.range n).map fun k : Nat => (t + (k + 1 : Nat) * d) * 1000) =
      (List.range (n + 1)).map fun k : Nat => (t + k * d) * 1000 := by
    rw [List.range_succ_eq_map, List.map_cons, List.map_map, Int.natCast_zero, Int.zero_mul,
      Int.add_zero]
    rfl
  rw [times, List.isChain_append, List.isChain_map, List.isChain_range_succ, List.getLast?_map,
    List.getLast?_range, if_neg (Nat.succ_ne_zero n)]
  constructor
  · rintro ⟨-, -, last⟩
    exact last _ rfl _ rfl
  · intro last
    refine ⟨fun k _ => ?_, .singleton _, ?_⟩
    · rw [Nat.succ_eq_add_one, Int.natCast_add, Int.add_mul k, Int.natCast_one, Int.one_mul,
        ← Int.add_assoc]
      exact step _
    · rintro _ ⟨⟩ _ ⟨⟩
      exact last

/-- Between two points that both have a value, whatever stands before and after them, the samples
are a whole number of intervals after the first one.  A step is sampled if one more does not go
beyond the second point, so that all steps before it are sampled, and no two samples from the first
point to the second are further apart than the interval, exactly if the distance of the points is a
multiple of the interval or shorter than it.  In any case two samples are less than two intervals
apart. -/
theorem samplesOfPoints_between (lt : t < t') (first : IsWord (t * 1000))
    (second : IsWord (t' * 1000)) (one : 1 ≤ d) (v w : Binary64) (pre post : List Point) :
    ∃ between : List (Int × Binary64),
      samplesOfPoints (pre ++ ⟨t, some v⟩ :: ⟨t', some w⟩ :: post) d =
        samplesOfPoints (pre ++ [⟨t, some v⟩]) d ++ between ++
          samplesOfPoints (⟨t', some w⟩ :: post) d ∧
      (∀ k : Nat, 1 ≤ k →
        ((t + k * d) * 1000 ∈ between.map Prod.fst ↔ t + (k + 1) * d ≤ t')) ∧
      ((∀ k : Nat, 1 ≤ k → t + k * d < t' → (t + k * d) * 1000 ∈ between.map Prod.fst) ↔
        (d : Int) ∣ t' - t ∨ t' - t < d) ∧
      (List.IsChain (fun a b : Int => b - a ≤ d * 1000)
          (t * 1000 :: between.map Prod.fst ++ [t' * 1000]) ↔
        (d : Int) ∣ t' - t ∨ t' - t < d) ∧
      List.IsChain (fun a b : Int => a < b ∧ b - a < 2 * d * 1000)
        (t * 1000 :: between.map Prod.fst ++ [t' * 1000]) := by
  have pos : (0 : Int) < d := by omega
  have steps (k : Nat) (one : 1 ≤ k) :
      (t + k * d) * 1000 ∈ (interpolate d (t, v) (t', w)).map Prod.fst ↔
        t + (k + 1) * d ≤ t' := by
    rw [mem_times_interpolate (Int.le_of_lt pos)]
    constructor
    · rintro ⟨j, -, -, within, same⟩
      rw [Int.add_mul] at within ⊢
      omega
    · intro within
      exact ⟨k, one, pos, within, rfl⟩
  obtain ⟨n, rest, distance, nonneg, shorter, count⟩ := exists_steps lt one
  have times := times_interpolate (Int.le_of_lt pos) (t, v) (t', w)
  dsimp only at times
  rw [count] at times
  refine ⟨interpolate d (t, v) (t', w), ?_, steps, ?_, ?_, ?_⟩
  · rw [samplesOfPoints, samplesOfPoints, samplesOfPoints, samplesFrom_append, List.append_assoc,
      ← interpolate_min d (near_of_isWord first second)]
    rfl
  · rw [← all_steps_iff lt one]
    exact forall_congr' fun k => forall_congr' fun one => by rw [steps k one]
  · rw [times, fills_iff distance nonneg shorter, isChain_steps]
    · rcases n with _ | n
      · omega
      · rw [Nat.add_sub_cancel]
        rw [Int.natCast_add, Int.add_mul] at distance
        omega
    · intro time
      omega
  · rw [times, isChain_steps]
    · rcases n with _ | n
      · omega
      · rw [Nat.add_sub_cancel]
        rw [Int.natCast_add, Int.add_mul] at distance
        omega
    · intro time
      omega

/-- The hypotheses of `samplesOfPoints_between` hold of two points ten seconds apart, with three
seconds between samples; the third of these steps is missing. -/
theorem samplesOfPoints_between_thirds :
    let samples := samplesOfPoints
      ([⟨-20, none⟩] ++ ⟨-5, some ⟨0⟩⟩ :: ⟨5, some ⟨1⟩⟩ :: [⟨5, some ⟨2⟩⟩]) 3
    (-5 : Int) < 5 ∧ IsWord (-5 * 1000) ∧ IsWord (5 * 1000) ∧ 1 ≤ 3 ∧
      samples.map Prod.fst = [-5000, -2000, 1000, 5000, 5000] ∧
      ∃ between : List (Int × Binary64),
        samples = samplesOfPoints ([⟨-20, none⟩] ++ [⟨-5, some ⟨0⟩⟩]) 3 ++ between ++
          samplesOfPoints (⟨5, some ⟨1⟩⟩ :: [⟨5, some ⟨2⟩⟩]) 3 ∧
        ¬ ∀ k : Nat, 1 ≤ k → -5 + k * ((3 : Nat) : Int) < 5 →
          (-5 + k * ((3 : Nat) : Int)) * 1000 ∈ between.map Prod.fst := by
  have lt : (-5 : Int) < 5 := by decide
  have first : IsWord (-5 * 1000) := by decide
  have second : IsWord (5 * 1000) := by decide
  have one : 1 ≤ 3 := by decide
  obtain ⟨between, parts, -, all, -⟩ :=
    samplesOfPoints_between lt first second one ⟨0⟩ ⟨1⟩ [⟨-20, none⟩] [⟨5, some ⟨2⟩⟩]
  exact ⟨lt, first, second, one, by decide, between, parts, fun h =>
    absurd (all.mp h) (by decide)⟩

/-- Two points three seconds apart are further apart than two seconds, and nothing is sampled two
seconds after the first. -/
theorem samplesOfPoints_leaves_gap :
    (0 + 1 * 2 : Int) < 3 ∧
      ((0 + 1 * 2) * 1000 : Int) ∉
        (samplesOfPoints [⟨0, some ⟨0⟩⟩, ⟨3, some ⟨0x4008000000000000⟩⟩] 2).map Prod.fst := by
  decide

end Gaps

end MetricPath
