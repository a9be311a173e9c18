import Mathlib.Logic.Relation
import Mathlib.Tactic.SplitIfs
import MetricPath.Pattern.Search

/-!
# What an expression matches

`Expr.Matches` says of two places of a text that an expression can take what stands between them.
It knows nothing of preference, and searching finds exactly what it says: the ways listed by
`Expr.run` end where the expression can match to (`mem_places_run`), and a text has a match if the
expression matches from some place in it (`isMatch_iff`).

Searching drops ways that end where another one has ended.  Nothing is lost thereby, because a place
is known by its index (`Place.Reaches.eq_of_index`).  The rounds of a repetition are searched depth
first, and what is dropped has been seen before: the places seen are closed under further rounds
(`Explores` without a limit, `ClosedBelow` with one).
-/

namespace MetricPath.Pattern

/-! ## Places of one text -/

/-- A place is reached from another one by taking characters. -/
abbrev Place.Reaches : Place → Place → Prop := Relation.ReflTransGen fun p q => p.next? = some q

theorem Place.next?_index {p q : Place} (h : p.next? = some q) :
    q.index = p.index + 1 ∧ p.rest.length = q.rest.length + 1 := by
  rw [Place.next?] at h
  split at h
  · cases h
  · rename_i rest
    cases h
    exact ⟨rfl, by rw [rest, List.length_cons]⟩

/-- What is taken is taken from the rest. -/
theorem Place.Reaches.length {p q : Place} (h : p.Reaches q) :
    p.index ≤ q.index ∧ q.index + q.rest.length = p.index + p.rest.length := by
  induction h with
  | refl => exact ⟨Nat.le_refl _, rfl⟩
  | tail _ next ih =>
    obtain ⟨index, length⟩ := Place.next?_index next
    omega

/-- Places that are reached from one place are the same if they have the same index. -/
theorem Place.Reaches.eq_of_index {p q r : Place} (hq : p.Reaches q) (hr : p.Reaches r)
    (same : q.index = r.index) : q = r := by
  induction hq using Relation.ReflTransGen.head_induction_on with
  | refl =>
    rcases hr.cases_head with rfl | ⟨s, next, after⟩
    · rfl
    · obtain ⟨index, -⟩ := Place.next?_index next
      have := Place.Reaches.length after
      omega
  | head next after ih =>
    rcases hr.cases_head with rfl | ⟨s, next', after'⟩
    · obtain ⟨index, -⟩ := Place.next?_index next
      have := Place.Reaches.length after
      omega
    · cases next.symm.trans next'
      exact ih after'

/-! ## Matching -/

/-- One place leads to another by so many rounds. -/
def Times (step : Place → Place → Prop) : Nat → Place → Place → Prop
  | 0, p, q => p = q
  | n + 1, p, q => ∃ m, step p m ∧ Times step n m q

/-- Whether an expression can take what stands between two places.  A repetition takes at least
`least` rounds, and of further ones no more than `most` leaves. -/
def Expr.Matches : Expr → Place → Place → Prop
  | .empty, p, q => p = q
  | .set s, p, q => p.next? = some q ∧ ∃ c, p.rest.head? = some c ∧ s.contains c
  | .assert a, p, q => a.holds p ∧ p = q
  | .seq a b, p, q => ∃ m, a.Matches p m ∧ b.Matches m q
  | .alt a b, p, q => a.Matches p q ∨ b.Matches p q
  | .rounds least most _ e, p, q =>
    ∃ more, (∀ m ∈ most, more ≤ m - least) ∧ Times e.Matches (least + more) p q
  | .group _ e, p, q => e.Matches p q

/-- Whether an expression can take a whole text. -/
def Expr.MatchesWhole (e : Expr) (text : List Char) : Prop :=
  ∃ q, q.rest = [] ∧ e.Matches (Place.start text) q

variable {step : Thread → List Thread} {R : Place → Place → Prop} {o p q : Place} {t : Thread}
  {ts : List Thread}

theorem times_add {n m : Nat} : Times R (n + m) p q ↔ ∃ r, Times R n p r ∧ Times R m r q := by
  induction n generalizing p with
  | zero =>
    rw [Nat.zero_add]
    exact ⟨fun h => ⟨p, rfl, h⟩, fun ⟨_, rfl, h⟩ => h⟩
  | succ n ih =>
    rw [Nat.succ_add]
    constructor
    · rintro ⟨s, first, others⟩
      obtain ⟨r, front, back⟩ := ih.mp others
      exact ⟨r, ⟨s, first, front⟩, back⟩
    · rintro ⟨r, ⟨s, first, front⟩, back⟩
      exact ⟨s, first, ih.mpr ⟨r, front, back⟩⟩

/-- Some rounds, at least one, lead to what is reached by rounds. -/
theorem transGen_iff_times : Relation.TransGen R p q ↔ ∃ n, Times R (n + 1) p q := by
  constructor
  · intro h
    induction h using Relation.TransGen.head_induction_on with
    | single first => exact ⟨0, _, first, rfl⟩
    | head first _ ih =>
      obtain ⟨n, others⟩ := ih
      exact ⟨n + 1, _, first, others⟩
  · rintro ⟨n, h⟩
    induction n generalizing p with
    | zero =>
      obtain ⟨_, first, rfl⟩ := h
      exact .single first
    | succ n ih =>
      obtain ⟨_, first, others⟩ := h
      exact .head first (ih others)

/-- Rounds go forward if each of them does. -/
theorem Times.reaches {n : Nat} (h : Times R n p q) (forward : ∀ p q, R p q → p.Reaches q) :
    p.Reaches q := by
  induction n generalizing p with
  | zero => exact h ▸ .refl
  | succ n ih =>
    obtain ⟨_, first, others⟩ := h
    exact (forward _ _ first).trans (ih others)

/-- A match goes forward. -/
theorem Expr.Matches.reaches {e : Expr} (h : e.Matches p q) : p.Reaches q := by
  induction e generalizing p q with
  | empty => exact h ▸ .refl
  | set s => exact .single h.1
  | assert a => exact h.2 ▸ .refl
  | seq a b iha ihb =>
    obtain ⟨m, front, back⟩ := h
    exact (iha front).trans (ihb back)
  | alt a b iha ihb =>
    rcases h with left | right
    · exact iha left
    · exact ihb right
  | rounds least most greedy e ih =>
    obtain ⟨more, -, rounds⟩ := h
    exact rounds.reaches fun _ _ => ih
  | group number e ih => exact ih h

/-! ## Threads and their places -/

/-- Where threads have got to. -/
def places (ts : List Thread) : List Place := ts.map Thread.place

theorem mem_places : q ∈ places ts ↔ ∃ t ∈ ts, t.place = q := List.mem_map

/-- Dropping what ends where something else has ended drops no place. -/
theorem mem_places_firstArrivals {seen : List Nat} (ahead : ∀ t ∈ ts, o.Reaches t.place) :
    q ∈ places (firstArrivals seen ts) ↔ q ∈ places ts ∧ q.index ∉ seen := by
  induction ts generalizing seen with
  | nil => simp [firstArrivals, places]
  | cons t ts ih =>
    have ih {seen} := @ih seen fun u among => ahead u (.tail _ among)
    rw [firstArrivals]
    have head : q ∈ places (t :: ts) ↔ q = t.place ∨ q ∈ places ts := List.mem_cons
    split
    · rename_i before
      rw [ih, head]
      constructor
      · rintro ⟨among, new⟩
        exact ⟨.inr among, new⟩
      · rintro ⟨rfl | among, new⟩
        · exact absurd before new
        · exact ⟨among, new⟩
    · rename_i new
      have : q ∈ places (t :: firstArrivals (t.place.index :: seen) ts) ↔
          q = t.place ∨ q ∈ places (firstArrivals (t.place.index :: seen) ts) := List.mem_cons
      rw [this, ih, head, List.mem_cons, not_or]
      constructor
      · rintro (rfl | ⟨among, -, fresh⟩)
        · exact ⟨.inl rfl, new⟩
        · exact ⟨.inr among, fresh⟩
      · rintro ⟨rfl | among, fresh⟩
        · exact .inl rfl
        · by_cases same : q.index = t.place.index
          · obtain ⟨u, mem, rfl⟩ := mem_places.mp among
            exact .inl ((ahead u (.tail _ mem)).eq_of_index (ahead t (.head _)) same)
          · exact .inr ⟨among, same, fresh⟩

/-- A function on threads that goes on to exactly the places that a relation allows. -/
structure Follows (step : Thread → List Thread) (R : Place → Place → Prop) : Prop where
  spec : ∀ t q, q ∈ places (step t) ↔ R t.place q
  forward : ∀ p q, R p q → p.Reaches q

namespace Follows

theorem mem (h : Follows step R) {u : Thread} (among : u ∈ step t) : R t.place u.place :=
  (h.spec t u.place).mp (mem_places.mpr ⟨u, among, rfl⟩)

theorem ahead (h : Follows step R) : ∀ u ∈ step t, t.place.Reaches u.place :=
  fun _ among => h.forward _ _ (h.mem among)

theorem forward_rounds (h : Follows step R) (rounds : Relation.ReflTransGen R p q) :
    p.Reaches q :=
  Relation.reflTransGen_closed h.forward p q rounds

theorem mem_places_flatMap (h : Follows step R) :
    q ∈ places (ts.flatMap step) ↔ ∃ t ∈ ts, R t.place q := by
  simp only [places, List.map_flatMap, List.mem_flatMap]
  exact exists_congr fun t => and_congr_right fun _ => h.spec t q

/-- One after the other. -/
theorem comp {next : Thread → List Thread} {S : Place → Place → Prop} (h : Follows step R)
    (h' : Follows next S) :
    Follows (fun t => firstArrivals [] ((step t).flatMap next)) (Relation.Comp R S) where
  spec t q := by
    have ahead : ∀ v ∈ (step t).flatMap next, t.place.Reaches v.place := by
      intro v among
      obtain ⟨u, first, second⟩ := List.mem_flatMap.mp among
      exact (h.ahead u first).trans (h'.ahead v second)
    rw [mem_places_firstArrivals ahead, h'.mem_places_flatMap]
    constructor
    · rintro ⟨⟨u, among, after⟩, -⟩
      exact ⟨u.place, h.mem among, after⟩
    · rintro ⟨p, before, after⟩
      obtain ⟨u, among, rfl⟩ := mem_places.mp ((h.spec t p).mpr before)
      exact ⟨⟨u, among, after⟩, List.not_mem_nil⟩
  forward := by
    rintro p q ⟨m, before, after⟩
    exact (h.forward p m before).trans (h'.forward m q after)

/-- Some rounds at a time. -/
theorem exactly (h : Follows step R) (n : Nat) :
    Follows (fun t => exactly step n [t]) (Times R n) where
  spec t q := by
    suffices general : ∀ (n : Nat) (ts : List Thread) (o : Place),
        (∀ t ∈ ts, o.Reaches t.place) →
          (q ∈ places (Pattern.exactly step n ts) ↔ ∃ t ∈ ts, Times R n t.place q) by
      rw [general n [t] t.place fun u among => List.mem_singleton.mp among ▸ .refl]
      exact ⟨fun ⟨u, among, rounds⟩ => List.mem_singleton.mp among ▸ rounds,
        fun rounds => ⟨t, .head _, rounds⟩⟩
    intro n
    induction n with
    | zero => exact fun ts o _ => mem_places
    | succ n ih =>
      intro ts o ahead
      rw [Pattern.exactly]
      split
      · rename_i none
        rw [List.isEmpty_iff.mp none]
        exact ⟨fun among => absurd among List.not_mem_nil,
          fun ⟨_, among, _⟩ => absurd among List.not_mem_nil⟩
      · have ahead' : ∀ u ∈ ts.flatMap step, o.Reaches u.place := by
          intro u among
          obtain ⟨t, first, second⟩ := List.mem_flatMap.mp among
          exact (ahead t first).trans (h.ahead u second)
        have arrivals (p : Place) : (∃ u ∈ firstArrivals [] (ts.flatMap step), u.place = p) ↔
            ∃ t ∈ ts, R t.place p := by
          rw [← mem_places, mem_places_firstArrivals ahead', h.mem_places_flatMap]
          exact and_iff_left List.not_mem_nil
        rw [ih _ o]
        · constructor
          · rintro ⟨u, among, rounds⟩
            obtain ⟨t, first, round⟩ := (arrivals u.place).mp ⟨u, among, rfl⟩
            exact ⟨t, first, u.place, round, rounds⟩
          · rintro ⟨t, first, m, round, rounds⟩
            obtain ⟨u, among, rfl⟩ := (arrivals m).mpr ⟨t, first, round⟩
            exact ⟨u, among, rounds⟩
        · intro u among
          obtain ⟨t, first, round⟩ := (arrivals u.place).mp ⟨u, among, rfl⟩
          exact (ahead t first).trans (h.forward _ _ round)
  forward _ _ rounds := rounds.reaches h.forward

end Follows

/-! ## Repetition without a limit -/

/-- What a search for further rounds has found that set out from `o` with the threads `ends` of one
round: the places seen are those seen before and those found, and they are closed under further
rounds except from `o` itself. -/
structure Explores (R : Place → Place → Prop) (o : Place) (seen : List Nat) (ends : List Thread)
    (found : List Thread × List Nat) : Prop where
  seen_iff : ∀ i, i ∈ found.2 ↔ i ∈ seen ∨ ∃ u ∈ found.1, u.place.index = i
  covers : ∀ t ∈ ends, t.place.index ∈ found.2
  closed : ∀ u ∈ found.1, o.index < u.place.index → ∀ q, R u.place q → q.index ∈ found.2
  sound : ∀ u ∈ found.1, ∃ t ∈ ends, Relation.ReflTransGen R t.place u.place

namespace Explores

variable {seen seen' : List Nat} {out more out' : List Thread}

theorem begin (R : Place → Place → Prop) (o : Place) (seen : List Nat) :
    Explores R o seen [] ([], seen) where
  seen_iff i := by simp
  covers := by simp
  closed := by simp
  sound := by simp

/-- A thread that ends where another one has ended adds nothing. -/
theorem skip (h : Explores R o seen ts (out, seen')) (before : t.place.index ∈ seen') :
    Explores R o seen (ts ++ [t]) (out, seen') where
  seen_iff := h.seen_iff
  covers u among := by
    rcases List.mem_append.mp among with old | new
    · exact h.covers u old
    · exact List.mem_singleton.mp new ▸ before
  closed := h.closed
  sound u among := by
    obtain ⟨t, old, rounds⟩ := h.sound u among
    exact ⟨t, List.mem_append_left _ old, rounds⟩

/-- A thread that has taken nothing goes no further. -/
theorem stop (h : Explores R o seen ts (out, seen')) (none : t.place.index ≤ o.index) :
    Explores R o seen (ts ++ [t]) (out ++ [t], t.place.index :: seen') where
  seen_iff i := by
    simp only [List.mem_cons, h.seen_iff, List.mem_append, List.not_mem_nil, or_false, or_and_right,
      exists_or, exists_eq_left, eq_comm (a := i)]
    rw [or_left_comm, or_comm (a := t.place.index = i)]
  covers u among := by
    rcases List.mem_append.mp among with old | new
    · exact .tail _ (h.covers u old)
    · exact List.mem_singleton.mp new ▸ .head _
  closed u among further q round := by
    rcases List.mem_append.mp among with old | new
    · exact .tail _ (h.closed u old further q round)
    · rw [List.mem_singleton.mp new] at further
      exact absurd further (Nat.not_lt.mpr none)
  sound u among := by
    rcases List.mem_append.mp among with old | new
    · obtain ⟨t, before, rounds⟩ := h.sound u old
      exact ⟨t, List.mem_append_left _ before, rounds⟩
    · exact ⟨u, List.mem_append_right _ new, .refl⟩

/-- Any other thread is followed by the rounds that go on from it. -/
theorem goOn {seen'' : List Nat} (h : Explores R o seen ts (out, seen')) (hstep : Follows step R)
    (inner : Explores R t.place (t.place.index :: seen') (step t) (more, seen''))
    (all : ∀ u, u ∈ out' ↔ u ∈ out ∨ u = t ∨ u ∈ more) :
    Explores R o seen (ts ++ [t]) (out', seen'') where
  seen_iff i := by
    rw [inner.seen_iff, List.mem_cons, h.seen_iff]
    constructor
    · rintro ((rfl | old | ⟨u, among, rfl⟩) | ⟨u, among, rfl⟩)
      · exact .inr ⟨t, (all t).mpr (.inr (.inl rfl)), rfl⟩
      · exact .inl old
      · exact .inr ⟨u, (all u).mpr (.inl among), rfl⟩
      · exact .inr ⟨u, (all u).mpr (.inr (.inr among)), rfl⟩
    · rintro (old | ⟨u, among, rfl⟩)
      · exact .inl (.inr (.inl old))
      · rcases (all u).mp among with old | rfl | new
        · exact .inl (.inr (.inr ⟨u, old, rfl⟩))
        · exact .inl (.inl rfl)
        · exact .inr ⟨u, new, rfl⟩
  covers u among := by
    rw [inner.seen_iff, List.mem_cons]
    rcases List.mem_append.mp among with old | new
    · exact .inl (.inr (h.covers u old))
    · exact .inl (.inl (congrArg (·.place.index) (List.mem_singleton.mp new)))
  closed u among further q round := by
    -- a place that is `t`'s own leads to the ends of `step t`, which the inner search covers
    have own (place : u.place = t.place) : q.index ∈ seen'' := by
      obtain ⟨v, mem, rfl⟩ := mem_places.mp ((hstep.spec t q).mpr (place ▸ round))
      exact inner.covers v mem
    rcases (all u).mp among with old | rfl | new
    · exact (inner.seen_iff _).mpr (.inl (.tail _ (h.closed u old further q round)))
    · exact own rfl
    · by_cases beyond : t.place.index < u.place.index
      · exact inner.closed u new beyond q round
      · obtain ⟨v, first, rounds⟩ := inner.sound u new
        have reached : t.place.Reaches u.place :=
          (hstep.ahead v first).trans (hstep.forward_rounds rounds)
        have := reached.length
        exact own (reached.eq_of_index .refl (by omega))
  sound u among := by
    rcases (all u).mp among with old | rfl | new
    · obtain ⟨v, before, rounds⟩ := h.sound u old
      exact ⟨v, List.mem_append_left _ before, rounds⟩
    · exact ⟨u, List.mem_append_right _ (.head _), .refl⟩
    · obtain ⟨v, first, rounds⟩ := inner.sound u new
      exact ⟨t, List.mem_append_right _ (.head _), .head (hstep.mem first) rounds⟩

end Explores

/-- A search whose depth is more than the text left goes through all further rounds. -/
theorem explores_moreRounds (h : Follows step R) (greedy : Bool) (depth : Nat) (seen : List Nat)
    (enough : o.rest.length < depth) (ahead : ∀ t ∈ ts, o.Reaches t.place) :
    Explores R o seen ts (moreRounds step greedy depth o.index seen ts) := by
  induction depth generalizing o seen ts with
  | zero => exact absurd enough (Nat.not_lt_zero _)
  | succ depth ih =>
    rw [moreRounds]
    -- the ends that are done, with what the search over them has found
    suffices fold : ∀ (ts done : List Thread) (found : List Thread × List Nat),
        (∀ t ∈ ts, o.Reaches t.place) → Explores R o seen done found →
          Explores R o seen (done ++ ts) (ts.foldl _ found) from
      fold ts [] ([], seen) ahead (.begin R o seen)
    intro ts
    induction ts with
    | nil =>
      intro done found _ h
      rwa [List.append_nil]
    | cons t ts ihs =>
      rintro done ⟨out, seen'⟩ ahead found
      rw [List.foldl_cons, List.append_cons]
      apply ihs _ _ fun u among => ahead u (.tail _ among)
      have reached := ahead t (.head _)
      dsimp only
      split_ifs with before stop
      · exact found.skip before
      · exact found.stop stop
      · have := reached.length
        exact found.goOn h (ih _ (by omega) h.ahead) fun u => by simp [or_comm]
      · have := reached.length
        exact found.goOn h (ih _ (by omega) h.ahead) fun u => by simp

/-- At least one round goes on to what some rounds lead to. -/
theorem Follows.oneOrMore (h : Follows step R) (greedy : Bool) :
    Follows (oneOrMore step greedy) (Relation.TransGen R) where
  spec t q := by
    rw [Pattern.oneOrMore]
    have all := explores_moreRounds h greedy _ [] (Nat.lt_succ_self _) (h.ahead (t := t))
    generalize moreRounds step greedy _ _ _ _ = found at all
    have sound {u : Thread} (among : u ∈ found.1) : Relation.TransGen R t.place u.place := by
      obtain ⟨v, first, rounds⟩ := all.sound u among
      exact .head' (h.mem first) rounds
    have forward {q : Place} (rounds : Relation.TransGen R t.place q) : t.place.Reaches q :=
      h.forward_rounds rounds.to_reflTransGen
    have found_of_seen {q : Place} (rounds : Relation.TransGen R t.place q)
        (seen : q.index ∈ found.2) : q ∈ places found.1 := by
      rcases (all.seen_iff _).mp seen with none | ⟨u, among, same⟩
      · exact absurd none List.not_mem_nil
      · have := (forward (sound among)).eq_of_index (forward rounds) same
        exact mem_places.mpr ⟨u, among, this⟩
    constructor
    · intro among
      obtain ⟨u, mem, rfl⟩ := mem_places.mp among
      exact sound mem
    · intro rounds
      refine found_of_seen rounds ?_
      -- along the rounds, every place is found, and so the next one is seen
      have first {q : Place} (round : R t.place q) : q.index ∈ found.2 := by
        obtain ⟨u, among, rfl⟩ := mem_places.mp ((h.spec t q).mpr round)
        exact all.covers u among
      induction rounds with
      | single round => exact first round
      | tail before round ih =>
        obtain ⟨u, among, rfl⟩ := mem_places.mp (found_of_seen before ih)
        by_cases further : t.place.index < u.place.index
        · exact all.closed u among further _ round
        · have := (forward before).length
          have same := (forward before).eq_of_index .refl (by omega)
          exact first (same ▸ round)
  forward _ _ rounds := h.forward_rounds rounds.to_reflTransGen

/-- Any number of rounds. -/
theorem Follows.zeroOrMore (h : Follows step R) (greedy : Bool) :
    Follows (zeroOrMore step greedy) (Relation.ReflTransGen R) where
  spec t q := by
    have rounds := h.oneOrMore greedy
    have mem (q : Place) :
        q ∈ places (if greedy then Pattern.oneOrMore step greedy t ++ [t]
          else t :: Pattern.oneOrMore step greedy t) ↔
          q = t.place ∨ q ∈ places (Pattern.oneOrMore step greedy t) := by
      cases greedy <;> simp [places, or_comm, eq_comm]
    rw [Pattern.zeroOrMore, mem_places_firstArrivals, mem, rounds.spec,
      Relation.reflTransGen_iff_eq_or_transGen]
    · exact and_iff_left List.not_mem_nil
    · intro u among
      rcases (mem u.place).mp (mem_places.mpr ⟨u, among, rfl⟩) with own | later
      · rw [own]
      · exact rounds.forward _ _ ((rounds.spec t _).mp later)
  forward _ _ := h.forward_rounds

/-! ## Repetition with a limit -/

/-- One place leads to another by at most so many rounds. -/
def Within (R : Place → Place → Prop) (n : Nat) (p q : Place) : Prop := ∃ k ≤ n, Times R k p q

/-- Among the places after `o`, those seen with fewer than `n` rounds left have nothing before them
that is not among `found`. -/
def ClosedBelow (R : Place → Place → Prop) (o : Place) (n : Nat) (seen : List (Nat × Nat))
    (found : Place → Prop) : Prop :=
  ∀ k < n, ∀ p, o.Reaches p → (k, p.index) ∈ seen → ∀ q, Within R (k + 1) p q → found q

/-- What a search of at most `n` rounds from the threads `starts` has found, where the places
`known` had been found before. -/
structure Lists (R : Place → Place → Prop) (o : Place) (n : Nat) (seen : List (Nat × Nat))
    (known : Place → Prop) (starts : List Thread) (found : List Thread × List (Nat × Nat)) :
    Prop where
  sound : ∀ u ∈ found.1, ∃ t ∈ starts, Within R n t.place u.place
  complete : ∀ t ∈ starts, ∀ q, Within R n t.place q → known q ∨ q ∈ places found.1
  closed : ClosedBelow R o n found.2 fun q => known q ∨ q ∈ places found.1
  above : ∀ k i, n ≤ k → (k, i) ∈ found.2 → (k, i) ∈ seen

namespace Lists

variable {n : Nat} {seen : List (Nat × Nat)} {known : Place → Prop} {starts : List Thread}
  {out more : List Thread} {seen' seen'' : List (Nat × Nat)}

theorem begin (closed : ClosedBelow R o n seen known) : Lists R o n seen known [] ([], seen) where
  sound := by simp
  complete := by simp
  closed k below p reached mem q within := .inl (closed k below p reached mem q within)
  above _ _ _ mem := mem

/-- The search from one thread goes on with what the search before it has found. -/
theorem append (h : Lists R o n seen known starts (out, seen'))
    (next : Lists R o n seen' (fun q => known q ∨ q ∈ places out) [t] (more, seen'')) :
    Lists R o n seen known (starts ++ [t]) (out ++ more, seen'') where
  sound u among := by
    rcases List.mem_append.mp among with old | new
    · obtain ⟨s, mem, within⟩ := h.sound u old
      exact ⟨s, List.mem_append_left _ mem, within⟩
    · obtain ⟨s, mem, within⟩ := next.sound u new
      exact ⟨s, List.mem_append_right _ mem, within⟩
  complete u among q within := by
    rw [places, List.map_append, List.mem_append]
    rcases List.mem_append.mp among with old | new
    · exact (h.complete u old q within).imp_right .inl
    · exact or_assoc.mp (next.complete u new q within)
  closed k below p reached mem q within := by
    show known q ∨ q ∈ places (out ++ more)
    rw [places, List.map_append, List.mem_append]
    exact or_assoc.mp (next.closed k below p reached mem q within)
  above k i more mem := h.above k i more (next.above k i more mem)

/-- One more round: the thread itself, and what fewer rounds find from its successors. -/
theorem succ {out' : List Thread} (h : Follows step R) (reached : o.Reaches t.place)
    (closed : ClosedBelow R o (n + 1) seen known)
    (inner : Lists R o n ((n, t.place.index) :: seen) known (step t) (more, seen'))
    (all : ∀ u, u ∈ out' ↔ u = t ∨ u ∈ more) :
    Lists R o (n + 1) seen known [t] (out', seen') := by
  have grown {q : Place} (among : q ∈ places more) : q ∈ places out' := by
    obtain ⟨u, mem, rfl⟩ := mem_places.mp among
    exact mem_places.mpr ⟨u, (all u).mpr (.inr mem), rfl⟩
  have complete (q : Place) (within : Within R (n + 1) t.place q) :
      known q ∨ q ∈ places out' := by
    obtain ⟨_ | k, atMost, rounds⟩ := within
    · exact .inr (mem_places.mpr ⟨t, (all t).mpr (.inl rfl), rounds⟩)
    · obtain ⟨m, first, others⟩ := rounds
      obtain ⟨u, mem, rfl⟩ := mem_places.mp ((h.spec t m).mpr first)
      exact (inner.complete u mem q ⟨k, Nat.le_of_succ_le_succ atMost, others⟩).imp_right grown
  constructor
  · intro u among
    refine ⟨t, .head _, ?_⟩
    rcases (all u).mp among with rfl | later
    · exact ⟨0, Nat.zero_le _, rfl⟩
    · obtain ⟨s, mem, k, atMost, rounds⟩ := inner.sound u later
      exact ⟨k + 1, Nat.succ_le_succ atMost, s.place, h.mem mem, rounds⟩
  · intro u among
    exact List.mem_singleton.mp among ▸ complete
  · intro k below p after mem q within
    rcases Nat.lt_succ_iff_lt_or_eq.mp below with lower | rfl
    · exact (inner.closed k lower p after mem q within).imp_right grown
    · -- with as many rounds left, either this is `t`'s place or it was seen before
      rcases List.mem_cons.mp (inner.above k _ (Nat.le_refl _) mem) with here | old
      · have same := after.eq_of_index reached (Prod.mk.inj here).2
        exact complete q (same ▸ within)
      · exact .inl (closed k below p after old q within)
  · intro k i more mem
    rcases List.mem_cons.mp (inner.above k i (Nat.le_of_succ_le more) mem) with here | old
    · exact absurd (Prod.mk.inj here).1 (Nat.ne_of_gt more)
    · exact old

end Lists

/-- A search of at most `n` rounds finds what they lead to. -/
theorem lists_upTo (h : Follows step R) (greedy : Bool) (n : Nat) (seen : List (Nat × Nat))
    (known : Place → Prop) (reached : o.Reaches t.place)
    (closed : ClosedBelow R o n seen known) :
    Lists R o n seen known [t] (upTo step greedy n seen t) := by
  induction n generalizing seen known t with
  | zero =>
    rw [upTo]
    constructor
    · exact fun u among => ⟨t, .head _, 0, Nat.le_refl _, List.mem_singleton.mp among ▸ rfl⟩
    · rintro u among q ⟨k, none, rounds⟩
      rw [List.mem_singleton.mp among, Nat.le_zero.mp none] at rounds
      exact .inr (mem_places.mpr ⟨t, .head _, rounds⟩)
    · exact fun k below => absurd below (Nat.not_lt_zero k)
    · exact fun _ _ _ mem => mem
  | succ n ih =>
    rw [upTo]
    split
    · rename_i before
      constructor
      · exact fun u among => absurd among List.not_mem_nil
      · intro u among q within
        rw [List.mem_singleton.mp among] at within
        exact .inl (closed n (Nat.lt_succ_self n) t.place reached before q within)
      · exact fun k below p after mem q within => .inl (closed k below p after mem q within)
      · exact fun _ _ _ mem => mem
    · -- the successors that are done, with what the search from them has found
      have fold : ∀ (ts done : List Thread) (found : List Thread × List (Nat × Nat)),
          (∀ u ∈ ts, o.Reaches u.place) →
            Lists R o n ((n, t.place.index) :: seen) known done found →
              Lists R o n ((n, t.place.index) :: seen) known (done ++ ts)
                (ts.foldl (fun found u =>
                  (found.1 ++ (upTo step greedy n found.2 u).1, (upTo step greedy n found.2 u).2))
                    found) := by
        intro ts
        induction ts with
        | nil =>
          intro done found _ h
          rwa [List.append_nil]
        | cons u ts ihs =>
          rintro done ⟨out, seen'⟩ ahead found
          rw [List.foldl_cons, List.append_cons]
          apply ihs _ _ fun v among => ahead v (.tail _ among)
          exact found.append (ih seen' _ (ahead u (.head _)) found.closed)
      have lower : ClosedBelow R o n ((n, t.place.index) :: seen) known := by
        intro k below p after mem q within
        rcases List.mem_cons.mp mem with here | old
        · exact absurd (Prod.mk.inj here).1 (Nat.ne_of_lt below)
        · exact closed k (Nat.lt_succ_of_lt below) p after old q within
      have inner := fold (step t) [] _ (fun u among => reached.trans (h.ahead u among))
        (.begin lower)
      refine inner.succ h reached closed fun u => ?_
      cases greedy <;> simp [or_comm]

/-- At most so many rounds. -/
theorem Follows.atMost (h : Follows step R) (greedy : Bool) (n : Nat) :
    Follows (atMost step greedy n) (Within R n) where
  spec t q := by
    have all := lists_upTo h greedy n [] (fun _ => False) (.refl (a := t.place))
      fun k _ p _ mem => absurd mem List.not_mem_nil
    constructor
    · intro among
      obtain ⟨u, mem, rfl⟩ := mem_places.mp among
      obtain ⟨s, own, within⟩ := all.sound u mem
      exact List.mem_singleton.mp own ▸ within
    · exact fun within => (all.complete t (.head _) q within).resolve_left id
  forward := by
    rintro p q ⟨k, -, rounds⟩
    exact rounds.reaches h.forward

/-! ## What searching finds -/

/-- The rounds of a repetition. -/
theorem Follows.repeated (h : Follows step R) (least : Nat) (most : Option Nat) (greedy : Bool) :
    Follows (repeated step least most greedy) fun p q =>
      ∃ more, (∀ m ∈ most, more ≤ m - least) ∧ Times R (least + more) p q where
  spec t q := by
    rcases most with _ | m
    · simp only [Option.not_mem_none, false_imp_iff, implies_true, true_and]
      rcases least with _ | n
      · rw [Pattern.repeated, (h.zeroOrMore greedy).spec, Relation.reflTransGen_iff_eq_or_transGen,
          transGen_iff_times]
        simp only [Nat.zero_add]
        constructor
        · rintro (none | ⟨n, rounds⟩)
          · exact ⟨0, none.symm⟩
          · exact ⟨n + 1, rounds⟩
        · rintro ⟨_ | n, rounds⟩
          · exact .inl (Eq.symm rounds)
          · exact .inr ⟨n, rounds⟩
      · rw [Pattern.repeated, ((h.exactly n).comp (h.oneOrMore greedy)).spec]
        simp only [Relation.Comp, transGen_iff_times]
        constructor
        · rintro ⟨p, before, more, after⟩
          exact ⟨more, by rw [Nat.succ_add, ← Nat.add_succ]; exact times_add.mpr ⟨p, before, after⟩⟩
        · rintro ⟨more, rounds⟩
          rw [Nat.succ_add, ← Nat.add_succ] at rounds
          obtain ⟨p, before, after⟩ := times_add.mp rounds
          exact ⟨p, before, more, after⟩
    · rw [Pattern.repeated, ((h.exactly least).comp (h.atMost greedy (m - least))).spec]
      constructor
      · rintro ⟨p, before, more, atMost, after⟩
        exact ⟨more, fun _ is => Option.mem_some.mp is ▸ atMost, times_add.mpr ⟨p, before, after⟩⟩
      · rintro ⟨more, atMost, rounds⟩
        obtain ⟨p, before, after⟩ := times_add.mp rounds
        exact ⟨p, before, more, atMost m rfl, after⟩
  forward := by
    rintro p q ⟨more, -, rounds⟩
    exact rounds.reaches h.forward

/-- The ways in which an expression goes on end where it can match to. -/
theorem Expr.follows_run (e : Expr) : Follows e.run e.Matches := by
  refine ⟨?_, fun _ _ => Matches.reaches⟩
  induction e with
  | empty => exact fun t q => List.mem_singleton.trans eq_comm
  | set s =>
    intro t q
    rw [run, Matches, Place.next?]
    rcases t.place.rest with _ | ⟨c, cs⟩
    · exact iff_of_false List.not_mem_nil fun found => by cases found.1
    · dsimp only [List.head?_cons]
      split <;> rename_i member
      · refine (List.mem_singleton.trans eq_comm).trans ?_
        rw [Option.some_inj]
        exact (and_iff_left ⟨c, rfl, member⟩).symm
      · refine iff_of_false List.not_mem_nil ?_
        rintro ⟨-, d, same, inside⟩
        cases same
        exact member inside
  | assert a =>
    intro t q
    rw [run, Matches]
    have one : q ∈ places [t] ↔ t.place = q := List.mem_singleton.trans eq_comm
    split <;> rename_i holds
    · rw [one, and_iff_right holds]
    · exact iff_of_false List.not_mem_nil fun found => holds found.1
  | seq a b iha ihb =>
    have both := (Follows.mk iha fun _ _ => Matches.reaches).comp ⟨ihb, fun _ _ => Matches.reaches⟩
    exact both.spec
  | alt a b iha ihb =>
    intro t q
    rw [run, mem_places_firstArrivals (o := t.place), places, List.map_append, List.mem_append]
    · exact (and_iff_left List.not_mem_nil).trans (or_congr (iha t q) (ihb t q))
    · intro u among
      rcases List.mem_append.mp among with left | right
      · exact Matches.reaches ((iha t _).mp (mem_places.mpr ⟨u, left, rfl⟩))
      · exact Matches.reaches ((ihb t _).mp (mem_places.mpr ⟨u, right, rfl⟩))
  | rounds least most greedy e ih =>
    exact ((Follows.mk ih fun _ _ => Matches.reaches).repeated least most greedy).spec
  | group number e ih =>
    intro t q
    rw [run, places, List.map_map]
    exact ih t q

variable {e : Expr} {text : List Char}

theorem Expr.matchAt?_isSome : (e.matchAt? p).isSome ↔ ∃ q, e.Matches p q := by
  have spec := e.follows_run.spec ⟨p, []⟩
  rw [matchAt?, Option.isSome_map]
  constructor
  · intro some
    obtain ⟨t, first⟩ := Option.isSome_iff_exists.mp some
    exact ⟨t.place, (spec _).mp (mem_places.mpr ⟨t, List.mem_of_head? first, rfl⟩)⟩
  · rintro ⟨q, reaches⟩
    obtain ⟨t, among, -⟩ := mem_places.mp ((spec q).mpr reaches)
    exact List.isSome_head?.mpr (List.ne_nil_of_mem among)

theorem Expr.findFrom?_isSome {index : Nat} {before : Option Char} {rest : List Char} :
    (e.findFrom? index before rest).isSome ↔
      ∃ p q, Place.Reaches ⟨index, before, rest⟩ p ∧ e.Matches p q := by
  -- the match begins here or further on
  have split {index before rest} :
      (∃ p q, Place.Reaches ⟨index, before, rest⟩ p ∧ e.Matches p q) ↔
        (e.matchAt? ⟨index, before, rest⟩).isSome ∨
          ∃ c cs, rest = c :: cs ∧
            ∃ p q, Place.Reaches ⟨index + 1, some c, cs⟩ p ∧ e.Matches p q := by
    rw [matchAt?_isSome]
    constructor
    · rintro ⟨p, q, reached, found⟩
      rcases reached.cases_head with rfl | ⟨m, next, after⟩
      · exact .inl ⟨q, found⟩
      · rw [Place.next?] at next
        split at next
        · cases next
        · rename_i c cs rest
          cases next
          exact .inr ⟨c, cs, rest, p, q, after, found⟩
    · rintro (⟨q, found⟩ | ⟨c, cs, rfl, p, q, after, found⟩)
      · exact ⟨_, q, .refl, found⟩
      · exact ⟨p, q, .head rfl after, found⟩
  induction rest generalizing index before with
  | nil =>
    rw [findFrom?, split]
    exact (or_iff_left fun ⟨_, _, last, _⟩ => List.cons_ne_nil _ _ last.symm).symm
  | cons c cs ih =>
    rw [findFrom?, split]
    rcases e.matchAt? ⟨index, before, c :: cs⟩ with _ | m
    · refine ih.trans ⟨?_, ?_⟩
      · exact fun found => .inr ⟨c, cs, rfl, found⟩
      · rintro (none | ⟨_, _, same, found⟩)
        · exact absurd none Bool.false_ne_true
        · cases same
          exact found
    · exact iff_of_true rfl (.inl rfl)

/-- A text has a match if the expression matches from some place in it. -/
theorem Expr.isMatch_iff :
    e.isMatch text ↔ ∃ p q, (Place.start text).Reaches p ∧ e.Matches p q :=
  findFrom?_isSome

/-- An expression between the anchors of a text takes the whole of it. -/
theorem Expr.isMatch_anchored :
    (Expr.seq (.assert .textStart) (.seq e (.assert .textEnd))).isMatch text ↔
      e.MatchesWhole text := by
  rw [isMatch_iff]
  constructor
  · rintro ⟨p, q, reached, _, ⟨atStart, rfl⟩, _, found, atEnd, rfl⟩
    rw [Assertion.holds, Option.isNone_iff_eq_none] at atStart
    rw [Assertion.holds, Option.isNone_iff_eq_none, List.head?_eq_none_iff] at atEnd
    rcases reached.cases_tail with rfl | ⟨m, -, next⟩
    · exact ⟨_, atEnd, found⟩
    · rw [Place.next?] at next
      split at next <;> cases next
      cases atStart
  · rintro ⟨q, atEnd, found⟩
    refine ⟨_, q, .refl, Place.start text, ⟨rfl, rfl⟩, q, found, ?_, rfl⟩
    rw [Assertion.holds, atEnd]
    rfl

end MetricPath.Pattern
