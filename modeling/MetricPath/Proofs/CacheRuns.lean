import Mathlib.Data.Set.Card
import MetricPath.Proofs.PathCache

/-!
# Runs of a cache

What a run of steps does to the entries is its `timeline`: the paths that are stored and the purges
that run, in their order, with the moments at which they do.  From the timeline alone follows what a
cache holds (`Reflects`): under each fingerprint what was stored last (`latest?`), unless a purge
that ran since then found it expired.

Every step keeps this.  For the passage of time that is not obvious, because `advance` runs only
the last tick of each periodic purge, while all its ticks stand in the timeline; what an earlier
tick removes the last one removes as well (`forall_ticks_iff`).

Expired entries are not found whether or not they have been purged, so what is found does not depend
on the purges at all (`found?`).
-/

namespace MetricPath.PathCache

/-! ## The timeline of a run -/

/-- Paths stored under a fingerprint, at a moment and for a lifetime. -/
structure Stored where
  fingerprint : Fingerprint
  paths : List String
  time : Nat
  lifetime : Nat

/-- The moment from which on the paths are not found. -/
def Stored.expiry (s : Stored) : Nat := s.time + s.lifetime

/-- What happens to the entries of a cache. -/
inductive Event where
  | stored (s : Stored)
  /-- A purge runs at a moment. -/
  | purged (moment : Nat)

/-- A periodic purge runs at the moments that lie a whole number of intervals after its start, the
start itself excluded.  Without an interval there are none. -/
def Ticks (interval start moment : Nat) : Prop := start < moment ∧ interval ∣ moment - start

instance (interval start moment : Nat) : Decidable (Ticks interval start moment) :=
  inferInstanceAs (Decidable (_ ∧ _))

/-- What decides when paths expire and when purges run: the usual lifetime, the interval of periodic
purges, the present moment, and the moments at which periodic purges were started. -/
structure Clock where
  ttl : Nat
  interval : Nat
  now : Nat
  starts : List Nat

/-- The moments from now on, up to a duration later, at which one of the periodic purges runs. -/
def Clock.ticks (k : Clock) (duration : Nat) : List Nat :=
  (List.range' (k.now + 1) duration).filter fun moment =>
    ∃ start ∈ k.starts, Ticks k.interval start moment

theorem Clock.mem_ticks {k : Clock} {duration moment : Nat} :
    moment ∈ k.ticks duration ↔ (k.now < moment ∧ moment ≤ k.now + duration) ∧
      ∃ start ∈ k.starts, Ticks k.interval start moment := by
  rw [ticks, List.mem_filter, List.mem_range'_1, decide_eq_true_eq]
  exact and_congr_left fun _ => by omega

/-- What a step does to the entries. -/
def Clock.events (k : Clock) : Step → List Event
  | .get _ => []
  | .set f paths lifetime => [.stored ⟨f, paths, k.now, lifetime⟩]
  | .insert f paths => [.stored ⟨f, paths, k.now, k.ttl⟩]
  | .purge => [.purged k.now]
  | .startPurge => []
  | .advance duration => (k.ticks duration).map .purged

/-- The clock after a step. -/
def Clock.after (k : Clock) : Step → Clock
  | .startPurge => { k with starts := k.now :: k.starts }
  | .advance duration => { k with now := k.now + duration }
  | _ => k

/-- What a run of steps does to the entries. -/
def timeline (k : Clock) : List Step → List Event
  | [] => []
  | s :: steps => k.events s ++ timeline (k.after s) steps

/-- The time that a step takes. -/
def Step.duration : Step → Nat
  | .advance duration => duration
  | _ => 0

/-- The time that steps take. -/
def elapsed (steps : List Step) : Nat := (steps.map Step.duration).sum

/-- What was stored last under a fingerprint, and the events since then. -/
def latest? (f : Fingerprint) : List Event → Option (Stored × List Event)
  | [] => none
  | .purged _ :: events => latest? f events
  | .stored s :: events =>
    (latest? f events).or (if s.fingerprint = f then some (s, events) else none)

/-- What is found under a fingerprint at a moment: the paths stored last, unless they have
expired. -/
def found? (f : Fingerprint) (now : Nat) (events : List Event) : Option (List String) :=
  ((latest? f events).filter fun found => now < found.1.expiry).map (·.1.paths)

/-- Whether an event leaves what was stored before: all do but a purge at the expiry or later. -/
def Event.spares (s : Stored) : Event → Bool
  | .stored _ => true
  | .purged moment => moment < s.expiry

/-- What was stored last under a fingerprint and has not been removed by a purge since. -/
def kept? (f : Fingerprint) (events : List Event) : Option Stored :=
  ((latest? f events).filter fun found => found.2.all (Event.spares found.1)).map (·.1)

/-! ## One more event -/

section Latest

variable {f : Fingerprint} {events : List Event}

/-- What was stored last is the last of the later events, or else the last of the earlier ones. -/
theorem latest?_append (f : Fingerprint) (events more : List Event) :
    latest? f (events ++ more) =
      (latest? f more).or ((latest? f events).map fun found => (found.1, found.2 ++ more)) := by
  induction events with
  | nil => rw [List.nil_append, latest?, Option.map_none, Option.or_none]
  | cons e events ih =>
    cases e with
    | purged moment => exact ih
    | stored s =>
      rw [List.cons_append, latest?, latest?, ih, Option.or_assoc, Option.map_or]
      split_ifs <;> rfl

/-- The events since the last were events. -/
theorem mem_of_latest? {found : Stored × List Event} (h : latest? f events = some found) :
    ∀ e ∈ found.2, e ∈ events := by
  induction events with
  | nil => cases h
  | cons e events ih =>
    intro since mem
    refine List.mem_cons_of_mem e ?_
    cases e with
    | purged moment => exact ih h since mem
    | stored s =>
      rw [latest?, Option.or_eq_some_iff] at h
      rcases h with h | ⟨-, h⟩
      · exact ih h since mem
      · split_ifs at h
        cases h
        exact mem

/-- Storing replaces what was kept under the fingerprint. -/
theorem kept?_stored (f : Fingerprint) (events : List Event) (s : Stored) :
    kept? f (events ++ [.stored s]) = if s.fingerprint = f then some s else kept? f events := by
  rw [kept?, latest?_append, latest?, latest?, Option.none_or]
  split_ifs with same
  · rfl
  · -- what was kept before is kept, since storing is no purge
    rw [Option.none_or, kept?]
    cases latest? f events with
    | none => rfl
    | some found =>
      simp only [Option.map_some, Option.filter_some, List.all_append, List.all_cons, List.all_nil,
        Event.spares, Bool.and_true]
      split_ifs <;> rfl

/-- Purges store nothing. -/
@[simp] theorem latest?_purged (f : Fingerprint) (moments : List Nat) :
    latest? f (moments.map .purged) = none := by
  induction moments with
  | nil => rfl
  | cons moment moments ih => exact ih

/-- Purges leave what has not expired at any of their moments. -/
theorem kept?_purged (f : Fingerprint) (events : List Event) (moments : List Nat) :
    kept? f (events ++ moments.map .purged) =
      (kept? f events).filter fun s => moments.all (· < s.expiry) := by
  have spared (s : Stored) :
      (moments.map .purged).all (Event.spares s) = moments.all (· < s.expiry) :=
    List.all_map
  rw [kept?, latest?_append, latest?_purged, Option.none_or, kept?]
  cases latest? f events with
  | none => rfl
  | some found =>
    simp only [Option.map_some, Option.filter_some, List.all_append, spared, Bool.and_eq_true]
    by_cases before : found.2.all (Event.spares found.1) = true
    · rw [if_pos before, Option.map_some, Option.filter_some]
      simp only [before, true_and]
      split_ifs <;> rfl
    · rw [if_neg before, if_neg fun both => before both.1]
      rfl

end Latest

/-! ## Purges -/

/-- Purges remove the entries that have expired at one of their moments. -/
theorem lookup_foldl_purgeAt (c : PathCache) (moments : List Nat) (f : Fingerprint) :
    (moments.foldl purgeAt c).entries.lookup f =
      (c.entries.lookup f).filter fun e => moments.all (· < e.expiry) := by
  induction moments generalizing c with
  | nil => cases h : c.entries.lookup f <;> simp [h, Option.filter_some]
  | cons moment moments ih =>
    rw [List.foldl_cons, ih, purgeAt, lookup_filter c.distinct (fun e => moment < e.expiry),
      Option.filter_filter]
    rfl

/-- The last tick of a periodic purge is one, and none is later. -/
theorem lastTick?_eq_some {interval start now tick : Nat}
    (h : lastTick? interval start now = some tick) :
    Ticks interval start tick ∧ ∀ moment ≤ now, Ticks interval start moment → moment ≤ tick := by
  rw [lastTick?] at h
  split_ifs at h with none
  rw [not_or] at none
  cases h
  have rounds := Nat.pos_of_ne_zero none.2
  have length := Nat.pos_of_ne_zero none.1
  refine ⟨⟨Nat.lt_add_of_pos_right (Nat.mul_pos rounds length), ?_⟩, ?_⟩
  · rw [Nat.add_sub_cancel_left]
    exact Nat.dvd_mul_left interval _
  · rintro moment past ⟨after, k, rounds⟩
    have bound : k ≤ (now - start) / interval := by
      rw [Nat.le_div_iff_mul_le length, Nat.mul_comm, ← rounds]
      exact Nat.sub_le_sub_right past start
    have := Nat.mul_le_mul_left interval bound
    rw [Nat.mul_comm _ interval]
    omega

/-- Without a last tick a periodic purge has not run. -/
theorem lastTick?_eq_none {interval start now moment : Nat}
    (h : lastTick? interval start now = none) (past : moment ≤ now) :
    ¬Ticks interval start moment := by
  rintro ⟨after, k, rounds⟩
  rw [lastTick?] at h
  split_ifs at h with none
  have positive : 0 < moment - start := Nat.sub_pos_of_lt after
  rcases none with zero | early
  · rw [zero, Nat.zero_mul] at rounds
    omega
  · -- one round takes at least the interval, and fewer than that have passed
    have length : interval ≠ 0 := fun zero => by
      rw [zero, Nat.zero_mul] at rounds
      omega
    have short : now - start < interval := (Nat.div_eq_zero_iff.mp early).resolve_left length
    have least : interval ≤ interval * k :=
      Nat.le_mul_of_pos_right _ (Nat.pos_of_ne_zero fun zero => by
        rw [zero, Nat.mul_zero] at rounds
        omega)
    omega

/-- The clock of a cache. -/
def clock (c : PathCache) : Clock := ⟨c.ttl, c.purgeInterval, c.now, c.purgeStarts⟩

/-- The ticks that an advance of a cache runs: of each periodic purge the last. -/
def lastTicks (c : PathCache) (duration : Nat) : List Nat :=
  c.purgeStarts.filterMap fun start =>
    (lastTick? c.purgeInterval start (c.now + duration)).filter fun tick => c.now < tick

/-- Something lives longer than all ticks exactly if it lives longer than the last ones. -/
theorem forall_ticks_iff (c : PathCache) (duration expiry : Nat) :
    (∀ tick ∈ c.lastTicks duration, tick < expiry) ↔
      ∀ moment ∈ c.clock.ticks duration, moment < expiry := by
  constructor
  · intro last moment mem
    obtain ⟨⟨later, past⟩, start, started, tick⟩ := Clock.mem_ticks.mp mem
    cases found : lastTick? c.purgeInterval start (c.now + duration) with
    | none => exact absurd tick (lastTick?_eq_none found past)
    | some final =>
      have le : moment ≤ final := (lastTick?_eq_some found).2 moment past tick
      refine Nat.lt_of_le_of_lt le (last final (List.mem_filterMap.mpr ⟨start, started, ?_⟩))
      rw [found, Option.filter_some]
      exact if_pos (decide_eq_true (Nat.lt_of_lt_of_le later le))
  · intro all tick mem
    obtain ⟨start, started, last⟩ := List.mem_filterMap.mp mem
    obtain ⟨found, later⟩ := Option.filter_eq_some_iff.mp last
    exact all tick (Clock.mem_ticks.mpr ⟨⟨of_decide_eq_true later, lastTick?_le found⟩,
      start, started, (lastTick?_eq_some found).1⟩)

/-! ## What a cache holds -/

/-- The entry of what was stored. -/
def Stored.entry (s : Stored) : CacheEntry := ⟨s.paths, s.expiry⟩

/-- A cache holds what events of the past have left. -/
structure Reflects (c : PathCache) (events : List Event) : Prop where
  lookup : ∀ f, c.entries.lookup f = (kept? f events).map Stored.entry
  past : ∀ moment, .purged moment ∈ events → moment ≤ c.now

namespace Reflects

variable {c : PathCache} {events : List Event}

/-- Storing is the event that paths are stored. -/
theorem set (h : c.Reflects events) (f : Fingerprint) (paths : List String) (lifetime : Nat) :
    (c.set f paths lifetime).Reflects (events ++ [.stored ⟨f, paths, c.now, lifetime⟩]) := by
  constructor
  · intro g
    rw [lookup_set, kept?_stored, h.lookup]
    by_cases same : g = f
    · rw [if_pos same, if_pos same.symm]
      rfl
    · rw [if_neg same, if_neg (Ne.symm same)]
  · intro moment mem
    rcases List.mem_append.mp mem with mem | mem
    · exact h.past moment mem
    · cases List.mem_singleton.mp mem

/-- Purges that run up to a moment, seen from then. -/
theorem purges (h : c.Reflects events) {done moments : List Nat} {later : Nat} (le : c.now ≤ later)
    (bound : ∀ moment ∈ moments, moment ≤ later)
    (same : ∀ expiry, (∀ moment ∈ done, moment < expiry) ↔ ∀ moment ∈ moments, moment < expiry) :
    Reflects { done.foldl purgeAt c with now := later } (events ++ moments.map .purged) := by
  constructor
  · intro f
    show (done.foldl purgeAt c).entries.lookup f = _
    have agree (s : Stored) : done.all (· < s.expiry) = moments.all (· < s.expiry) := by
      rw [Bool.eq_iff_iff]
      simpa using same s.expiry
    rw [lookup_foldl_purgeAt, h.lookup, kept?_purged]
    cases kept? f events with
    | none => rfl
    | some s =>
      rw [Option.map_some, Option.filter_some, Option.filter_some, Stored.entry, agree]
      split_ifs <;> rfl
  · intro moment mem
    rcases List.mem_append.mp mem with mem | mem
    · exact Nat.le_trans (h.past moment mem) le
    · obtain ⟨other, among, eq⟩ := List.mem_map.mp mem
      cases eq
      exact bound _ among

/-- A purge is the event that one runs now. -/
theorem purge (h : c.Reflects events) : c.purge.2.Reflects (events ++ [.purged c.now]) := by
  have same (expiry : Nat) :
      (∀ moment ∈ [c.now], moment < expiry) ↔ ∀ moment ∈ [c.now], moment < expiry := Iff.rfl
  exact h.purges (Nat.le_refl _) (by simp) same

/-- As time passes, the ticks of the periodic purges are the events. -/
theorem advance (h : c.Reflects events) (duration : Nat) :
    (c.advance duration).Reflects (events ++ (c.clock.ticks duration).map .purged) := by
  exact h.purges (Nat.le_add_right _ _) (fun moment mem => (Clock.mem_ticks.mp mem).1.2)
    (c.forall_ticks_iff duration)

/-- What is found is what the events say. -/
theorem find?_eq (h : c.Reflects events) (f : Fingerprint) :
    c.find? f = found? f c.now events := by
  rw [c.find?_eq, live?, liveAt?, h.lookup, kept?, found?]
  cases latest : latest? f events with
  | none => rfl
  | some found =>
    rw [Option.filter_some, Option.filter_some]
    by_cases live : c.now < found.1.expiry
    · -- no purge that has run yet was late enough to remove it
      have spared : found.2.all (Event.spares found.1) = true := by
        rw [List.all_eq_true]
        intro e mem
        cases e with
        | stored s => rfl
        | purged moment =>
          have past := h.past moment (mem_of_latest? latest _ mem)
          exact decide_eq_true (Nat.lt_of_le_of_lt past live)
      rw [if_pos spared, if_pos (decide_eq_true live), Option.map_some, Option.map_some,
        Option.filter_some]
      exact congrArg _ (if_pos (decide_eq_true live))
    · have expired : ¬decide (c.now < found.1.expiry) = true := by simpa using live
      rw [if_neg expired]
      split_ifs
      · rw [Option.map_some, Option.map_some, Option.filter_some]
        exact congrArg _ (if_neg expired)
      · rfl

/-- Every step is what it does to the entries. -/
theorem step (h : c.Reflects events) (s : Step) :
    (c.step s).2.Reflects (events ++ c.clock.events s) := by
  cases s with
  | get f =>
    -- a look-up only counts
    rw [Clock.events, List.append_nil, PathCache.step, get]
    cases c.find? f <;> exact ⟨h.lookup, h.past⟩
  | set f paths lifetime => exact h.set f paths lifetime
  | insert f paths => exact h.set f paths c.ttl
  | purge => exact h.purge
  | startPurge =>
    rw [Clock.events, List.append_nil]
    exact ⟨h.lookup, h.past⟩
  | advance duration => exact h.advance duration

end Reflects

/-! ## Runs -/

/-- Purges change nothing but the entries. -/
theorem exists_foldl_purgeAt (c : PathCache) (moments : List Nat) :
    ∃ entries distinct, moments.foldl purgeAt c = { c with entries, distinct } := by
  induction moments generalizing c with
  | nil => exact ⟨c.entries, c.distinct, rfl⟩
  | cons moment moments ih => exact ih (c.purgeAt moment)

/-- The clock of a cache goes on with every step. -/
theorem clock_step (c : PathCache) (s : Step) : (c.step s).2.clock = c.clock.after s := by
  cases s with
  | get f =>
    rw [step, get]
    cases c.find? f <;> rfl
  | advance duration =>
    obtain ⟨entries, distinct, purged⟩ := c.exists_foldl_purgeAt (c.lastTicks duration)
    show clock { (c.lastTicks duration).foldl purgeAt c with now := c.now + duration } = _
    rw [purged]
    rfl
  | _ => rfl

theorem run_cons (c : PathCache) (s : Step) (steps : List Step) :
    c.run (s :: steps) =
      ((c.step s).1 :: ((c.step s).2.run steps).1, ((c.step s).2.run steps).2) := rfl

/-- The answers of a run are those of its first steps and then those of the others. -/
theorem run_append (c : PathCache) (first second : List Step) :
    c.run (first ++ second) =
      ((c.run first).1 ++ ((c.run first).2.run second).1, ((c.run first).2.run second).2) := by
  induction first generalizing c with
  | nil => rfl
  | cons s first ih => rw [List.cons_append, run_cons, run_cons, ih, List.cons_append]

/-- There is one answer for each step. -/
theorem length_run (c : PathCache) (steps : List Step) :
    (c.run steps).1.length = steps.length := by
  induction steps generalizing c with
  | nil => rfl
  | cons s steps ih => rw [run_cons, List.length_cons, ih, List.length_cons]

/-- A run leaves what its timeline says. -/
theorem Reflects.run {c : PathCache} {events : List Event} (h : c.Reflects events)
    (steps : List Step) : (c.run steps).2.Reflects (events ++ timeline c.clock steps) := by
  induction steps generalizing c events with
  | nil =>
    rw [timeline, List.append_nil]
    exact h
  | cons s steps ih =>
    rw [run_cons, timeline, ← clock_step, ← List.append_assoc]
    exact ih (h.step s)

/-- Steps take their time. -/
theorem now_run (c : PathCache) (steps : List Step) :
    (c.run steps).2.now = c.now + elapsed steps := by
  induction steps generalizing c with
  | nil => rfl
  | cons s steps ih =>
    have now : (c.step s).2.now = c.now + s.duration := by
      have clock := congrArg Clock.now (c.clock_step s)
      cases s <;> exact clock
    rw [run_cons, ih, now, Nat.add_assoc]
    rfl

/-- Whether a step stores paths or takes time. -/
def Step.counts : Step → Bool
  | .set .. | .insert .. | .advance _ => true
  | .get _ | .purge | .startPurge => false

/-- Only steps that count decide what was stored last. -/
theorem latest?_timeline_filter {k j : Clock} (ttl : k.ttl = j.ttl) (now : k.now = j.now)
    (f : Fingerprint) (steps : List Step) :
    (latest? f (timeline k (steps.filter Step.counts))).map (·.1) =
      (latest? f (timeline j steps)).map (·.1) := by
  induction steps generalizing k j with
  | nil => rfl
  | cons s steps ih =>
    -- what is stored first counts if nothing is stored later
    have first (g : Fingerprint) (paths : List String) (lifetime : Nat) :
        (latest? f (.stored ⟨g, paths, k.now, lifetime⟩ ::
            timeline k (steps.filter Step.counts))).map (·.1) =
          (latest? f (.stored ⟨g, paths, j.now, lifetime⟩ :: timeline j steps)).map (·.1) := by
      rw [latest?, latest?, Option.map_or, Option.map_or, ih ttl now, now]
      split_ifs <;> rfl
    cases s with
    | get g => exact ih ttl now
    | purge => exact ih ttl now
    | startPurge => exact ih ttl now
    | set g paths lifetime => exact first g paths lifetime
    | insert g paths =>
      have usual := first g paths k.ttl
      nth_rewrite 2 [ttl] at usual
      exact usual
    | advance duration =>
      have later : k.now + duration = j.now + duration := by rw [now]
      rw [List.filter_cons_of_pos rfl, timeline, timeline, Clock.events, Clock.events,
        latest?_append, latest?_append, latest?_purged, latest?_purged, Option.map_none,
        Option.map_none, Option.or_none, Option.or_none]
      exact ih (k := k.after (.advance duration)) (j := j.after (.advance duration)) ttl later

/-- Only steps that count take time. -/
theorem elapsed_filter (steps : List Step) :
    elapsed (steps.filter Step.counts) = elapsed steps := by
  induction steps with
  | nil => rfl
  | cons s steps ih =>
    cases s <;> simp_all [elapsed, Step.counts, Step.duration, List.filter_cons]

/-- A new cache holds nothing, and nothing has happened. -/
theorem reflects_new (ttl interval : Nat) : (new ttl interval).Reflects [] :=
  ⟨fun _ => rfl, fun _ mem => absurd mem List.not_mem_nil⟩

/-- Whether paths were found. -/
def Answer.isHit : Answer → Bool
  | .found (some _) => true
  | _ => false

/-- Each look-up raises the one count or the other. -/
theorem counts_run (c : PathCache) (steps : List Step) :
    (c.run steps).2.hits = c.hits + (c.run steps).1.countP Answer.isHit ∧
      (c.run steps).2.misses = c.misses + (c.run steps).1.count (.found none) := by
  induction steps generalizing c with
  | nil => exact ⟨rfl, rfl⟩
  | cons s steps ih =>
    have one : (c.step s).2.hits = c.hits + [(c.step s).1].countP Answer.isHit ∧
        (c.step s).2.misses = c.misses + [(c.step s).1].count (.found none) := by
      cases s with
      | get f =>
        rw [step, get]
        cases c.find? f <;> exact ⟨rfl, rfl⟩
      | advance duration =>
        obtain ⟨entries, distinct, purged⟩ := c.exists_foldl_purgeAt (c.lastTicks duration)
        show { (c.lastTicks duration).foldl purgeAt c with now := c.now + duration }.hits = _ ∧
          { (c.lastTicks duration).foldl purgeAt c with now := c.now + duration }.misses = _
        rw [purged]
        exact ⟨rfl, rfl⟩
      | _ => exact ⟨rfl, rfl⟩
    obtain ⟨hits, misses⟩ := ih (c.step s).2
    rw [run_cons, ← List.singleton_append, List.countP_append, List.count_append, hits, misses,
      one.1, one.2, Nat.add_assoc, Nat.add_assoc]
    exact ⟨rfl, rfl⟩

/-- The entries are those of the fingerprints under which something is kept. -/
theorem Reflects.size_eq {c : PathCache} {events : List Event} (h : c.Reflects events) :
    (c.size : ℕ∞) = {f | (kept? f events).isSome}.encard := by
  have keys : {f | (kept? f events).isSome} = ((c.entries.map (·.1)).toFinset : Set _) := by
    ext f
    have held : (c.entries.lookup f).isSome = (kept? f events).isSome := by
      rw [h.lookup, Option.isSome_map]
    rw [Set.mem_ofPred_eq, ← held, List.lookup_isSome_iff]
    simp
  have distinct : (c.entries.map (·.1)).Nodup := List.pairwise_map.mpr c.distinct
  rw [keys, Set.encard_coe_eq_coe_finsetCard, List.toFinset_card_of_nodup distinct, List.length_map,
    size]

/-- What a look-up after a run finds. -/
theorem answer_get (ttl interval : Nat) (before after : List Step) (f : Fingerprint) :
    ((new ttl interval).run (before ++ .get f :: after)).1[before.length]? =
      some (.found (found? f (elapsed before) (timeline ⟨ttl, interval, 0, []⟩ before))) := by
  have reflects := (reflects_new ttl interval).run before
  have now := (new ttl interval).now_run before
  have answer (c : PathCache) : (c.step (.get f)).1 = .found (c.find? f) := by
    rw [step, get]
    cases c.find? f <;> rfl
  rw [run_append, List.getElem?_append_right (Nat.le_of_eq (length_run ..)), length_run,
    Nat.sub_self, run_cons, List.getElem?_cons_zero, answer, reflects.find?_eq, now,
    List.nil_append]
  show some (Answer.found (found? f (0 + elapsed before) _)) = _
  rw [Nat.zero_add]
  rfl

/-- What is found depends on what was stored last only. -/
theorem found?_congr {f : Fingerprint} {now : Nat} {events events' : List Event}
    (h : (latest? f events).map (·.1) = (latest? f events').map (·.1)) :
    found? f now events = found? f now events' := by
  have last (events : List Event) : found? f now events =
      (((latest? f events).map (·.1)).filter fun s => now < s.expiry).map (·.paths) := by
    rw [found?, Option.filter_map, Option.map_map]
    rfl
  rw [last, last, h]

/-- A cache is a timed map.  In a run of a new cache, a look-up finds the paths stored last under
its fingerprint, unless they have expired, and finds the same if all other look-ups and all purges
are left out of the run.  The counts are those of the look-ups that found paths and of the others,
and there are as many entries as fingerprints whose paths no purge has removed. -/
theorem run_timed_map (ttl interval : Nat) :
    (∀ before f after,
      let answer := ((new ttl interval).run (before ++ .get f :: after)).1[before.length]?
      answer = some (.found (found? f (elapsed before) (timeline ⟨ttl, interval, 0, []⟩ before))) ∧
        answer = ((new ttl interval).run (before.filter Step.counts ++ [.get f])).1.getLast?) ∧
    ∀ steps,
      let (answers, c) := (new ttl interval).run steps
      c.hits = answers.countP Answer.isHit ∧ c.misses = answers.count (.found none) ∧
        (c.size : ℕ∞) =
          {f | (kept? f (timeline ⟨ttl, interval, 0, []⟩ steps)).isSome}.encard := by
  refine ⟨fun before f after => ⟨answer_get .., ?_⟩, fun steps => ⟨?_, ?_, ?_⟩⟩
  · -- the bare run answers last what the full one answers there
    have bare := answer_get ttl interval (before.filter Step.counts) [] f
    rw [List.getLast?_eq_getElem?, length_run, List.length_append, List.length_singleton,
      Nat.add_sub_cancel, bare, answer_get, elapsed_filter,
      found?_congr (latest?_timeline_filter rfl rfl f before)]
  · have counts := ((new ttl interval).counts_run steps).1
    exact counts.trans (Nat.zero_add _)
  · have counts := ((new ttl interval).counts_run steps).2
    exact counts.trans (Nat.zero_add _)
  · exact ((reflects_new ttl interval).run steps).size_eq

/-- A purge at the expiry removes an entry, and one before it does not. -/
example : (kept? ⟨1⟩ [.stored ⟨⟨1⟩, ["a"], 5, 10⟩, .purged 14]).isSome ∧
    (kept? ⟨1⟩ [.stored ⟨⟨1⟩, ["a"], 5, 10⟩, .purged 15]).isNone := by decide

end MetricPath.PathCache
