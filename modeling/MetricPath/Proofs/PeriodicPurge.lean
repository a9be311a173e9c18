import MetricPath.Proofs.CacheRuns

/-!
# How long expired entries stay

While a periodic purge runs, expired entries do not pile up: at every moment all entries outlive the
last tick of the purge, so what has expired did so less than one interval ago (`expired_recently`).

The invariant is `Swept`: no tick up to the present is as late as the expiry of an entry.  Storing
keeps it, because a new entry outlives the present; as time passes, the ticks on the way remove what
they find expired.  No more is asked of the entries before the first tick, which may be any.
-/

namespace MetricPath.PathCache

/-! ## Ticks -/

section Ticks

variable {interval start tick moment : Nat}

/-- One interval after a tick comes another one. -/
theorem Ticks.next (h : Ticks interval start tick) : Ticks interval start (tick + interval) := by
  refine ⟨Nat.lt_add_right interval h.1, ?_⟩
  rw [Nat.sub_add_comm (Nat.le_of_lt h.1)]
  exact Nat.dvd_add h.2 (Nat.dvd_refl interval)

/-- From one interval after the start on there is a last tick, less than an interval ago. -/
theorem exists_lastTick (positive : 0 < interval) {now : Nat} (late : start + interval ≤ now) :
    ∃ tick, Ticks interval start tick ∧ tick ≤ now ∧ now < tick + interval ∧
      ∀ moment ≤ now, Ticks interval start moment → moment ≤ tick := by
  have first : Ticks interval start (start + interval) := by
    refine ⟨Nat.lt_add_of_pos_right positive, ?_⟩
    rw [Nat.add_sub_cancel_left]
  cases found : lastTick? interval start now with
  | none => exact absurd first (lastTick?_eq_none found late)
  | some tick =>
    obtain ⟨is, last⟩ := lastTick?_eq_some found
    refine ⟨tick, is, lastTick?_le found, Nat.lt_of_not_le fun past => ?_, last⟩
    have := last (tick + interval) past is.next
    omega

end Ticks

/-! ## One step -/

/-- Whether what a step stores does not expire at once. -/
def Step.Lasts (ttl : Nat) : Step → Prop
  | .set _ _ lifetime => 0 < lifetime
  | .insert _ _ => 0 < ttl
  | .get _ | .purge | .startPurge | .advance _ => True

instance (ttl : Nat) : DecidablePred (Step.Lasts ttl)
  | .set _ _ lifetime => inferInstanceAs (Decidable (0 < lifetime))
  | .insert _ _ => inferInstanceAs (Decidable (0 < ttl))
  | .get _ | .purge | .startPurge | .advance _ => inferInstanceAs (Decidable True)

/-- The entries that outlive some purges. -/
theorem mem_foldl_purgeAt (c : PathCache) (moments : List Nat) (e : Fingerprint × CacheEntry) :
    e ∈ (moments.foldl purgeAt c).entries ↔
      e ∈ c.entries ∧ ∀ moment ∈ moments, moment < e.2.expiry := by
  induction moments generalizing c with
  | nil => simp
  | cons moment moments ih =>
    rw [List.foldl_cons, ih, purgeAt, List.mem_filter, List.forall_mem_cons, decide_eq_true_eq,
      and_assoc]

/-- A periodic purge has been started, and every entry outlives all its ticks up to the present. -/
structure Swept (start : Nat) (c : PathCache) : Prop where
  started : start ∈ c.purgeStarts
  outlives : ∀ moment ≤ c.now, Ticks c.purgeInterval start moment →
    ∀ e ∈ c.entries, moment < e.2.expiry

namespace Swept

variable {c : PathCache} {start : Nat}

/-- Nothing is asked of the entries when the purge is started. -/
theorem startPurge (c : PathCache) : c.startPurge.Swept c.now :=
  ⟨List.mem_cons_self, fun _ past tick => absurd tick.1 (Nat.not_lt.mpr past)⟩

/-- A new entry outlives the present. -/
theorem set (h : c.Swept start) (f : Fingerprint) (paths : List String) {lifetime : Nat}
    (positive : 0 < lifetime) : (c.set f paths lifetime).Swept start where
  started := h.started
  outlives moment past tick := by
    refine List.forall_mem_cons.mpr ⟨?_, fun e kept => ?_⟩
    · exact Nat.lt_of_le_of_lt past (Nat.lt_add_of_pos_right positive)
    · exact h.outlives moment past tick e (List.mem_of_mem_filter kept)

/-- The ticks that pass are run, and they leave nothing that has expired by then. -/
theorem advance (h : c.Swept start) (duration : Nat) : (c.advance duration).Swept start := by
  have same : (c.advance duration).clock = c.clock.after (.advance duration) :=
    c.clock_step (.advance duration)
  have starts : (c.advance duration).purgeStarts = c.purgeStarts := congrArg Clock.starts same
  have interval : (c.advance duration).purgeInterval = c.purgeInterval :=
    congrArg Clock.interval same
  refine ⟨starts ▸ h.started, fun moment past tick e among => ?_⟩
  rw [interval] at tick
  obtain ⟨before, outlives⟩ := (c.mem_foldl_purgeAt (c.lastTicks duration) e).mp among
  rcases Nat.lt_or_ge c.now moment with later | earlier
  · exact (c.forall_ticks_iff duration e.2.expiry).mp outlives moment
      (Clock.mem_ticks.mpr ⟨⟨later, past⟩, start, h.started, tick⟩)
  · exact h.outlives moment earlier tick e before

/-- Every step keeps the invariant. -/
theorem step (h : c.Swept start) {s : Step} (lasts : s.Lasts c.ttl) : (c.step s).2.Swept start := by
  cases s with
  | get f =>
    rw [PathCache.step, get]
    cases c.find? f <;> exact ⟨h.started, h.outlives⟩
  | set f paths lifetime => exact h.set f paths lasts
  | insert f paths => exact h.set f paths lasts
  | purge =>
    exact ⟨h.started, fun moment past tick e kept =>
      h.outlives moment past tick e (List.mem_of_mem_filter kept)⟩
  | startPurge => exact ⟨List.mem_cons_of_mem c.now h.started, h.outlives⟩
  | advance duration => exact h.advance duration

/-! ## Runs -/

/-- The lifetime and the interval of a cache never change. -/
theorem settings_run (c : PathCache) (steps : List Step) :
    (c.run steps).2.ttl = c.ttl ∧ (c.run steps).2.purgeInterval = c.purgeInterval := by
  induction steps generalizing c with
  | nil => exact ⟨rfl, rfl⟩
  | cons s steps ih =>
    have clock := c.clock_step s
    have ttl : (c.step s).2.ttl = c.ttl := (congrArg Clock.ttl clock).trans (by cases s <;> rfl)
    have interval : (c.step s).2.purgeInterval = c.purgeInterval :=
      (congrArg Clock.interval clock).trans (by cases s <;> rfl)
    rw [run_cons, ← ttl, ← interval]
    exact ih _

/-- So does a run. -/
theorem run (h : c.Swept start) {steps : List Step} (lasts : ∀ s ∈ steps, s.Lasts c.ttl) :
    (c.run steps).2.Swept start := by
  induction steps generalizing c with
  | nil => exact h
  | cons s steps ih =>
    obtain ⟨first, others⟩ := List.forall_mem_cons.mp lasts
    have ttl : (c.step s).2.ttl = c.ttl := (settings_run c [s]).1
    rw [run_cons]
    exact ih (h.step first) (ttl ▸ others)

end Swept

/-- While a periodic purge runs, expired entries are removed in time.  In a run in which nothing is
stored that expires at once, from one interval after the start of the purge on, there is a last
tick, all entries outlive it, and those that have expired did so less than one interval ago. -/
theorem expired_recently (c : PathCache) (positive : 0 < c.purgeInterval) {steps : List Step}
    (lasts : ∀ s ∈ steps, s.Lasts c.ttl) :
    let after := (c.run (.startPurge :: steps)).2
    c.now + c.purgeInterval ≤ after.now →
      ∃ tick ≤ after.now, Ticks c.purgeInterval c.now tick ∧
        (∀ moment ≤ after.now, Ticks c.purgeInterval c.now moment → moment ≤ tick) ∧
        ∀ e ∈ after.entries, tick < e.2.expiry ∧
          (e.2.expiry ≤ after.now → after.now - e.2.expiry < c.purgeInterval) := by
  intro after late
  have swept : after.Swept c.now := (Swept.startPurge c).run lasts
  have interval : after.purgeInterval = c.purgeInterval :=
    (Swept.settings_run c (.startPurge :: steps)).2
  obtain ⟨tick, is, past, recent, last⟩ := exists_lastTick positive late
  refine ⟨tick, past, is, last, fun e among => ?_⟩
  have outlives : tick < e.2.expiry := swept.outlives tick past (interval ▸ is) e among
  exact ⟨outlives, fun expired => by omega⟩

/-- An entry that expires on a tick does not outlive it, and one that is stored on a tick does.  The
clock passes two ticks at once here. -/
theorem expired_recently_on_ticks :
    let steps : List Step := [.set ⟨1⟩ ["a"] 20, .advance 25, .set ⟨2⟩ ["b"] 5, .advance 5,
      .insert ⟨3⟩ ["c"], .advance 3]
    let after := ((new 2 10).run (.startPurge :: steps)).2
    (∀ s ∈ steps, s.Lasts 2) ∧ after.now = 33 ∧ after.entries.map (·.1) = [⟨3⟩] ∧
      ∀ e ∈ after.entries, 30 < e.2.expiry ∧ (e.2.expiry ≤ 33 → 33 - e.2.expiry < 10) := by
  intro steps after
  have lasts : ∀ s ∈ steps, s.Lasts (new 2 10).ttl := by decide
  obtain ⟨tick, past, is, last, all⟩ := expired_recently (new 2 10) (by decide) lasts (by decide)
  have thirty : tick = 30 := by
    have lower : 30 ≤ tick := last 30 (by decide) (by decide)
    have upper : tick ≤ 33 := past
    obtain ⟨k, rounds⟩ := is.2
    have rounds : tick - 0 = 10 * k := rounds
    omega
  exact ⟨lasts, rfl, rfl, thirty ▸ all⟩

end MetricPath.PathCache
