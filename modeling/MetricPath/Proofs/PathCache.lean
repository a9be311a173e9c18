import Mathlib.Tactic.SplitIfs
import MetricPath.PathCache

/-!
# What the cache remembers

Of the entries of a cache only those matter that have not expired (`liveAt?`), for only these are
found.  The lemmas here say what each operation does to them: storing sets one, looking up and
purging change none, and as time passes they expire.

A purge may remove only what has expired by the moment at which it runs, and that moment is never
after the present (`lastTick?_le`).  So the live entries at the present do not depend on it.
-/

namespace MetricPath.PathCache

variable {f g : Fingerprint} {moment : Nat}

/-! ## Entries under distinct fingerprints -/

/-- Under distinct fingerprints a filter keeps an entry or removes it. -/
theorem lookup_filter {entries : List (Fingerprint × CacheEntry)}
    (distinct : entries.Pairwise fun a b => a.1 ≠ b.1) (p : CacheEntry → Bool) (f : Fingerprint) :
    (entries.filter fun e => p e.2).lookup f = (entries.lookup f).filter p := by
  induction entries with
  | nil => rfl
  | cons e entries ih =>
    obtain ⟨key, e⟩ := e
    obtain ⟨others, rest⟩ := List.pairwise_cons.mp distinct
    by_cases same : f = key
    · subst same
      rw [List.lookup_cons_self, Option.filter_some]
      by_cases keep : p e
      · rw [List.filter_cons_of_pos (by exact keep), List.lookup_cons_self, if_pos keep]
      · -- what is removed has no second entry behind it
        have absent : entries.lookup f = none :=
          List.lookup_eq_none_iff.mpr fun a ha => bne_iff_ne.mpr (others a ha)
        rw [List.filter_cons_of_neg (by exact keep), ih rest, absent, if_neg keep]
        rfl
    · have differ : (f == key) = false := beq_false_of_ne same
      by_cases keep : p e
      · rw [List.filter_cons_of_pos (by exact keep), List.lookup_cons, differ, List.lookup_cons,
          differ]
        exact ih rest
      · rw [List.filter_cons_of_neg (by exact keep), List.lookup_cons, differ]
        exact ih rest

/-- Removing a fingerprint leaves the entries of the others. -/
theorem lookup_filter_ne (entries : List (Fingerprint × CacheEntry)) (h : g ≠ f) :
    (entries.filter fun e => e.1 ≠ f).lookup g = entries.lookup g := by
  induction entries with
  | nil => rfl
  | cons e entries ih =>
    by_cases same : e.1 = f
    · have differ : (g == e.1) = false := beq_false_of_ne (same ▸ h)
      rw [List.filter_cons_of_neg (by simpa using same), ih, List.lookup_cons, differ]
    · rw [List.filter_cons_of_pos (by simpa using same), List.lookup_cons, List.lookup_cons, ih]

/-! ## Live entries -/

/-- What lives at a moment lives at every earlier one. -/
theorem filter_expiry {earlier : Nat} (h : earlier ≤ moment) (found : Option CacheEntry) :
    (found.filter fun e => earlier < e.expiry).filter (fun e => moment < e.expiry) =
      found.filter fun e => moment < e.expiry := by
  rw [Option.filter_filter]
  congr 1
  funext e
  rw [Bool.and_eq_right_iff_imp]
  intro live
  exact decide_eq_true (Nat.lt_of_le_of_lt h (of_decide_eq_true live))

/-- The entry of a fingerprint, if it has not expired at a moment. -/
def liveAt? (c : PathCache) (moment : Nat) (f : Fingerprint) : Option CacheEntry :=
  (c.entries.lookup f).filter fun e => moment < e.expiry

/-- The entry of a fingerprint, if it has not expired. -/
def live? (c : PathCache) (f : Fingerprint) : Option CacheEntry := c.liveAt? c.now f

/-- What is found are the paths of the live entry. -/
theorem find?_eq (c : PathCache) (f : Fingerprint) : c.find? f = (c.live? f).map (·.paths) := by
  rw [find?, live?, liveAt?]
  cases c.entries.lookup f with
  | none => rfl
  | some e =>
    rw [Option.filter_some]
    dsimp only
    by_cases live : c.now < e.expiry
    · rw [if_pos live, if_pos (decide_eq_true live)]
      rfl
    · rw [if_neg live, if_neg (by simpa using live)]
      rfl

/-- Storing sets the entry of one fingerprint. -/
theorem lookup_set (c : PathCache) (f : Fingerprint) (paths : List String) (lifetime : Nat)
    (g : Fingerprint) :
    (c.set f paths lifetime).entries.lookup g =
      if g = f then some ⟨paths, c.now + lifetime⟩ else c.entries.lookup g := by
  rw [set]
  split_ifs with same
  · rw [same, List.lookup_cons_self]
  · rw [List.lookup_cons, beq_false_of_ne same]
    exact lookup_filter_ne c.entries same

/-- A purge removes nothing that lives at its moment or later. -/
theorem liveAt?_purgeAt (c : PathCache) {tick : Nat} (h : tick ≤ moment) (f : Fingerprint) :
    (c.purgeAt tick).liveAt? moment f = c.liveAt? moment f := by
  -- the purge filters by expiry, and being live at a later moment is the stronger condition
  rw [liveAt?, purgeAt, lookup_filter c.distinct (fun e => tick < e.expiry), filter_expiry h,
    liveAt?]

/-- Purging changes no live entry. -/
theorem live?_purge (c : PathCache) (f : Fingerprint) : c.purge.2.live? f = c.live? f :=
  c.liveAt?_purgeAt (Nat.le_refl c.now) f

/-- A periodic purge never runs after the present. -/
theorem lastTick?_le {interval start now tick : Nat}
    (h : lastTick? interval start now = some tick) : tick ≤ now := by
  rw [lastTick?] at h
  split_ifs at h with none
  rw [not_or] at none
  cases h
  -- at least one round has passed, so the start is before the present
  have bound := Nat.div_mul_le_self (now - start) interval
  have positive : 0 < (now - start) / interval * interval :=
    Nat.mul_pos (Nat.pos_of_ne_zero none.2) (Nat.pos_of_ne_zero none.1)
  omega

/-- Purges up to a moment change no entry that lives then. -/
theorem liveAt?_foldl_purgeAt (c : PathCache) {ticks : List Nat} (h : ∀ tick ∈ ticks, tick ≤ moment)
    (f : Fingerprint) : (ticks.foldl purgeAt c).liveAt? moment f = c.liveAt? moment f := by
  induction ticks generalizing c with
  | nil => rfl
  | cons tick ticks ih =>
    rw [List.foldl_cons, ih _ fun later hl => h later (List.mem_cons_of_mem _ hl),
      liveAt?_purgeAt c (h tick List.mem_cons_self)]

/-- After some time those entries live that have not expired by then. -/
theorem live?_advance (c : PathCache) (duration : Nat) (f : Fingerprint) :
    (c.advance duration).live? f = c.liveAt? (c.now + duration) f := by
  refine liveAt?_foldl_purgeAt c (fun tick ht => ?_) f
  obtain ⟨start, -, h⟩ := List.mem_filterMap.mp ht
  exact lastTick?_le (Option.filter_eq_some_iff.mp h).1

/-- What lives later are those of the live entries that have not expired by then. -/
theorem liveAt?_of_le (c : PathCache) (h : c.now ≤ moment) (f : Fingerprint) :
    c.liveAt? moment f = (c.live? f).filter fun e => moment < e.expiry := by
  rw [live?, liveAt?, liveAt?, filter_expiry h]

/-- The usual lifetime stays as time passes. -/
@[simp] theorem ttl_advance (c : PathCache) (duration : Nat) :
    (c.advance duration).ttl = c.ttl := by
  have purges (c : PathCache) (ticks : List Nat) : (ticks.foldl purgeAt c).ttl = c.ttl := by
    induction ticks generalizing c with
    | nil => rfl
    | cons tick ticks ih => exact ih (c.purgeAt tick)
  exact purges c _

@[simp] theorem now_advance (c : PathCache) (duration : Nat) :
    (c.advance duration).now = c.now + duration := rfl

end MetricPath.PathCache
