import MetricPath.LabelSet

/-!
# Remembered paths

Paths are remembered by fingerprint for a limited time.  An entry that has expired is not found
any more, but stays until it is overwritten or purged; purges can be asked for and also run
periodically.

Time is a number of nanoseconds that only `PathCache.advance` moves, and it runs the periodic
purges whose moments it passes.  So the state of a cache is a function of the steps taken
(`PathCache.run`).
-/

namespace MetricPath

/-- Remembered paths and the time from which on they are not found. -/
structure CacheEntry where
  paths : List String
  expiry : Nat
deriving DecidableEq, Repr

/-- Paths by fingerprint, at a moment. -/
structure PathCache where
  entries : List (Fingerprint × CacheEntry)
  /-- No fingerprint has two entries. -/
  distinct : entries.Pairwise fun a b => a.1 ≠ b.1
  /-- The lifetime of entries stored without one of their own. -/
  ttl : Nat
  /-- The interval of periodic purges. -/
  purgeInterval : Nat
  hits : Nat
  misses : Nat
  now : Nat
  /-- The moments at which periodic purges were started. -/
  purgeStarts : List Nat

namespace PathCache

/-- A cache without entries, at the moment zero. -/
def new (ttl purgeInterval : Nat) : PathCache :=
  ⟨[], List.Pairwise.nil, ttl, purgeInterval, 0, 0, 0, []⟩

/-- How many entries there are, expired ones included. -/
def size (c : PathCache) : Nat := c.entries.length

def isEmpty (c : PathCache) : Bool := c.entries.isEmpty

/-- The paths of a fingerprint, unless they are absent or expired. -/
def find? (c : PathCache) (f : Fingerprint) : Option (List String) :=
  match c.entries.lookup f with
  | some e => if c.now < e.expiry then some e.paths else none
  | none => none

/-- Look up the paths of a fingerprint and count the result. -/
def get (c : PathCache) (f : Fingerprint) : Option (List String) × PathCache :=
  match c.find? f with
  | some paths => (some paths, { c with hits := c.hits + 1 })
  | none => (none, { c with misses := c.misses + 1 })

/-- Store paths for a lifetime, in place of what was stored. -/
def set (c : PathCache) (f : Fingerprint) (paths : List String) (lifetime : Nat) : PathCache :=
  { c with
    entries := (f, ⟨paths, c.now + lifetime⟩) :: c.entries.filter fun e => e.1 ≠ f
    distinct := List.pairwise_cons.mpr
      ⟨fun _ kept => Ne.symm (of_decide_eq_true (List.mem_filter.mp kept).2),
        c.distinct.filter _⟩ }

/-- Store paths for the usual lifetime. -/
def insert (c : PathCache) (f : Fingerprint) (paths : List String) : PathCache :=
  c.set f paths c.ttl

/-- The cache without the entries that have expired at a moment. -/
def purgeAt (c : PathCache) (moment : Nat) : PathCache :=
  { c with
    entries := c.entries.filter fun e => moment < e.2.expiry
    distinct := c.distinct.filter _ }

/-- Remove expired entries; also how many there were. -/
def purge (c : PathCache) : Nat × PathCache :=
  let after := c.purgeAt c.now
  (c.size - after.size, after)

/-- Start a periodic purge.  It runs one interval from now for the first time. -/
def startPurge (c : PathCache) : PathCache := { c with purgeStarts := c.now :: c.purgeStarts }

/-- The last moment up to `now` at which a purge that was started at `start` runs; the start
itself is none. -/
def lastTick? (interval start now : Nat) : Option Nat :=
  let rounds := (now - start) / interval
  if interval = 0 ∨ rounds = 0 then none else some (start + rounds * interval)

/-- Let time pass and run the periodic purges on the way.  Of the runs of one purge the last removes
whatever an earlier one would have removed. -/
def advance (c : PathCache) (duration : Nat) : PathCache :=
  let now := c.now + duration
  let ticks := c.purgeStarts.filterMap fun start =>
    (lastTick? c.purgeInterval start now).filter fun tick => c.now < tick
  { ticks.foldl purgeAt c with now }

/-! ## Runs -/

/-- What can be done with a cache. -/
inductive Step where
  | get (f : Fingerprint)
  | set (f : Fingerprint) (paths : List String) (lifetime : Nat)
  | insert (f : Fingerprint) (paths : List String)
  | purge
  | startPurge
  | advance (duration : Nat)

/-- The answer to a step. -/
inductive Answer where
  | done
  | found (paths? : Option (List String))
  | removed (count : Nat)
deriving DecidableEq

/-- One step. -/
def step (c : PathCache) : Step → Answer × PathCache
  | .get f => let (paths?, c) := c.get f; (.found paths?, c)
  | .set f paths lifetime => (.done, c.set f paths lifetime)
  | .insert f paths => (.done, c.insert f paths)
  | .purge => let (count, c) := c.purge; (.removed count, c)
  | .startPurge => (.done, c.startPurge)
  | .advance duration => (.done, c.advance duration)

/-- The answers to a run of steps, and the cache after it. -/
def run (c : PathCache) : List Step → List Answer × PathCache
  | [] => ([], c)
  | s :: steps =>
    let (answer, c) := c.step s
    let (answers, c) := c.run steps
    (answer :: answers, c)

end PathCache

/-- Whether a periodic purge has ended by `now`, the cache being gone since `gone?`.  It ends at the
first moment after that at which it would run; one without an interval ends at once. -/
def purgeEnded (interval start : Nat) (gone? : Option Nat) (now : Nat) : Bool :=
  interval = 0 ||
    match gone?, PathCache.lastTick? interval start now with
    | some gone, some tick => gone < tick
    | _, _ => false

end MetricPath
