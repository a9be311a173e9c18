import MetricPath.Proofs.PathCache
import MetricPath.Proofs.RuleWalk
import MetricPath.Translator

/-!
# Runs of a translator

A run makes requests for paths, by asking for them or by writing samples, and between these it
replaces the configuration, purges and lets time pass.  Its `history` lists the requests, each with
the translator as it finds it.

What is remembered at any time is what the history says (`Remembers`): the live entry of a
fingerprint is the entry that the latest request stored that computed paths under it, as long as
that has not expired.  Every step keeps this, so every request either recalls the answer of that
latest request or computes its own (`Explained`).
-/

namespace MetricPath

namespace Translator

/-! ## Steps -/

/-- What can be done with a translator. -/
inductive Step where
  | paths (m : LabelSet) (beginning? : Option String)
  | datapoints (s : Sample) (beginning? : Option String)
  | encodeBatch (samples : List Sample) (beginning? : Option String) (limit? : Option Nat)
  | reload (config : PathConfig)
  | purge
  | startPurge
  | advance (duration : Nat)

/-- The translator after a step. -/
def after (t : Translator) : Step → Translator
  | .paths m beginning? => (t.paths m beginning?).2
  | .datapoints s beginning? => (t.datapoints s beginning?).2
  | .encodeBatch samples beginning? limit? => (t.encodeBatch samples beginning? limit?).2
  | .reload config => t.reload config
  | .purge => t.purge.2
  | .startPurge => t.startPurge.2
  | .advance duration => t.advance duration

/-- The present moment. -/
def now (t : Translator) : Nat := (t.cache?.map PathCache.now).getD 0

/-- The entry stored under a fingerprint, expired or not. -/
def stored? (t : Translator) (f : Fingerprint) : Option CacheEntry :=
  t.cache?.bind fun c => c.entries.lookup f

end Translator

/-- A request for the paths of a label set, with the translator as it finds it. -/
structure PathRequest where
  labels : LabelSet
  beginning? : Option String
  before : Translator

namespace PathRequest

def answer (r : PathRequest) : Except PathError (List String) :=
  (r.before.paths r.labels r.beginning?).1

/-- The translator after the request. -/
def after (r : PathRequest) : Translator := (r.before.paths r.labels r.beginning?).2

def time (r : PathRequest) : Nat := r.before.now

def fingerprint (r : PathRequest) : Fingerprint := r.labels.fingerprint

/-- The beginning that was asked for: the configured one, if no other is given. -/
def beginning (r : PathRequest) : String := r.beginning?.getD r.before.config.beginning

/-- Whether the request computed paths: it missed and did not fail. -/
def isComputed (r : PathRequest) : Bool :=
  decide (r.before.misses < r.after.misses) && r.answer.toBool

/-- Whether the request computed the paths of a fingerprint. -/
def isComputedFor (f : Fingerprint) (r : PathRequest) : Bool :=
  r.isComputed && decide (r.fingerprint = f)

/-- The latest of some requests that computed the paths of a fingerprint. -/
def latest? (requests : List PathRequest) (f : Fingerprint) : Option PathRequest :=
  (requests.filter (isComputedFor f)).getLast?

end PathRequest

namespace Translator

/-- The requests of a sample.  One that cannot be written makes none. -/
def sampleRequests (t : Translator) (s : Sample) (beginning? : Option String) :
    List PathRequest :=
  if s.isWritable then [⟨s.labels, beginning?, t⟩] else []

/-- The requests of samples written one after the other. -/
def batchRequests (t : Translator) (beginning? : Option String) :
    List Sample → List PathRequest
  | [] => []
  | s :: samples =>
    t.sampleRequests s beginning? ++ (t.datapoints s beginning?).2.batchRequests beginning? samples

/-- The requests of a step. -/
def requests (t : Translator) : Step → List PathRequest
  | .paths m beginning? => [⟨m, beginning?, t⟩]
  | .datapoints s beginning? => t.sampleRequests s beginning?
  | .encodeBatch samples beginning? _ => t.batchRequests beginning? samples
  | _ => []

/-- The requests of a run. -/
def history (t : Translator) : List Step → List PathRequest
  | [] => []
  | s :: steps => t.requests s ++ (t.after s).history steps

end Translator

namespace PathRequest

/-! ## Requests explained by the history -/

/-- A request that repeats an earlier answer.  It executes no template and stores nothing. -/
structure Recalls (r q : PathRequest) : Prop where
  answer : r.answer = q.answer
  computed : r.isComputed = false
  activity : r.after.activity = r.before.activity
  stored : ∀ f, r.after.stored? f = r.before.stored? f

/-- A request that answers as the configuration gives it for the labels and the beginning, whatever
the activity before, and stores the answer for a lifetime unless it failed. -/
structure Computes (lifetime : Nat) (r : PathRequest) : Prop where
  answer : ∀ activity,
    r.answer = ((r.before.config.route r.beginning r.labels).run.run activity).1
  computed : r.isComputed = r.answer.toBool
  stored : ∀ f, r.after.stored? f =
    match r.answer with
    | .ok paths =>
      if f = r.fingerprint then some ⟨paths, r.time + lifetime⟩ else r.before.stored? f
    | .error _ => r.before.stored? f

/-- What earlier requests say about a request: it recalls the latest computed one under its
fingerprint if the lifetime of that has not ended, and otherwise computes its own paths. -/
def Explained (lifetime : Nat) (earlier : List PathRequest) (r : PathRequest) : Prop :=
  match (latest? earlier r.fingerprint).filter fun q => r.time < q.time + lifetime with
  | some q => r.Recalls q
  | none => r.Computes lifetime

/-- The entry that a request leaves behind, if it computes paths. -/
def deposit? (lifetime : Nat) (q : PathRequest) : Option CacheEntry :=
  q.answer.toOption.map fun paths => ⟨paths, q.time + lifetime⟩

/-- The latest request after one more. -/
theorem latest?_concat (earlier : List PathRequest) (r : PathRequest) (f : Fingerprint) :
    latest? (earlier ++ [r]) f = if r.isComputedFor f then some r else latest? earlier f := by
  rw [latest?, List.filter_append]
  by_cases counts : r.isComputedFor f
  · rw [List.filter_cons_of_pos counts, List.filter_nil, List.getLast?_concat, if_pos counts]
  · rw [List.filter_cons_of_neg counts, List.filter_nil, List.append_nil, if_neg counts, latest?]

/-- The latest request is one of them, and it computed paths. -/
theorem mem_of_latest? {requests : List PathRequest} {f : Fingerprint} {q : PathRequest}
    (h : latest? requests f = some q) : q ∈ requests ∧ q.isComputed := by
  obtain ⟨mem, found⟩ := List.mem_filter.mp (List.mem_of_getLast? h)
  exact ⟨mem, (Bool.and_eq_true_iff.mp found).1⟩

/-- A request that computed paths has an answer. -/
theorem exists_answer {q : PathRequest} (h : q.isComputed) : ∃ paths, q.answer = .ok paths := by
  cases answer : q.answer with
  | error e =>
    have fine := (Bool.and_eq_true_iff.mp h).2
    rw [answer] at fine
    cases fine
  | ok paths => exact ⟨paths, rfl⟩

end PathRequest

namespace Translator

open PathRequest

/-! ## One request -/

section Request

variable {t : Translator} {c : PathCache} {m : LabelSet} {beginning? : Option String}

/-- Generated paths are what the configuration means. -/
theorem generate_fst (t : Translator) (m : LabelSet) (beginning? : Option String) :
    (t.generate m beginning?).1 =
      t.config.meaning (beginning?.getD t.config.beginning) m := by
  obtain ⟨patterns, run⟩ :=
    t.config.route_run (beginning?.getD t.config.beginning) m t.activity
  rw [generate, run]

/-- Without a cache paths are generated. -/
theorem paths_of_uncached (uncached : t.cache? = none) :
    t.paths m beginning? = t.generate m beginning? := by
  rw [Translator.paths, uncached]

/-- Remembered paths are returned, and the hit is counted. -/
theorem paths_of_found (cached : t.cache? = some c) {paths : List String}
    (found : c.find? m.fingerprint = some paths) :
    t.paths m beginning? =
      (.ok paths, { t with cache? := some { c with hits := c.hits + 1 } }) := by
  rw [Translator.paths, cached]
  dsimp only
  rw [PathCache.get, found]

/-- Other paths are generated, and the miss is counted; they are stored if there are any. -/
theorem paths_of_not_found (cached : t.cache? = some c)
    (missing : c.find? m.fingerprint = none) :
    t.paths m beginning? =
      ((t.generate m beginning?).1, { (t.generate m beginning?).2 with
        cache? := some (match (t.generate m beginning?).1 with
          | .ok paths => { c with misses := c.misses + 1 }.insert m.fingerprint paths
          | .error _ => { c with misses := c.misses + 1 }) }) := by
  rw [Translator.paths, cached]
  dsimp only
  rw [PathCache.get, missing]
  rcases t.generate m beginning? with ⟨_ | _, _⟩ <;> rfl

/-- A request changes nothing but what is remembered and the activity, and takes no time. -/
theorem paths_snd (t : Translator) (m : LabelSet) (beginning? : Option String) :
    ∃ cache? activity, (t.paths m beginning?).2 = { t with cache?, activity } ∧
      cache?.map PathCache.now = t.cache?.map PathCache.now := by
  cases cached : t.cache? with
  | none =>
    rw [paths_of_uncached cached]
    exact ⟨t.cache?, _, rfl, by rw [cached]⟩
  | some c =>
    cases found : c.find? m.fingerprint with
    | some paths =>
      rw [paths_of_found cached found]
      exact ⟨_, t.activity, rfl, rfl⟩
    | none =>
      rw [paths_of_not_found cached found]
      refine ⟨_, _, rfl, ?_⟩
      cases (t.generate m beginning?).1 with
      | error e => rfl
      | ok paths => rfl

/-- A request leaves what is stored under other fingerprints. -/
theorem stored?_paths_of_ne {f : Fingerprint} (other : f ≠ m.fingerprint) :
    (t.paths m beginning?).2.stored? f = t.stored? f := by
  cases cached : t.cache? with
  | none =>
    rw [paths_of_uncached cached]
    rfl
  | some c =>
    cases found : c.find? m.fingerprint with
    | some paths =>
      rw [paths_of_found cached found, stored?, stored?, cached]
      rfl
    | none =>
      rw [paths_of_not_found cached found, stored?, stored?, cached]
      cases (t.generate m beginning?).1 with
      | error e => rfl
      | ok paths =>
        show ({ c with misses := c.misses + 1 }.insert m.fingerprint paths).entries.lookup f = _
        rw [PathCache.insert, PathCache.lookup_set, if_neg other]
        rfl

end Request

/-! ## What is remembered -/

/-- The live entries are those that the latest computed requests left behind. -/
structure Remembers (lifetime : Nat) (earlier : List PathRequest) (t : Translator)
    (c : PathCache) : Prop where
  cached : t.cache? = some c
  ttl : c.ttl = lifetime
  live : ∀ f, c.live? f =
    ((latest? earlier f).bind (deposit? lifetime)).filter fun e => c.now < e.expiry

section Remembers

variable {lifetime : Nat} {earlier : List PathRequest} {r q : PathRequest} {c : PathCache}

theorem Remembers.time_eq (h : Remembers lifetime earlier r.before c) : r.time = c.now := by
  rw [PathRequest.time, now, h.cached]
  rfl

theorem Remembers.stored?_eq {t : Translator} (h : Remembers lifetime earlier t c)
    (f : Fingerprint) : t.stored? f = c.entries.lookup f := by
  rw [stored?, h.cached]
  rfl

/-- What an unexpired computed request stored is found. -/
theorem Remembers.find?_eq_some {t : Translator} (h : Remembers lifetime earlier t c)
    {f : Fingerprint} (latest : latest? earlier f = some q) (live : c.now < q.time + lifetime) :
    ∃ paths, q.answer = .ok paths ∧ c.find? f = some paths := by
  obtain ⟨paths, answer⟩ := exists_answer (mem_of_latest? latest).2
  refine ⟨paths, answer, ?_⟩
  rw [c.find?_eq, h.live, latest, Option.bind_some, deposit?, answer]
  show ((some _).filter _).map _ = _
  rw [Option.filter_some, if_pos (decide_eq_true live), Option.map_some]

/-- Nothing is found after the lifetime of the latest computed request. -/
theorem Remembers.find?_eq_none {t : Translator} (h : Remembers lifetime earlier t c)
    {f : Fingerprint}
    (expired : (latest? earlier f).filter (fun q => c.now < q.time + lifetime) = none) :
    c.find? f = none := by
  rw [c.find?_eq, h.live]
  cases latest : latest? earlier f with
  | none => rfl
  | some q =>
    rw [latest, Option.filter_some] at expired
    rw [Option.bind_some, deposit?]
    cases q.answer with
    | error e => rfl
    | ok paths =>
      show ((some _).filter _).map _ = _
      rw [Option.filter_some]
      split_ifs at expired ⊢ with live
      rfl

/-- A request under an unexpired entry recalls its answer. -/
theorem Remembers.recalls (h : Remembers lifetime earlier r.before c)
    (latest : latest? earlier r.fingerprint = some q) (live : r.time < q.time + lifetime) :
    r.Recalls q ∧ ∃ c', Remembers lifetime (earlier ++ [r]) r.after c' := by
  rw [h.time_eq] at live
  obtain ⟨paths, answer, found⟩ := h.find?_eq_some latest live
  have run : r.before.paths r.labels r.beginning? = _ := paths_of_found h.cached found
  have after : r.after = { r.before with cache? := some { c with hits := c.hits + 1 } } := by
    rw [PathRequest.after, run]
  -- a hit is no computed request, so the latest ones stay the latest
  have hit : r.isComputed = false := by
    rw [isComputed, after, misses, misses, h.cached]
    simp
  constructor
  · constructor
    · rw [PathRequest.answer, run, answer]
    · exact hit
    · rw [after]
    · intro f
      rw [after, h.stored?_eq]
      rfl
  · refine ⟨{ c with hits := c.hits + 1 }, by rw [after], h.ttl, fun f => ?_⟩
    rw [latest?_concat, isComputedFor, hit]
    exact h.live f

/-- A request that finds nothing answers what is generated. -/
theorem Remembers.answer_eq (h : Remembers lifetime earlier r.before c)
    (missing : c.find? r.fingerprint = none) :
    r.answer = (r.before.generate r.labels r.beginning?).1 := by
  have run : r.before.paths r.labels r.beginning? = _ := paths_of_not_found h.cached missing
  rw [PathRequest.answer, run]

/-- A request that finds nothing and fails leaves everything stored as it is. -/
theorem Remembers.fails {e : PathError} (h : Remembers lifetime earlier r.before c)
    (missing : c.find? r.fingerprint = none) (failed : r.answer = .error e) :
    r.isComputed = false ∧ (∀ f, r.after.stored? f = r.before.stored? f) ∧
      ∃ c', Remembers lifetime (earlier ++ [r]) r.after c' := by
  have run : r.before.paths r.labels r.beginning? = _ := paths_of_not_found h.cached missing
  have after : r.after.cache? = some { c with misses := c.misses + 1 } := by
    rw [PathRequest.after, run, ← h.answer_eq missing, failed]
  -- the request is none of the computed ones, so the latest ones stay the latest
  have uncounted : r.isComputed = false := by
    rw [isComputed, failed]
    exact Bool.and_false _
  refine ⟨uncounted, fun f => ?_, { c with misses := c.misses + 1 }, after, h.ttl, fun f => ?_⟩
  · rw [h.stored?_eq, stored?, after]
    rfl
  · rw [latest?_concat, isComputedFor, uncounted]
    exact h.live f

/-- A request that finds nothing and does not fail stores its answer for a lifetime. -/
theorem Remembers.stores {paths : List String} (h : Remembers lifetime earlier r.before c)
    (missing : c.find? r.fingerprint = none) (answer : r.answer = .ok paths) :
    r.isComputed ∧
      (∀ f, r.after.stored? f =
        if f = r.fingerprint then some ⟨paths, r.time + lifetime⟩ else r.before.stored? f) ∧
      ∃ c', Remembers lifetime (earlier ++ [r]) r.after c' := by
  have run : r.before.paths r.labels r.beginning? = _ := paths_of_not_found h.cached missing
  have after : r.after.cache? =
      some ({ c with misses := c.misses + 1 }.insert r.fingerprint paths) := by
    rw [PathRequest.after, run, ← h.answer_eq missing, answer]
    rfl
  -- the request becomes the latest under its fingerprint, and its entry is the one stored
  have counted : r.isComputed := by
    rw [isComputed, answer, misses, misses, after, h.cached]
    simp [Except.toBool, PathCache.insert, PathCache.set]
  refine ⟨counted, fun f => ?_, _, after, h.ttl, fun f => ?_⟩
  · rw [stored?, after, Option.bind_some, PathCache.insert, PathCache.lookup_set, h.ttl, h.time_eq,
      h.stored?_eq]
  · rw [latest?_concat, isComputedFor, counted, Bool.true_and, PathCache.live?, PathCache.liveAt?,
      PathCache.insert, PathCache.lookup_set, h.ttl]
    by_cases same : f = r.fingerprint
    · rw [if_pos same, if_pos (decide_eq_true same.symm), Option.bind_some, deposit?, answer,
        h.time_eq]
      rfl
    · rw [if_neg same, if_neg (by simpa using Ne.symm same)]
      exact h.live f

/-- Any other request computes its own paths. -/
theorem Remembers.computes (h : Remembers lifetime earlier r.before c)
    (expired : (latest? earlier r.fingerprint).filter
      (fun q => r.time < q.time + lifetime) = none) :
    r.Computes lifetime ∧ ∃ c', Remembers lifetime (earlier ++ [r]) r.after c' := by
  rw [h.time_eq] at expired
  have missing := h.find?_eq_none expired
  have meant (activity : Activity) :
      r.answer = ((r.before.config.route r.beginning r.labels).run.run activity).1 := by
    obtain ⟨patterns, route⟩ := r.before.config.route_run r.beginning r.labels activity
    rw [h.answer_eq missing, generate_fst, route, PathRequest.beginning]
  cases outcome : r.answer with
  | error e =>
    obtain ⟨uncounted, stored, remembers⟩ := h.fails missing outcome
    refine ⟨⟨meant, by rw [uncounted, outcome]; rfl, fun f => ?_⟩, remembers⟩
    rw [outcome]
    exact stored f
  | ok paths =>
    obtain ⟨counted, stored, remembers⟩ := h.stores missing outcome
    refine ⟨⟨meant, by rw [counted, outcome]; rfl, fun f => ?_⟩, remembers⟩
    rw [outcome]
    exact stored f

/-- A request is explained by the earlier ones, and what is remembered after it is what they and it
left behind. -/
theorem Remembers.request (h : Remembers lifetime earlier r.before c) :
    r.Explained lifetime earlier ∧ ∃ c', Remembers lifetime (earlier ++ [r]) r.after c' := by
  rw [Explained]
  cases live : (latest? earlier r.fingerprint).filter fun q => r.time < q.time + lifetime with
  | none => exact h.computes live
  | some q =>
    obtain ⟨latest, unexpired⟩ := Option.filter_eq_some_iff.mp live
    exact h.recalls latest (of_decide_eq_true unexpired)

/-- Only the cache of the translator matters for what is remembered. -/
theorem Remembers.congr {t t' : Translator} (h : Remembers lifetime earlier t c)
    (same : t'.cache? = t.cache?) : Remembers lifetime earlier t' c :=
  ⟨same.trans h.cached, h.ttl, h.live⟩

end Remembers

/-! ## Runs -/

/-- Each of the requests is explained by those before it, to which `earlier` belong. -/
def AllExplained (lifetime : Nat) : (earlier requests : List PathRequest) → Prop
  | _, [] => True
  | earlier, r :: requests =>
    r.Explained lifetime earlier ∧ AllExplained lifetime (earlier ++ [r]) requests

/-- Requests that are explained lead to a translator that remembers what they left behind. -/
def Serves (lifetime : Nat) (earlier requests : List PathRequest) (t : Translator) : Prop :=
  AllExplained lifetime earlier requests ∧ ∃ c, Remembers lifetime (earlier ++ requests) t c

section Serves

variable {lifetime : Nat} {earlier : List PathRequest} {t : Translator} {c : PathCache}

theorem AllExplained.append {first second : List PathRequest}
    (h : AllExplained lifetime earlier first)
    (h' : AllExplained lifetime (earlier ++ first) second) :
    AllExplained lifetime earlier (first ++ second) := by
  induction first generalizing earlier with
  | nil =>
    rw [List.append_nil] at h'
    exact h'
  | cons r first ih =>
    refine ⟨h.1, ih h.2 ?_⟩
    rw [List.append_assoc]
    exact h'

/-- Among requests that are explained, each is explained by those before it. -/
theorem AllExplained.explained {front back : List PathRequest} {r : PathRequest}
    (h : AllExplained lifetime earlier (front ++ r :: back)) :
    r.Explained lifetime (earlier ++ front) := by
  induction front generalizing earlier with
  | nil =>
    rw [List.append_nil]
    exact h.1
  | cons q front ih =>
    rw [List.append_cons]
    exact ih h.2

/-- One request is served. -/
theorem Remembers.serves {r : PathRequest} (h : Remembers lifetime earlier r.before c) :
    Serves lifetime earlier [r] r.after :=
  ⟨⟨h.request.1, trivial⟩, h.request.2⟩

/-- Requests may be served one after the other. -/
theorem Serves.append {first second : List PathRequest} {t' : Translator}
    (h : Serves lifetime earlier first t)
    (h' : ∀ c, Remembers lifetime (earlier ++ first) t c →
      Serves lifetime (earlier ++ first) second t') :
    Serves lifetime earlier (first ++ second) t' := by
  obtain ⟨explained, c, remembers⟩ := h
  obtain ⟨explained', c', remembers'⟩ := h' c remembers
  refine ⟨explained.append explained', c', ?_⟩
  rw [← List.append_assoc]
  exact remembers'

/-- Without requests only the cache must still be remembered. -/
theorem Remembers.serves_nil (h : Remembers lifetime earlier t c) :
    Serves lifetime earlier [] t := by
  refine ⟨trivial, c, ?_⟩
  rw [List.append_nil]
  exact h

/-- A sample that can be written is answered by the lines for the paths of its request, and leaves
the cache as that does. -/
theorem datapoints_of_isWritable (t : Translator) {s : Sample} (h : s.isWritable)
    (beginning? : Option String) :
    (t.datapoints s beginning?).1 =
        (PathRequest.answer ⟨s.labels, beginning?, t⟩).bind s.datapoints ∧
      (t.datapoints s beginning?).2.cache? =
        (PathRequest.after ⟨s.labels, beginning?, t⟩).cache? := by
  rw [datapoints, if_neg (by simpa using h), PathRequest.answer, PathRequest.after]
  dsimp only
  rcases t.paths s.labels beginning? with ⟨_ | _, _⟩ <;> exact ⟨rfl, rfl⟩

/-- A sample that cannot be written leaves the cache alone. -/
theorem datapoints_of_not_isWritable (t : Translator) {s : Sample} (h : ¬s.isWritable)
    (beginning? : Option String) : (t.datapoints s beginning?).2.cache? = t.cache? := by
  rw [datapoints, if_pos (by simpa using h)]

/-- A sample is served. -/
theorem Remembers.sample (h : Remembers lifetime earlier t c) (s : Sample)
    (beginning? : Option String) :
    Serves lifetime earlier (t.sampleRequests s beginning?) (t.datapoints s beginning?).2 := by
  by_cases writable : s.isWritable
  · obtain ⟨explained, c', remembers⟩ :=
      Remembers.serves (r := ⟨s.labels, beginning?, t⟩) h
    rw [sampleRequests, if_pos writable]
    exact ⟨explained, c', remembers.congr (t.datapoints_of_isWritable writable beginning?).2⟩
  · rw [sampleRequests, if_neg writable]
    exact Remembers.serves_nil (h.congr (t.datapoints_of_not_isWritable writable beginning?))

/-- Samples are served one after the other. -/
theorem Remembers.batch (h : Remembers lifetime earlier t c) (beginning? : Option String)
    (samples : List Sample) :
    Serves lifetime earlier (t.batchRequests beginning? samples)
      (t.batchLines beginning? samples).2 := by
  induction samples generalizing earlier t c with
  | nil => exact h.serves_nil
  | cons s samples ih =>
    -- the requests of the first sample become earlier ones of those after it
    rw [batchRequests, batchLines]
    exact (h.sample s beginning?).append fun c' remembers => ih remembers

/-- Every step is served. -/
theorem Remembers.step (h : Remembers lifetime earlier t c) (s : Step) :
    Serves lifetime earlier (t.requests s) (t.after s) := by
  cases s with
  | paths m beginning? => exact Remembers.serves (r := ⟨m, beginning?, t⟩) h
  | datapoints s beginning? => exact h.sample s beginning?
  | encodeBatch samples beginning? limit? => exact h.batch beginning? samples
  | reload config =>
    -- the cache survives
    exact Remembers.serves_nil (h.congr rfl)
  | purge =>
    refine Remembers.serves_nil (c := c.purge.2) ⟨?_, h.ttl, fun f => ?_⟩
    · rw [after, purge, h.cached]
    · rw [c.live?_purge, h.live]
      rfl
  | startPurge =>
    refine Remembers.serves_nil (c := c.startPurge) ⟨?_, h.ttl, h.live⟩
    rw [after, startPurge, h.cached]
  | advance duration =>
    refine Remembers.serves_nil (c := c.advance duration) ⟨?_, ?_, fun f => ?_⟩
    · rw [after, advance, h.cached]
      rfl
    · rw [c.ttl_advance, h.ttl]
    · have later : c.now ≤ c.now + duration := Nat.le_add_right c.now duration
      rw [c.live?_advance, c.liveAt?_of_le later, h.live, PathCache.filter_expiry later,
        c.now_advance]

/-- Every run is served. -/
theorem Remembers.run (h : Remembers lifetime earlier t c) (steps : List Step) :
    AllExplained lifetime earlier (t.history steps) := by
  induction steps generalizing earlier t c with
  | nil => trivial
  | cons s steps ih =>
    obtain ⟨explained, c', remembers⟩ := h.step s
    exact explained.append (ih remembers)

/-- A translator that starts remembers nothing. -/
theorem remembers_new (config : PathConfig) (ttl interval : Nat) :
    Remembers ttl [] (new config (some (PathCache.new ttl interval)))
      (PathCache.new ttl interval) :=
  ⟨rfl, rfl, fun _ => rfl⟩

end Serves

end Translator

end MetricPath
