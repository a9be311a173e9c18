import MetricPath.Proofs.TranslatorRuns

/-!
# Beginnings of their own

A request may ask for another beginning of the default path than the configured one, but paths are
remembered by fingerprint alone.  So a translator with a cache may answer otherwise than one without
(`PathRequest.uncached`).

How an answer depends on the beginning is `meaning_eq_iff`: only the default path has it, and that
is there exactly if every matching rule continues.  A remembered answer is what was computed for the
beginning of an earlier request, so it is the wanted one if that was the same beginning, or if there
is no default path (`calls_answer_iff`).
-/

namespace MetricPath

/-- Default paths with different beginnings differ. -/
theorem LabelSet.defaultPath_inj (m : LabelSet) (format : PathFormat) {b b' : String} :
    m.defaultPath format b = m.defaultPath format b' ↔ b = b' := by
  constructor
  · intro h
    rw [defaultPath, defaultPath, String.ofList_inj, pathChars, pathChars, List.append_assoc,
      List.append_assoc, List.append_left_inj, String.toList_inj] at h
    exact h
  · intro h
    rw [h]

/-- Successful answers for two beginnings are equal if the beginnings are, or if there is no default
path. -/
theorem PathConfig.meaning_eq_iff (c : PathConfig) (m : LabelSet) {b b' : String}
    {paths : List String} (h : c.meaning b m = .ok paths) :
    c.meaning b m = c.meaning b' m ↔
      b = b' ∨ ¬(matching m 0 c.rules).all (·.1.continues) := by
  -- the failures do not depend on the beginning, and for one beginning there is none
  have fine : firstFailure? (templateContext m c.data) (c.counting m) = none := by
    rw [meaning] at h
    cases failure : firstFailure? (templateContext m c.data) (c.counting m) with
    | none => rfl
    | some e =>
      rw [failure] at h
      cases h
  rw [meaning, meaning, fine]
  dsimp only
  split_ifs with exhausted silencing
  · rw [Except.ok.injEq, List.append_right_inj, List.singleton_inj, m.defaultPath_inj]
    exact (or_iff_left (not_not_intro exhausted)).symm
  · exact iff_of_true rfl (.inr exhausted)
  · exact iff_of_true rfl (.inr exhausted)

namespace PathRequest

/-- What the translator without its cache answers. -/
def uncached (r : PathRequest) : Except PathError (List String) :=
  ({ r.before with cache? := none }.paths r.labels r.beginning?).1

/-- Without the cache a request is answered for the beginning it asks for. -/
theorem uncached_eq (r : PathRequest) :
    r.uncached = r.before.config.meaning r.beginning r.labels :=
  Translator.generate_fst { r.before with cache? := none } r.labels r.beginning?

/-- A request that computes paths answers as without the cache. -/
theorem answer_of_isComputed {r : PathRequest} (h : r.isComputed) : r.answer = r.uncached := by
  rw [uncached_eq, beginning, ← Translator.generate_fst]
  cases cached : r.before.cache? with
  | none => rw [answer, Translator.paths_of_uncached cached]
  | some c =>
    cases found : c.find? r.fingerprint with
    | some paths =>
      -- a hit raises no count of misses
      have run : r.before.paths r.labels r.beginning? = _ :=
        Translator.paths_of_found cached found
      have missed := of_decide_eq_true (Bool.and_eq_true_iff.mp h).1
      rw [after, run, Translator.misses, Translator.misses, cached] at missed
      exact absurd missed (Nat.lt_irrefl _)
    | none =>
      have run : r.before.paths r.labels r.beginning? = _ :=
        Translator.paths_of_not_found cached found
      rw [answer, run]

end PathRequest

namespace Translator

open PathRequest

/-! ## Calls for one label set -/

/-- Calls for the paths of a label set, each with its beginning and the time since the last one. -/
def calls (m : LabelSet) (asked : List (Option String × Nat)) : List Step :=
  asked.flatMap fun call => [.advance call.2, .paths m call.1]

/-- Asking for paths leaves the configuration. -/
theorem config_paths (t : Translator) (m : LabelSet) (beginning? : Option String) :
    (t.paths m beginning?).2.config = t.config := by
  obtain ⟨cache?, activity, after, -⟩ := t.paths_snd m beginning?
  rw [after]

/-- All requests of calls are for the one label set and find the one configuration. -/
theorem calls_history (t : Translator) (m : LabelSet) (asked : List (Option String × Nat)) :
    ∀ r ∈ t.history (calls m asked), r.labels = m ∧ r.before.config = t.config := by
  induction asked generalizing t with
  | nil => exact fun r h => absurd h List.not_mem_nil
  | cons call asked ih =>
    obtain ⟨beginning?, wait⟩ := call
    intro r h
    rcases List.mem_cons.mp h with rfl | rest
    · exact ⟨rfl, rfl⟩
    · obtain ⟨labels, config⟩ := ih _ r rest
      exact ⟨labels, config.trans (config_paths (t.advance wait) m beginning?)⟩

/-- In calls for one label set, an answer is the one that a translator without a cache gives exactly
if no unexpired answer was computed for another beginning, or if there is no default path. -/
theorem calls_answer_iff (config : PathConfig) (ttl interval : Nat) (m : LabelSet)
    (asked : List (Option String × Nat)) {earlier later : List PathRequest} {r : PathRequest}
    (run : (new config (some (PathCache.new ttl interval))).history (calls m asked) =
      earlier ++ r :: later) :
    r.answer = r.uncached ↔
      ∀ q ∈ latest? earlier r.fingerprint, r.time < q.time + ttl →
        q.beginning = r.beginning ∨ ¬(matching m 0 config.rules).all (·.1.continues) := by
  have same : ∀ q ∈ earlier ++ r :: later, q.labels = m ∧ q.before.config = config := by
    rw [← run]
    exact calls_history (new config (some (PathCache.new ttl interval))) m asked
  obtain ⟨labels, kept⟩ := same r (List.mem_append_right _ List.mem_cons_self)
  have explained := (remembers_new config ttl interval).run (calls m asked)
  rw [run] at explained
  have explained : r.Explained ttl earlier := explained.explained
  rw [Explained] at explained
  cases live : (latest? earlier r.fingerprint).filter fun q => r.time < q.time + ttl with
  | none =>
    rw [live] at explained
    obtain ⟨patterns, route⟩ := r.before.config.route_run r.beginning r.labels r.before.activity
    have answer := explained.answer r.before.activity
    rw [route, ← uncached_eq] at answer
    refine iff_of_true answer fun q latest unexpired => ?_
    exact absurd (decide_eq_true unexpired) (Option.filter_eq_none_iff.mp live q latest)
  | some q =>
    -- the answer is what the configuration means for the beginning of the remembered request
    rw [live] at explained
    obtain ⟨latest, unexpired⟩ := Option.filter_eq_some_iff.mp live
    obtain ⟨among, computed⟩ := mem_of_latest? latest
    obtain ⟨labels', kept'⟩ := same q (List.mem_append_left _ among)
    obtain ⟨paths, answer⟩ := exists_answer computed
    have computed := answer_of_isComputed computed
    rw [uncached_eq, labels', kept'] at computed
    rw [explained.answer, uncached_eq, labels, kept, computed,
      config.meaning_eq_iff m (computed.symm.trans answer), latest]
    constructor
    · intro condition other found _
      rw [Option.mem_some_iff] at found
      rw [← found]
      exact condition
    · intro condition
      exact condition q rfl (of_decide_eq_true unexpired)

/-- Asking for the configured beginning by name gives what was remembered for it. -/
theorem calls_answer_iff_configured :
    ∃ q r, (new { beginning := "a." } (some (PathCache.new 60 120))).history
        (calls (.named "up") [(none, 0), (some "a.", 5)]) = [q] ++ r :: [] ∧
      r.answer = r.uncached := by
  have run : (new { beginning := "a." } (some (PathCache.new 60 120))).history
      (calls (.named "up") [(none, 0), (some "a.", 5)]) = [_] ++ _ :: [] := rfl
  refine ⟨_, _, run, (calls_answer_iff _ _ _ _ _ run).mpr fun q latest _ => .inl ?_⟩
  cases latest
  rfl

/-- Asking for another beginning gives what was remembered for the configured one. -/
theorem calls_answer_other_beginning :
    ∃ q r, (new { beginning := "a." } (some (PathCache.new 60 120))).history
        (calls (.named "up") [(none, 0), (some "b.", 0)]) = [q] ++ r :: [] ∧
      r.answer ≠ r.uncached := by
  refine ⟨_, _, rfl, fun h => ?_⟩
  have remembered : Except.ok ["a.up"] = Except.ok (ε := PathError) ["b.up"] := h
  rw [Except.ok.injEq, List.singleton_inj] at remembered
  exact absurd remembered (by decide)

end Translator

end MetricPath
