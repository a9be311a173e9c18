import MetricPath.Proofs.TranslatorRuns

/-!
# What the steps of a run demand

Which paths a run asks for, when, and under which configuration is a matter of its steps alone: the
configuration in force is that of the latest reload, and the time is what the clock has advanced by.
`demands` computes both from the steps, without a translator.

Every step of a translator keeps pace with that (`InForce.after`), so the requests of a run are its
demands, one by one and in their order (`InForce.history`).  With that a request is explained by the
steps and the answers before it (`history_explained`): an earlier answer is returned as long as its
lifetime has not ended, whatever has been reloaded since, and any other answer is that of the
configuration in force.
-/

namespace MetricPath

/-- Paths that are asked for: the labels and the beginning, if one is given, at a time and under a
configuration. -/
structure Demand where
  labels : LabelSet
  beginning? : Option String
  time : Nat
  config : PathConfig

namespace Translator

/-! ## Demands of steps -/

namespace Step

/-- The configuration in force after a step. -/
def configAfter (config : PathConfig) : Step → PathConfig
  | .reload config' => config'
  | _ => config

/-- The time after a step. -/
def timeAfter (time : Nat) : Step → Nat
  | .advance duration => time + duration
  | _ => time

/-- Whose paths a step asks for, and with which beginning.  Samples that cannot be written are left
out. -/
def asked : Step → List (LabelSet × Option String)
  | .paths m beginning? => [(m, beginning?)]
  | .datapoints s beginning? => if s.isWritable then [(s.labels, beginning?)] else []
  | .encodeBatch samples beginning? _ =>
    (samples.filter (·.isWritable)).map fun s => (s.labels, beginning?)
  | _ => []

end Step

/-- The demands of a run that starts at a time and under a configuration. -/
def demands (config : PathConfig) (time : Nat) : List Step → List Demand
  | [] => []
  | s :: steps =>
    s.asked.map (fun (m, beginning?) => ⟨m, beginning?, time, config⟩) ++
      demands (s.configAfter config) (s.timeAfter time) steps

end Translator

/-- What a request demands, at the time and under the configuration that it finds. -/
def PathRequest.demand (r : PathRequest) : Demand :=
  ⟨r.labels, r.beginning?, r.time, r.before.config⟩

namespace Translator

open PathRequest

/-! ## Keeping pace -/

/-- A configuration is in force at a time: the translator has it, and its cache shows that time. -/
structure InForce (config : PathConfig) (time : Nat) (t : Translator) : Prop where
  config : t.config = config
  clock : t.cache?.map PathCache.now = some time

namespace InForce

variable {config : PathConfig} {time : Nat} {t : Translator}

theorem demand (h : t.InForce config time) (m : LabelSet) (beginning? : Option String) :
    PathRequest.demand ⟨m, beginning?, t⟩ = ⟨m, beginning?, time, config⟩ := by
  rw [PathRequest.demand, PathRequest.time, now, h.clock, h.config]
  rfl

theorem paths (h : t.InForce config time) (m : LabelSet) (beginning? : Option String) :
    (t.paths m beginning?).2.InForce config time := by
  obtain ⟨cache?, activity, after, clock⟩ := t.paths_snd m beginning?
  rw [after]
  exact ⟨h.config, clock.trans h.clock⟩

theorem datapoints (h : t.InForce config time) (s : Sample) (beginning? : Option String) :
    (t.datapoints s beginning?).2.InForce config time := by
  rw [Translator.datapoints]
  by_cases writable : s.isWritable
  · have after := h.paths s.labels beginning?
    rw [if_neg (by simpa using writable)]
    generalize t.paths s.labels beginning? = answered at after
    obtain ⟨_ | _, t'⟩ := answered
    · exact ⟨after.config, after.clock⟩
    · exact after
  · rw [if_pos (by simpa using writable)]
    exact ⟨h.config, h.clock⟩

theorem batchLines (h : t.InForce config time) (beginning? : Option String)
    (samples : List Sample) : (t.batchLines beginning? samples).2.InForce config time := by
  induction samples generalizing t with
  | nil => exact h
  | cons s samples ih => exact ih (h.datapoints s beginning?)

/-- A step leads to the configuration and the time that it says. -/
theorem after (h : t.InForce config time) (s : Step) :
    (t.after s).InForce (s.configAfter config) (s.timeAfter time) := by
  obtain ⟨c, cached, shown⟩ := Option.map_eq_some_iff.mp h.clock
  cases s with
  | paths m beginning? => exact h.paths m beginning?
  | datapoints s beginning? => exact h.datapoints s beginning?
  | encodeBatch samples beginning? limit? => exact h.batchLines beginning? samples
  | reload config' => exact ⟨rfl, h.clock⟩
  | purge =>
    rw [Translator.after, purge, cached]
    exact ⟨h.config, congrArg some shown⟩
  | startPurge =>
    rw [Translator.after, startPurge, cached]
    exact ⟨h.config, congrArg some shown⟩
  | advance duration =>
    rw [Translator.after, advance, cached]
    exact ⟨h.config, congrArg (fun now => some (now + duration)) shown⟩

/-- A sample is a demand if it can be written. -/
theorem sampleRequests (h : t.InForce config time) (s : Sample) (beginning? : Option String) :
    (t.sampleRequests s beginning?).map PathRequest.demand =
      if s.isWritable then [⟨s.labels, beginning?, time, config⟩] else [] := by
  rw [Translator.sampleRequests]
  split
  · rw [List.map_singleton, h.demand]
  · rfl

theorem batchRequests (h : t.InForce config time) (beginning? : Option String)
    (samples : List Sample) :
    (t.batchRequests beginning? samples).map PathRequest.demand =
      (samples.filter (·.isWritable)).map fun s => ⟨s.labels, beginning?, time, config⟩ := by
  induction samples generalizing t with
  | nil => rfl
  | cons s samples ih =>
    rw [Translator.batchRequests, List.map_append, h.sampleRequests,
      ih (h.datapoints s beginning?), List.filter_cons]
    split <;> rfl

/-- The requests of a step are what it demands. -/
theorem requests (h : t.InForce config time) (s : Step) :
    (t.requests s).map PathRequest.demand =
      s.asked.map fun (m, beginning?) => ⟨m, beginning?, time, config⟩ := by
  cases s with
  | paths m beginning? =>
    rw [Translator.requests, List.map_singleton, h.demand]
    rfl
  | datapoints s beginning? =>
    rw [Translator.requests, h.sampleRequests, Step.asked]
    split <;> rfl
  | encodeBatch samples beginning? limit? =>
    rw [Translator.requests, h.batchRequests, Step.asked, List.map_map]
    rfl
  | reload config' => rfl
  | purge => rfl
  | startPurge => rfl
  | advance duration => rfl

/-- The requests of a run are what its steps demand. -/
theorem history (h : t.InForce config time) (steps : List Step) :
    (t.history steps).map PathRequest.demand = demands config time steps := by
  induction steps generalizing t config time with
  | nil => rfl
  | cons s steps ih =>
    rw [Translator.history, List.map_append, h.requests, ih (h.after s), demands]

end InForce

/-! ## Runs with a cache -/

/-- In every run of a translator with a cache the requests are what its steps demand, each at the
time by which the clock has advanced and under the configuration of the latest reload, and each is
explained by the requests before it: it recalls the answer of the latest one that computed the paths
of its fingerprint, as long as the lifetime of that has not ended, and computes its own paths
otherwise.  A sample is answered by the lines for the paths of its request and stores what that
stores; one that cannot be written makes no request and stores nothing. -/
theorem history_explained (config : PathConfig) (ttl interval : Nat) (steps : List Step)
    {earlier later : List PathRequest} {r : PathRequest}
    (run : (new config (some (PathCache.new ttl interval))).history steps =
      earlier ++ r :: later) :
    (earlier ++ r :: later).map PathRequest.demand = demands config 0 steps ∧
      r.Explained ttl earlier ∧
      ∀ (t : Translator) (s : Sample) (beginning? : Option String),
        let request : PathRequest := ⟨s.labels, beginning?, t⟩
        if s.isWritable then
          (t.datapoints s beginning?).1 = request.answer.bind s.datapoints ∧
            ∀ f, (t.datapoints s beginning?).2.stored? f = request.after.stored? f
        else ∀ f, (t.datapoints s beginning?).2.stored? f = t.stored? f := by
  refine ⟨?_, ?_, ?_⟩
  · have started : (new config (some (PathCache.new ttl interval))).InForce config 0 := ⟨rfl, rfl⟩
    rw [← run]
    exact started.history steps
  · have explained := (remembers_new config ttl interval).run steps
    rw [run] at explained
    exact explained.explained
  · intro t s beginning? request
    split_ifs with writable
    · obtain ⟨lines, cache⟩ := t.datapoints_of_isWritable writable beginning?
      refine ⟨lines, fun f => ?_⟩
      rw [stored?, cache, stored?]
    · intro f
      rw [stored?, t.datapoints_of_not_isWritable writable, stored?]

/-- What is remembered outlives a reload and is returned whatever beginning is asked for.  At the end
of its lifetime the paths are those of the configuration that was reloaded. -/
theorem history_explained_reloaded :
    let reloaded : PathConfig := { beginning := "b." }
    let steps : List Step := [.paths (.named "up") none, .reload reloaded, .advance 59,
      .paths (.named "up") (some "c."), .advance 1, .paths (.named "up") none]
    ∃ q r s, (new {} (some (PathCache.new 60 120))).history steps = [q, r] ++ s :: [] ∧
      [q, r, s].map PathRequest.demand = [⟨.named "up", none, 0, {}⟩,
        ⟨.named "up", some "c.", 59, reloaded⟩, ⟨.named "up", none, 60, reloaded⟩] ∧
      r.Recalls q ∧ r.answer = .ok ["up"] ∧ s.Computes 60 ∧ s.answer = .ok ["b.up"] := by
  intro reloaded steps
  obtain ⟨q, r, s, run, recalls, remembered⟩ :
      ∃ q r s, (new {} (some (PathCache.new 60 120))).history steps = [q, r] ++ s :: [] ∧
        r.Recalls q ∧ q.answer = .ok ["up"] := by
    have run : (new {} (some (PathCache.new 60 120))).history steps = [_] ++ _ :: [_] := rfl
    exact ⟨_, _, _, run, (history_explained {} 60 120 steps run).2.1, rfl⟩
  obtain ⟨demanded, explained, -⟩ := history_explained {} 60 120 steps run
  have first : q.demand = ⟨.named "up", none, 0, {}⟩ := Option.some.inj (congrArg (·[0]?) demanded)
  have last : s.demand = ⟨.named "up", none, 60, reloaded⟩ :=
    Option.some.inj (congrArg (·[2]?) demanded)
  rw [PathRequest.demand, Demand.mk.injEq] at first last
  obtain ⟨-, -, start, -⟩ := first
  obtain ⟨labels, beginning?, finish, config⟩ := last
  -- only the first request has computed paths, and their lifetime ends with the last one
  have expired : (latest? [q, r] s.fingerprint).filter (fun p => s.time < p.time + 60) = none := by
    rw [Option.filter_eq_none_iff]
    intro p latest
    obtain ⟨among, computed⟩ := mem_of_latest? latest
    rw [List.mem_cons, List.mem_singleton] at among
    rcases among with rfl | rfl
    · rw [start, finish]
      decide
    · rw [recalls.computed] at computed
      cases computed
  rw [Explained, expired] at explained
  have renewed : s.answer = .ok ["b.up"] := by
    obtain ⟨patterns, route⟩ := reloaded.route_run "b." (.named "up") (.fresh 0)
    rw [explained.answer (.fresh 0), PathRequest.beginning, labels, beginning?, config]
    exact congrArg Prod.fst route
  exact ⟨q, r, s, run, demanded, recalls, recalls.answer.trans remembered, explained, renewed⟩

end Translator

end MetricPath
