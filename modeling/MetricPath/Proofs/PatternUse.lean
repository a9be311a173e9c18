import MetricPath.Proofs.Rendering

/-!
# Which patterns rendering compiles

Rendering learns the patterns of its calls (`execute_run`), and learning adds a pattern under its
text exactly if the text is one (`PatternCache.mem_learn`).  So after any executions the cache holds
the valid patterns used by their calls and nothing else (`executeAll_transparent`).
-/

namespace MetricPath.Template

/-! ## Learning patterns -/

namespace PatternCache

/-- Asking for a text adds its pattern, if it has one. -/
theorem mem_compile (c : PatternCache) (source : String) (e : String × Pattern) :
    e ∈ (c.compile source).2.entries ↔
      e ∈ c.entries ∨ e.1 = source ∧ Pattern.compile source = .ok e.2 := by
  rw [compile]
  cases found : c.entries.lookup source with
  | some p =>
    -- the pattern is there already, and it is the only one of its text
    refine ⟨.inl, fun h => h.elim id ?_⟩
    rintro ⟨name, pattern⟩
    rw [c.compile_of_lookup found, Except.ok.injEq] at pattern
    obtain ⟨front, back, entries, -⟩ := List.lookup_eq_some_iff.mp found
    rw [entries, show e = (source, p) from Prod.ext name pattern.symm]
    exact List.mem_append_right _ List.mem_cons_self
  | none =>
    dsimp only
    split
    · rename_i p compiled
      rw [add, List.mem_cons, compiled, Except.ok.injEq, or_comm]
      refine or_congr_right ⟨?_, ?_⟩
      · rintro rfl
        exact ⟨rfl, rfl⟩
      · rintro ⟨name, pattern⟩
        exact Prod.ext name pattern.symm
    · rename_i fault compiled
      rw [compiled]
      exact ⟨.inl, fun h => h.elim id fun found => by cases found.2⟩

/-- Asking for a text does not give it a second pattern. -/
theorem nodup_compile {c : PatternCache} (h : (c.entries.map (·.1)).Nodup) (source : String) :
    ((c.compile source).2.entries.map (·.1)).Nodup := by
  rw [compile]
  cases found : c.entries.lookup source with
  | some p => exact h
  | none =>
    dsimp only
    split
    · refine List.nodup_cons.mpr ⟨fun there => ?_, h⟩
      obtain ⟨e, he, name⟩ := List.mem_map.mp there
      exact absurd (List.lookup_eq_none_iff.mp found e he) (by simp [name])
    · exact h

theorem size_compile_le (c : PatternCache) (source : String) :
    c.size ≤ (c.compile source).2.size := by
  rw [compile]
  cases c.entries.lookup source with
  | some p => exact Nat.le_refl _
  | none =>
    dsimp only
    split
    · exact Nat.le_succ _
    · exact Nat.le_refl _

/-- What is learned from calls are the patterns that they use, each under its text. -/
theorem mem_learn (c : PatternCache) (calls : List Call) (e : String × Pattern) :
    e ∈ (c.learn calls).entries ↔
      e ∈ c.entries ∨
        (∃ call ∈ calls, call.pattern? = some e.1) ∧ Pattern.compile e.1 = .ok e.2 := by
  rw [learn, ← List.mem_filterMap]
  induction calls.filterMap Call.pattern? generalizing c with
  | nil => simp
  | cons source sources ih =>
    rw [List.foldl_cons, ih, mem_compile, List.mem_cons, or_and_right, or_assoc]
    refine or_congr_right (or_congr_left (and_congr_right fun name => ?_))
    rw [name]

theorem nodup_learn {c : PatternCache} (h : (c.entries.map (·.1)).Nodup) (calls : List Call) :
    ((c.learn calls).entries.map (·.1)).Nodup := by
  rw [learn]
  induction calls.filterMap Call.pattern? generalizing c with
  | nil => exact h
  | cons source sources ih => exact ih (nodup_compile h source)

/-- Nothing is forgotten. -/
theorem size_le_size_learn (c : PatternCache) (calls : List Call) :
    c.size ≤ (c.learn calls).size := by
  rw [learn]
  induction calls.filterMap Call.pattern? generalizing c with
  | nil => exact Nat.le_refl _
  | cons source sources ih => exact Nat.le_trans (c.size_compile_le source) (ih _)

end PatternCache

/-! ## Executions that share a cache -/

/-- The results of executions, one after the other, and the patterns compiled after them. -/
def executeAll (c : PatternCache) :
    List (Template × Value) → List (Except ExecFault String) × PatternCache
  | [] => ([], c)
  | (t, context) :: runs =>
    let (rendered, c) := (t.execute context).run.run c
    let (more, c) := executeAll c runs
    (rendered :: more, c)

/-- Executions come to what each template renders by itself, and learn the patterns of their
calls. -/
theorem executeAll_eq (c : PatternCache) (runs : List (Template × Value)) :
    executeAll c runs =
      (runs.map fun r => r.1.outcome r.2, c.learn (runs.flatMap fun r => r.1.calls r.2)) := by
  induction runs generalizing c with
  | nil => rfl
  | cons r runs ih =>
    obtain ⟨t, context⟩ := r
    rw [executeAll, execute_run]
    dsimp only
    rw [ih, List.map_cons, List.flatMap_cons, PatternCache.learn_append]

/-- Templates may share the cache of patterns.  In any sequence of executions each comes to what the
template renders by itself with nothing compiled.  After the sequence the cache holds, once each,
the valid patterns that calls in it have used, bound to what compiling their texts gives, and it
never holds fewer patterns than before. -/
theorem executeAll_transparent (runs : List (Template × Value)) :
    let after := executeAll .empty runs
    after.1 = runs.map (fun r => r.1.outcome r.2) ∧
      (∀ source p, (source, p) ∈ after.2.entries ↔
        (∃ r ∈ runs, ∃ call ∈ r.1.calls r.2, call.pattern? = some source) ∧
          Pattern.compile source = .ok p) ∧
      (after.2.entries.map (·.1)).Nodup ∧
      ∀ more, after.2.size ≤ (executeAll .empty (runs ++ more)).2.size := by
  intro after
  have eq : after = _ := executeAll_eq .empty runs
  rw [eq]
  refine ⟨rfl, fun source p => ?_, ?_, fun more => ?_⟩
  · rw [PatternCache.mem_learn]
    simp only [PatternCache.empty, List.not_mem_nil, false_or, List.mem_flatMap]
    refine and_congr_left fun _ => ⟨?_, ?_⟩
    · rintro ⟨call, ⟨r, hr, made⟩, used⟩
      exact ⟨r, hr, call, made, used⟩
    · rintro ⟨r, hr, call, made, used⟩
      exact ⟨call, ⟨r, hr, made⟩, used⟩
  · have fresh : (PatternCache.empty.entries.map (·.1)).Nodup := List.nodup_nil
    exact PatternCache.nodup_learn fresh _
  · rw [executeAll_eq, List.flatMap_append, PatternCache.learn_append]
    exact PatternCache.size_le_size_learn _ _

end MetricPath.Template
