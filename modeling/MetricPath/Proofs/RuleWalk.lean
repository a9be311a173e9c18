import Mathlib.Tactic.SplitIfs
import MetricPath.Proofs.Rendering
import MetricPath.Route

/-!
# What the walk of the rules means

Of the rules that match, the walk comes to those up to the first that does not continue (`cut`).
What it answers is a function of these: the first failure among their templates if there is one
(`firstFailure?`), and otherwise what their templates render (`rendered`) and how the last of them
ends the walk (`ending`).  The templates executed are those up to the first failure (`executed`).

Every walk does this (`walksByMeaning`).  One more rule in front does the same to the walk as to
these functions, in each of the ways in which a rule can match or not, have a template or not,
and continue or not; the rest is an induction over the rules.
-/

namespace MetricPath

open Template

/-- A rule and its position among the configured ones. -/
abbrev PlacedRule := Rule × Nat

/-! ## The rules that count -/

/-- The rules that match, in their order; the first rule has the given position. -/
def matching (m : LabelSet) (position : Nat) (rules : List Rule) : List PlacedRule :=
  (rules.zipIdx position).filter fun p => p.1.accepts m

/-- The rules up to the first that does not continue, that one included. -/
def cut (rules : List PlacedRule) : List PlacedRule :=
  rules.take (rules.findIdx (fun p => !p.1.continues) + 1)

/-- The templates of rules. -/
def templates (rules : List PlacedRule) : List (Template × Nat) :=
  rules.filterMap fun p => p.1.template?.map fun t => (t, p.2)

/-- The failure of a rule's template on a context. -/
def failure? (context : Value) (p : Template × Nat) : Option PathError :=
  match p.1.outcome context with
  | .ok _ => none
  | .error fault => some (.template p.2 fault)

/-- The first failure among the templates of rules. -/
def firstFailure? (context : Value) (rules : List PlacedRule) : Option PathError :=
  (templates rules).findSome? (failure? context)

/-- What the templates of rules render. -/
def rendered (context : Value) (rules : List PlacedRule) : List String :=
  (templates rules).filterMap fun p => (p.1.outcome context).toOption

/-- The positions of the templates up to the first failure, that one included. -/
def executed (context : Value) (rules : List PlacedRule) : List Nat :=
  let failed := (templates rules).findIdx fun p => (failure? context p).isSome
  ((templates rules).take (failed + 1)).map (·.2)

/-- How the last of the rules ends the walk. -/
def ending (rules : List PlacedRule) : Ending :=
  match rules.getLast? with
  | none => .exhausted
  | some p =>
    if p.1.continues then .exhausted
    else if p.1.isSilencing then .silenced
    else .stopped

/-- What a walk answers that comes to the given rules. -/
def walkAnswer (context : Value) (rules : List PlacedRule) : Except PathError Walk :=
  match firstFailure? context rules with
  | some e => .error e
  | none => .ok ⟨rendered context rules, ending rules⟩

/-! ## One more rule -/

section Cons

variable {m : LabelSet} {context : Value} {position : Nat} {r : Rule} {t : Template}

theorem matching_cons_of_accepts (h : r.accepts m) (rules : List Rule) :
    matching m position (r :: rules) = (r, position) :: matching m (position + 1) rules := by
  rw [matching, List.zipIdx_cons]
  exact List.filter_cons_of_pos h

theorem matching_cons_of_not_accepts (h : ¬r.accepts m) (rules : List Rule) :
    matching m position (r :: rules) = matching m (position + 1) rules := by
  rw [matching, List.zipIdx_cons]
  exact List.filter_cons_of_neg h

theorem cut_cons_of_continues {p : PlacedRule} (h : p.1.continues) (rules : List PlacedRule) :
    cut (p :: rules) = p :: cut rules := by
  rw [cut, List.findIdx_cons, h]
  rfl

theorem cut_cons_of_not_continues {p : PlacedRule} (h : ¬p.1.continues) (rules : List PlacedRule) :
    cut (p :: rules) = [p] := by
  rw [cut, List.findIdx_cons, Bool.eq_false_iff.mpr h]
  rfl

/-- The first matching rule counts. -/
theorem exists_cut_cons (p : PlacedRule) (rules : List PlacedRule) :
    ∃ kept, cut (p :: rules) = p :: kept :=
  ⟨_, List.take_succ_cons⟩

theorem templates_cons_none (h : r.template? = none) (rules : List PlacedRule) :
    templates ((r, position) :: rules) = templates rules := by
  rw [templates, List.filterMap_cons_none (by rw [h]; rfl), templates]

theorem templates_cons_some (h : r.template? = some t) (rules : List PlacedRule) :
    templates ((r, position) :: rules) = (t, position) :: templates rules := by
  rw [templates, List.filterMap_cons_some (by rw [h]; rfl), templates]

/-- The templates stand in the order of their rules. -/
theorem templates_positions (rules : List PlacedRule) :
    ((templates rules).map (·.2)).Sublist (rules.map (·.2)) := by
  induction rules with
  | nil => exact List.Sublist.refl _
  | cons p rules ih =>
    obtain ⟨r, position⟩ := p
    cases template : r.template? with
    | none =>
      rw [templates_cons_none template, List.map_cons]
      exact ih.cons _
    | some t =>
      rw [templates_cons_some template, List.map_cons, List.map_cons]
      exact ih.cons_cons _

/-- A rule that continues leaves the end of the walk to the rules after it. -/
theorem ending_cons {p : PlacedRule} (h : p.1.continues) (rules : List PlacedRule) :
    ending (p :: rules) = ending rules := by
  cases rules with
  | nil => rw [ending, List.getLast?_singleton]; exact if_pos h
  | cons q rules => rw [ending, ending, List.getLast?_cons_cons]

/-- A rule without a template that continues changes nothing. -/
theorem walkAnswer_cons_none (h : r.template? = none) (go : r.continues)
    (rules : List PlacedRule) :
    walkAnswer context ((r, position) :: rules) = walkAnswer context rules := by
  rw [walkAnswer, firstFailure?, rendered, templates_cons_none h, ending_cons go]
  rfl

theorem executed_cons_none (h : r.template? = none) (rules : List PlacedRule) :
    executed context ((r, position) :: rules) = executed context rules := by
  rw [executed, templates_cons_none h]
  rfl

/-- A template that fails ends the walk. -/
theorem walkAnswer_cons_error {fault : ExecFault} (h : r.template? = some t)
    (failed : t.outcome context = .error fault) (rules : List PlacedRule) :
    walkAnswer context ((r, position) :: rules) = .error (.template position fault) := by
  have failure : failure? context (t, position) = some (.template position fault) := by
    rw [failure?, failed]
  rw [walkAnswer, firstFailure?, templates_cons_some h, List.findSome?_cons, failure]

theorem executed_cons_error {fault : ExecFault} (h : r.template? = some t)
    (failed : t.outcome context = .error fault) (rules : List PlacedRule) :
    executed context ((r, position) :: rules) = [position] := by
  have failure : failure? context (t, position) = some (.template position fault) := by
    rw [failure?, failed]
  rw [executed, templates_cons_some h, List.findIdx_cons, failure]
  rfl

/-- A template that does not fail puts a path in front, and the rules after it decide the rest. -/
theorem walkAnswer_cons_ok {path : String} (h : r.template? = some t) (go : r.continues)
    (ok : t.outcome context = .ok path) (rules : List PlacedRule) :
    walkAnswer context ((r, position) :: rules) =
      (walkAnswer context rules).map fun w => { w with rendered := path :: w.rendered } := by
  have failure : failure? context (t, position) = none := by rw [failure?, ok]
  have paths : rendered context ((r, position) :: rules) = path :: rendered context rules := by
    rw [rendered, templates_cons_some h, List.filterMap_cons_some (by rw [ok]; rfl), rendered]
  rw [walkAnswer, firstFailure?, templates_cons_some h, List.findSome?_cons, failure, paths,
    ending_cons go, walkAnswer, firstFailure?]
  cases (templates rules).findSome? (failure? context) <;> rfl

theorem executed_cons_ok {path : String} (h : r.template? = some t)
    (ok : t.outcome context = .ok path) (rules : List PlacedRule) :
    executed context ((r, position) :: rules) = position :: executed context rules := by
  have failure : failure? context (t, position) = none := by rw [failure?, ok]
  rw [executed, templates_cons_some h, List.findIdx_cons, failure]
  rfl

theorem ending_singleton (stop : ¬r.continues) :
    ending [(r, position)] = if r.isSilencing then .silenced else .stopped := by
  rw [ending, List.getLast?_singleton]
  exact if_neg stop

/-- A rule without a template that does not continue silences. -/
theorem walkAnswer_singleton_none (h : r.template? = none) (stop : ¬r.continues) :
    walkAnswer context [(r, position)] = .ok ⟨[], .silenced⟩ := by
  have silencing : r.isSilencing := by
    rw [Rule.isSilencing, h, Bool.eq_false_iff.mpr stop]
    rfl
  rw [walkAnswer, firstFailure?, rendered, templates_cons_none h, ending_singleton stop,
    if_pos silencing]
  rfl

/-- A rule with a template that does not continue adds the last path. -/
theorem walkAnswer_singleton_ok {path : String} (h : r.template? = some t) (stop : ¬r.continues)
    (ok : t.outcome context = .ok path) :
    walkAnswer context [(r, position)] = .ok ⟨[path], .stopped⟩ := by
  have loud : ¬r.isSilencing := by
    rw [Rule.isSilencing, h, Option.isNone_some, Bool.and_false]
    exact Bool.false_ne_true
  have failure : failure? context (t, position) = none := by rw [failure?, ok]
  have paths : rendered context [(r, position)] = [path] := by
    rw [rendered, templates_cons_some h, List.filterMap_cons_some (by rw [ok]; rfl)]
    rfl
  rw [walkAnswer, firstFailure?, templates_cons_some h, List.findSome?_cons, failure, paths,
    ending_singleton stop, if_neg loud]
  rfl

end Cons

/-! ## The walk -/

/-- The counts after executions of the templates at the given positions. -/
def counted (executions positions : List Nat) : List Nat :=
  positions.foldl (fun counts i => counts.modify i (· + 1)) executions

/-- Each execution of a template raises its count by one. -/
theorem getElem?_counted (executions positions : List Nat) (i : Nat) :
    (counted executions positions)[i]? = executions[i]?.map (· + positions.count i) := by
  induction positions generalizing executions with
  | nil => exact Option.map_id'.symm
  | cons j positions ih =>
    rw [counted, List.foldl_cons, ← counted, ih, List.getElem?_modify, List.count_cons]
    cases executions[i]? with
    | none => rfl
    | some n =>
      by_cases same : j = i
      · simp [same]
        omega
      · simp [same]

/-- Rendering a rule's template gives its outcome and counts the execution. -/
theorem renderRule_run (context : Value) (position : Nat) (t : Template) (activity : Activity) :
    ∃ patterns, (renderRule context position t).run.run activity =
      ((t.outcome context).mapError (.template position),
        ⟨patterns, activity.executions.modify position (· + 1)⟩) := by
  refine ⟨((t.execute context).run.run activity.patterns).2, ?_⟩
  have result := t.execute_fst context activity.patterns
  show renderRule context position t activity = _
  rw [renderRule, ← result]
  rcases (t.execute context).run.run activity.patterns with ⟨_ | _, _⟩ <;> rfl

/-- A walk that answers by the rules that count, and counts the executions of their templates. -/
def WalksByMeaning (m : LabelSet) (context : Value) (position : Nat) (rules : List Rule) : Prop :=
  ∀ activity, ∃ patterns, (walkFrom m context position rules).run.run activity =
    (walkAnswer context (cut (matching m position rules)),
      ⟨patterns, counted activity.executions
        (executed context (cut (matching m position rules)))⟩)

section Step

variable {m : LabelSet} {context : Value} {position : Nat} {r : Rule} {rules : List Rule}

/-- A rule that does not match is passed over. -/
theorem WalksByMeaning.cons_of_not_accepts (rejects : ¬r.accepts m)
    (rest : WalksByMeaning m context (position + 1) rules) :
    WalksByMeaning m context position (r :: rules) := by
  intro activity
  rw [walkFrom, matching_cons_of_not_accepts rejects, if_pos (by simpa using rejects)]
  exact rest activity

/-- A rule without a template is passed over or ends the walk. -/
theorem WalksByMeaning.cons_none (accepts : r.accepts m) (template : r.template? = none)
    (rest : WalksByMeaning m context (position + 1) rules) :
    WalksByMeaning m context position (r :: rules) := by
  intro activity
  rw [walkFrom, matching_cons_of_accepts accepts, if_neg (by simpa using accepts), template]
  dsimp only
  by_cases go : r.continues
  · rw [cut_cons_of_continues go, walkAnswer_cons_none template go, executed_cons_none template,
      if_pos go]
    exact rest activity
  · refine ⟨activity.patterns, ?_⟩
    rw [cut_cons_of_not_continues go, walkAnswer_singleton_none template go,
      executed_cons_none template, if_neg go]
    rfl

/-- A rule with a template fails the walk, adds a path to it or ends it. -/
theorem WalksByMeaning.cons_some {t : Template} (accepts : r.accepts m)
    (template : r.template? = some t) (rest : WalksByMeaning m context (position + 1) rules) :
    WalksByMeaning m context position (r :: rules) := by
  intro activity
  obtain ⟨patterns, run⟩ := renderRule_run context position t activity
  rw [walkFrom, matching_cons_of_accepts accepts, if_neg (by simpa using accepts), template]
  dsimp only
  rw [run_bind, run]
  cases outcome : t.outcome context with
  | error fault =>
    -- whether or not the rule continues, it is the first that counts, and its failure ends all
    refine ⟨patterns, ?_⟩
    obtain ⟨kept, cut⟩ := exists_cut_cons (r, position) (matching m (position + 1) rules)
    rw [cut, walkAnswer_cons_error template outcome, executed_cons_error template outcome]
    rfl
  | ok path =>
    by_cases go : r.continues
    · -- the rest of the walk starts from the activity that the template leaves
      obtain ⟨patterns, run⟩ := rest ⟨patterns, activity.executions.modify position (· + 1)⟩
      refine ⟨patterns, ?_⟩
      rw [cut_cons_of_continues go, walkAnswer_cons_ok template go outcome,
        executed_cons_ok template outcome]
      dsimp only [Except.mapError]
      rw [if_pos go, run_bind, run]
      cases walkAnswer context (cut (matching m (position + 1) rules)) <;> rfl
    · refine ⟨patterns, ?_⟩
      rw [cut_cons_of_not_continues go, walkAnswer_singleton_ok template go outcome,
        executed_cons_ok template outcome]
      dsimp only [Except.mapError]
      rw [if_neg go]
      rfl

end Step

/-- Every walk answers by the rules that count. -/
theorem walksByMeaning (m : LabelSet) (context : Value) (position : Nat) (rules : List Rule) :
    WalksByMeaning m context position rules := by
  induction rules generalizing position with
  | nil => exact fun activity => ⟨activity.patterns, rfl⟩
  | cons r rules ih =>
    by_cases accepts : r.accepts m
    · cases template : r.template? with
      | none => exact .cons_none accepts template (ih (position + 1))
      | some t => exact .cons_some accepts template (ih (position + 1))
    · exact .cons_of_not_accepts accepts (ih (position + 1))

/-! ## The end of the walk -/

/-- If all rules continue, all count. -/
theorem cut_eq_self {rules : List PlacedRule} (h : rules.all (·.1.continues)) :
    cut rules = rules := by
  induction rules with
  | nil => rfl
  | cons p rules ih =>
    rw [List.all_cons, Bool.and_eq_true] at h
    rw [cut_cons_of_continues h.1, ih h.2]

/-- Otherwise the last of those that count does not continue. -/
theorem getLast?_cut {rules : List PlacedRule} (h : ¬rules.all (·.1.continues)) :
    ∃ p, (cut rules).getLast? = some p ∧ ¬p.1.continues := by
  induction rules with
  | nil => exact absurd rfl h
  | cons p rules ih =>
    by_cases go : p.1.continues
    · rw [List.all_cons, go, Bool.true_and] at h
      obtain ⟨last, found, stop⟩ := ih h
      refine ⟨last, ?_, stop⟩
      rw [cut_cons_of_continues go, List.getLast?_cons, found, Option.getD_some]
    · exact ⟨p, by rw [cut_cons_of_not_continues go, List.getLast?_singleton], go⟩

/-- The walk comes to its end if every matching rule continues, and otherwise the last rule that
counts ends it. -/
theorem ending_cut (rules : List PlacedRule) :
    ending (cut rules) =
      if rules.all (·.1.continues) then .exhausted
      else if (cut rules).getLast?.any (·.1.isSilencing) then .silenced
      else .stopped := by
  by_cases h : rules.all (·.1.continues)
  · rw [if_pos h, cut_eq_self h, ending]
    cases last : rules.getLast? with
    | none => rfl
    | some p => exact if_pos (List.all_eq_true.mp h p (List.mem_of_getLast? last))
  · obtain ⟨p, last, stop⟩ := getLast?_cut h
    rw [if_neg h, ending, last, Option.any_some]
    exact if_neg stop

/-! ## Rules behind the end -/

/-- The rules up to the first that matches and does not continue, that one included. -/
def reached (m : LabelSet) (rules : List Rule) : List Rule :=
  rules.take (rules.findIdx (fun r => r.accepts m && !r.continues) + 1)

/-- The walk does not look beyond the rule that ends it. -/
theorem walkFrom_reached (m : LabelSet) (context : Value) (position : Nat) (rules : List Rule) :
    walkFrom m context position (reached m rules) = walkFrom m context position rules := by
  induction rules generalizing position with
  | nil => rfl
  | cons r rules ih =>
    rw [reached, List.findIdx_cons]
    by_cases ends : r.accepts m && !r.continues
    · -- the walk ends here, so what follows does not matter
      have ⟨accepts, stop⟩ := Bool.and_eq_true_iff.mp ends
      rw [Bool.not_eq_true'] at stop
      rw [ends, cond_true, List.take_succ_cons, List.take_zero]
      simp [walkFrom, accepts, stop]
    · rw [Bool.eq_false_iff.mpr ends, cond_false, List.take_succ_cons, ← reached]
      simp only [walkFrom, ih]

/-! ## Paths -/

namespace PathConfig

/-- The rules that count for a label set. -/
def counting (c : PathConfig) (m : LabelSet) : List PlacedRule := cut (matching m 0 c.rules)

/-- What the rules mean for a label set.  A failing template fails the whole; otherwise the rendered
paths are followed by the default path if every matching rule continues, and are dropped if the last
rule that counts is silencing. -/
def meaning (c : PathConfig) (beginning : String) (m : LabelSet) :
    Except PathError (List String) :=
  let context := templateContext m c.data
  match firstFailure? context (c.counting m) with
  | some e => .error e
  | none =>
    let paths := rendered context (c.counting m)
    if (matching m 0 c.rules).all (·.1.continues) then
      .ok (paths ++ [m.defaultPath c.format beginning])
    else if (c.counting m).getLast?.any (·.1.isSilencing) then .ok []
    else .ok paths

/-- The positions of the rules whose templates are executed for a label set. -/
def executed (c : PathConfig) (m : LabelSet) : List Nat :=
  MetricPath.executed (templateContext m c.data) (c.counting m)

/-- The paths of a label set are what the rules mean. -/
theorem route_run (c : PathConfig) (beginning : String) (m : LabelSet) (activity : Activity) :
    ∃ patterns, (c.route beginning m).run.run activity =
      (c.meaning beginning m, ⟨patterns, counted activity.executions (c.executed m)⟩) := by
  obtain ⟨patterns, run⟩ := walksByMeaning m (templateContext m c.data) 0 c.rules activity
  refine ⟨patterns, ?_⟩
  rw [route, run_bind, run, meaning, walkAnswer, ending_cut, ← counting]
  cases firstFailure? (templateContext m c.data) (c.counting m) with
  | some e => rfl
  | none =>
    dsimp only
    split_ifs <;> rfl

/-- No template is executed twice. -/
theorem nodup_executed (c : PathConfig) (m : LabelSet) : (c.executed m).Nodup := by
  -- the positions are among those of all rules, which are the numbers from zero on
  have counting : (c.counting m).Sublist (c.rules.zipIdx 0) :=
    (List.take_sublist ..).trans List.filter_sublist
  have among : (c.executed m).Sublist ((c.rules.zipIdx 0).map (·.2)) := by
    refine List.Sublist.trans ?_ ((templates_positions (c.counting m)).trans (counting.map _))
    exact (List.take_sublist ..).map _
  rw [List.zipIdx_map_snd] at among
  exact among.nodup List.nodup_range'

/-- The paths of a label set, for every configuration.  They are what the rules mean; the counts of
executions are raised by one for the templates up to the first failure and for no others; and the
rules behind the one that ends the walk change neither. -/
theorem route_eq_meaning (c : PathConfig) (beginning : String) (m : LabelSet)
    (activity : Activity) :
    ((c.route beginning m).run.run activity).1 = c.meaning beginning m ∧
      (∀ i : Nat, ((c.route beginning m).run.run activity).2.executions[i]? =
        activity.executions[i]?.map (· + if i ∈ c.executed m then 1 else 0)) ∧
      { c with rules := reached m c.rules }.route beginning m = c.route beginning m := by
  obtain ⟨patterns, run⟩ := c.route_run beginning m activity
  refine ⟨by rw [run], fun i => ?_, ?_⟩
  · rw [run, getElem?_counted, (c.nodup_executed m).count]
  · rw [route, walkFrom_reached]
    rfl

end PathConfig

end MetricPath
