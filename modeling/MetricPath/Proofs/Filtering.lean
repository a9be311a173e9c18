import Mathlib
import MetricPath.Matcher
import MetricPath.Proofs.DottedPath

/-!
# Filtering stored paths

A backend answers with paths, and the conditions of a request are on labels.  If a path was written
for a label set that reads back (`LabelSet.ReadsBack`), filtering it is the same as asking the label
set (`Matcher.holds`); a path that cannot be read is dropped.  `filterTargets_eq` says so for lists
in which such paths stand side by side.
-/

namespace MetricPath

/-! ## Conditions -/

/-- Whether a pattern matches the whole of a value; what is no pattern matches nothing. -/
def matchesWhole (source value : String) : Bool :=
  match Pattern.anchored source with
  | .ok p => p.isMatch value
  | .error _ => false

namespace Matcher

/-- Whether a label set meets a matcher.  An absent label has the empty value. -/
def holds (c : Matcher) (m : LabelSet) : Bool :=
  let value := (m.get? c.name).getD ""
  match c.op with
  | .equal => value = c.value
  | .notEqual => value ≠ c.value
  | .regex => matchesWhole c.value value
  | .notRegex => !matchesWhole c.value value

/-- A matcher that asks for a pattern has one. -/
def IsValid (c : Matcher) : Prop :=
  c.op = .regex ∨ c.op = .notRegex → ∃ p, Pattern.anchored c.value = .ok p

/-- A valid matcher can be made ready, and then accepts the label sets that meet it. -/
theorem IsValid.exists_compile {c : Matcher} (h : c.IsValid) :
    ∃ k, c.compile = .ok k ∧ ∀ m, k.accepts m = c.holds m := by
  cases op : c.op with
  | equal =>
    refine ⟨_, by rw [compile, op], fun m => ?_⟩
    rw [Compiled.accepts, holds, op, beq_true]
    rfl
  | notEqual =>
    refine ⟨_, by rw [compile, op], fun m => ?_⟩
    rw [Compiled.accepts, holds, op, beq_false, ← decide_not]
    rfl
  | regex =>
    obtain ⟨p, pattern⟩ := h (.inl op)
    refine ⟨_, by rw [compile, op, pattern], fun m => ?_⟩
    rw [Compiled.accepts, holds, op, matchesWhole, pattern, beq_true]
    rfl
  | notRegex =>
    obtain ⟨p, pattern⟩ := h (.inr op)
    refine ⟨_, by rw [compile, op, pattern], fun m => ?_⟩
    rw [Compiled.accepts, holds, op, matchesWhole, pattern, beq_false]
    rfl

/-- Valid matchers can all be made ready, and together accept the label sets that meet them all. -/
theorem exists_mapM_compile {matchers : List Matcher} (h : ∀ c ∈ matchers, c.IsValid) :
    ∃ compiled, matchers.mapM compile = .ok compiled ∧
      ∀ m, compiled.all (fun k => k.accepts m) = matchers.all fun c => c.holds m := by
  induction matchers with
  | nil => exact ⟨[], rfl, fun _ => rfl⟩
  | cons c matchers ih =>
    obtain ⟨k, ready, accepts⟩ := (h c List.mem_cons_self).exists_compile
    obtain ⟨compiled, allReady, allAccept⟩ := ih fun d hd => h d (List.mem_cons_of_mem c hd)
    refine ⟨k :: compiled, ?_, fun m => ?_⟩
    · rw [List.mapM_cons, ready, allReady]
      rfl
    · rw [List.all_cons, List.all_cons, accepts, allAccept]

end Matcher

/-! ## Stored paths -/

/-- The condition under which a dotted path gives back the label set it was made of, if that has a
metric name: the name is not empty, no label lacks a name, and the last one, if there is any, has a
value. -/
structure LabelSet.ReadsBack (m : LabelSet) : Prop where
  named : ∃ name, m.name? = some name ∧ name ≠ ""
  full : m.get? "" = none
  ended : ∀ last ∈ m.others.getLast?, last.2 ≠ ""

/-- A label set that meets the condition is read back. -/
theorem LabelSet.ReadsBack.ofPath {m : LabelSet} (h : m.ReadsBack) (beginning : String) :
    LabelSet.ofPath (m.defaultPath .dotted beginning) beginning = .ok m := by
  obtain ⟨name, named, filled⟩ := h.named
  exact LabelSet.ofPath_defaultPath beginning named h.full (.inr ⟨filled, h.ended⟩)

/-- A stored path: one that was written for a label set, or one that cannot be read. -/
inductive StoredPath (beginning : String) where
  | written (m : LabelSet) (readsBack : m.ReadsBack)
  | unreadable (path : String) (rejected : ∃ e, LabelSet.ofPath path beginning = .error e)

namespace StoredPath

variable {beginning : String}

/-- The path as the backend has it. -/
def path : StoredPath beginning → String
  | written m _ => m.defaultPath .dotted beginning
  | unreadable path _ => path

/-- Whether it was written for a label set that meets all matchers. -/
def meets (matchers : List Matcher) : StoredPath beginning → Bool
  | written m _ => matchers.all fun c => c.holds m
  | unreadable _ _ => false

/-- A stored path is kept if its label set meets the matchers. -/
theorem keepsTarget_eq {compiled : List Matcher.Compiled} {matchers : List Matcher}
    (accepts : ∀ m, compiled.all (fun k => k.accepts m) = matchers.all fun c => c.holds m)
    (target : StoredPath beginning) :
    keepsTarget compiled beginning target.path = target.meets matchers := by
  cases target with
  | written m readsBack =>
    rw [path, keepsTarget, readsBack.ofPath]
    exact accepts m
  | unreadable path rejected =>
    obtain ⟨e, unread⟩ := rejected
    rw [StoredPath.meets, StoredPath.path, keepsTarget, unread]

end StoredPath

/-- Filtering stored paths by valid matchers keeps those whose label sets meet every matcher, in
their order and as often as they stand there.  Paths that cannot be read are dropped and change
nothing else. -/
theorem filterTargets_eq {beginning : String} (targets : List (StoredPath beginning))
    {matchers : List Matcher} (valid : ∀ c ∈ matchers, c.IsValid) :
    filterTargets (targets.map StoredPath.path) matchers beginning =
      .ok ((targets.filter (StoredPath.meets matchers)).map StoredPath.path) := by
  obtain ⟨compiled, ready, accepts⟩ := Matcher.exists_mapM_compile valid
  have kept : (targets.map StoredPath.path).filter (keepsTarget compiled beginning) =
      (targets.filter (StoredPath.meets matchers)).map StoredPath.path := by
    rw [List.filter_map]
    congr 2
    funext target
    exact target.keepsTarget_eq accepts
  rw [filterTargets, ready]
  exact congrArg Except.ok kept

/-- A value with an escaped dot is kept twice, and an unreadable path between the two is dropped. -/
theorem filterTargets_eq_among_unreadable :
    filterTargets ["p.up.job.a%2Eb", "p.up.job", "p.up.job.web", "p.up.job.a%2Eb"]
      [⟨"job", .regex, "a.*"⟩, ⟨"env", .equal, ""⟩] "p." =
        .ok ["p.up.job.a%2Eb", "p.up.job.a%2Eb"] := by
  have readsBack (value : String) (h : value ≠ "") :
      ((LabelSet.named "up").insert "job" value).ReadsBack :=
    ⟨⟨"up", rfl, by decide⟩, rfl, fun last hl => by cases hl; exact h⟩
  have unread : ∃ e, LabelSet.ofPath "p.up.job" "p." = .error e := ⟨_, rfl⟩
  have valid : ∀ c ∈ [(⟨"job", .regex, "a.*"⟩ : Matcher), ⟨"env", .equal, ""⟩], c.IsValid := by
    refine List.forall_mem_cons.mpr ⟨fun _ => ⟨_, by cbv⟩, List.forall_mem_singleton.mpr ?_⟩
    exact fun op => by cases op <;> contradiction
  have filtered := filterTargets_eq
    [.written _ (readsBack "a.b" (by decide)), .unreadable "p.up.job" unread,
      .written _ (readsBack "web" (by decide)), .written _ (readsBack "a.b" (by decide))] valid
  exact filtered.trans (by cbv)

end MetricPath
