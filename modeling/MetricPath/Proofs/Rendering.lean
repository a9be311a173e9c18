import MetricPath.Template

/-!
# What rendering depends on

The compiled patterns that rendering takes along are a cache: every entry is what compiling would
give again (`PatternCache.compile_fst`).  So rendering comes to the same result whatever has been
compiled before (`execute_fst`), and a template has one `outcome` for each context.

What rendering does to the cache is a matter of the calls of functions that it evaluates.
`Template.calls` lists them in the order in which it does: those before a failure and the one that
fails, and of a block only those in the branch that is taken.  A call uses a pattern if it is a
replacement by pattern with all three arguments and the pattern is a text (`Call.pattern?`), and
rendering learns the patterns of its calls and nothing else.

Rendering is built by binding from calls and from computations that leave the patterns alone.
Computations that make known calls (`Makes`) are closed under that, and the rest is the recursion of
the definitions.
-/

namespace MetricPath

variable {α β : Type}

/-- Running one computation after another. -/
theorem run_bind {ε σ : Type} (x : ExceptT ε (StateM σ) α) (f : α → ExceptT ε (StateM σ) β)
    (s : σ) :
    (x >>= f).run.run s =
      match x.run.run s with
      | (.ok a, s) => (f a).run.run s
      | (.error fault, s) => (.error fault, s) := by
  rw [ExceptT.run_bind, StateT.run_bind]
  rcases x.run.run s with ⟨_ | _, _⟩ <;> rfl

namespace Template

/-! ## The cache of patterns -/

/-- What stands under a text is its pattern. -/
theorem PatternCache.compile_of_lookup (c : PatternCache) {source : String} {p : Pattern}
    (h : c.entries.lookup source = some p) : Pattern.compile source = .ok p := by
  obtain ⟨front, back, entries, -⟩ := List.lookup_eq_some_iff.mp h
  refine c.sound (source, p) ?_
  rw [entries]
  exact List.mem_append_right _ List.mem_cons_self

/-- The cache gives what compiling gives. -/
theorem PatternCache.compile_fst (c : PatternCache) (source : String) :
    (c.compile source).1 = Pattern.compile source := by
  rw [compile]
  cases h : c.entries.lookup source with
  | some p => exact (c.compile_of_lookup h).symm
  | none =>
    dsimp only
    split
    next p compiled => exact compiled.symm
    next fault compiled => exact compiled.symm

/-! ## Calls -/

/-- A call of a function with the values of its arguments. -/
structure Call where
  function : Function
  args : List Datum

/-- The pattern that a call uses. -/
def Call.pattern? : Call → Option String
  | ⟨.replaceRegex, [_, some (.string source), _]⟩ => some source
  | _ => none

/-- What a computation comes to when no pattern has been compiled. -/
def result (x : Eval α) : Except ExecFault α := (x.run.run PatternCache.empty).1

/-- The calls that come after a computation; after a failure there are none. -/
def callsAfter (r : Except ExecFault α) (next : α → List Call) : List Call :=
  match r with
  | .ok a => next a
  | .error _ => []

mutual

/-- The calls evaluated for an operand. -/
def operandCalls (root : Value) (dot : Datum) : Operand → List Call
  | .dot => []
  | .field _ => []
  | .root _ => []
  | .literal _ => []
  | .call f => [⟨f, []⟩]
  | .sub commands _ => pipelineCalls root dot none commands

/-- The calls evaluated for operands, from left to right. -/
def operandsCalls (root : Value) (dot : Datum) : List Operand → List Call
  | [] => []
  | o :: os =>
    operandCalls root dot o ++
      callsAfter (result (evalOperand root dot o)) fun _ => operandsCalls root dot os

/-- The calls evaluated for a command: those of its arguments, and then its own. -/
def commandCalls (root : Value) (dot : Datum) (piped : Option Datum) : Command → List Call
  | .call f args =>
    operandsCalls root dot args ++
      callsAfter (result (evalOperands root dot args)) fun ds => [⟨f, ds ++ piped.toList⟩]
  | .operand o => if piped.isSome then [] else operandCalls root dot o

/-- The calls evaluated for a pipeline into which a value may be piped. -/
def pipelineCalls (root : Value) (dot : Datum) (piped : Option Datum) : List Command → List Call
  | [] => []
  | c :: cs =>
    commandCalls root dot piped c ++
      callsAfter (result (evalCommand root dot piped c)) fun d =>
        pipelineCalls root dot (some d) cs

end

/-- The calls evaluated when `body` is rendered for one item after the other. -/
def eachCalls (body : Datum → Eval String) (calls : Datum → List Call) : List Datum → List Call
  | [] => []
  | d :: ds => calls d ++ callsAfter (result (body d)) fun _ => eachCalls body calls ds

mutual

/-- The calls evaluated for a node.  A block has those of its pipeline and of the branch taken. -/
def nodeCalls (root : Value) (dot : Datum) : Node → List Call
  | .text _ => []
  | .action pipe => pipelineCalls root dot none pipe
  | .block kind pipe body otherwise =>
    pipelineCalls root dot none pipe ++
      callsAfter (result (evalPipeline root dot none pipe)) fun d =>
        match kind with
        | .ifBlock => if isTruthy d then nodesCalls root dot body else nodesCalls root dot otherwise
        | .withBlock => if isTruthy d then nodesCalls root d body else nodesCalls root dot otherwise
        | .rangeBlock =>
          callsAfter (result (rangeItems d)) fun items =>
            match items with
            | [] => nodesCalls root dot otherwise
            | items =>
              eachCalls (fun d => renderNodes root d body) (fun d => nodesCalls root d body) items

/-- The calls evaluated for nodes, one after the other. -/
def nodesCalls (root : Value) (dot : Datum) : List Node → List Call
  | [] => []
  | n :: ns =>
    nodeCalls root dot n ++
      callsAfter (result (renderNode root dot n)) fun _ => nodesCalls root dot ns

end

/-- The calls evaluated when a template is executed on a context. -/
def calls (t : Template) (context : Value) : List Call :=
  nodesCalls context (some context) t.nodes

/-! ## Learning patterns -/

namespace PatternCache

/-- The cache after the patterns of some calls have been asked for, one after the other. -/
def learn (c : PatternCache) (calls : List Call) : PatternCache :=
  (calls.filterMap Call.pattern?).foldl (fun c source => (c.compile source).2) c

theorem learn_append (c : PatternCache) (calls more : List Call) :
    c.learn (calls ++ more) = (c.learn calls).learn more := by
  rw [learn, learn, learn, List.filterMap_append, List.foldl_append]

end PatternCache

/-! ## Computations and their calls -/

/-- A computation that makes the given calls: with any patterns compiled before, it comes to the
same result and learns the patterns of these calls. -/
def Makes (x : Eval α) (calls : List Call) : Prop :=
  ∀ c, x.run.run c = (result x, c.learn calls)

namespace Makes

@[simp] theorem pure (a : α) : Makes (pure a : Eval α) [] := fun _ => rfl

@[simp] theorem fail (fault : ExecFault) : Makes (fail fault : Eval α) [] := fun _ => rfl

/-- Two computations one after the other come to what the second comes to on the result of the
first. -/
theorem result_bind {x : Eval α} {f : α → Eval β} {calls : List Call} {more : α → List Call}
    (hx : Makes x calls) (hf : ∀ a, Makes (f a) (more a)) :
    result (x >>= f) = (result x).bind fun a => result (f a) := by
  rw [result, run_bind, hx]
  cases result x with
  | error fault => rfl
  | ok a =>
    dsimp only
    rw [hf]
    rfl

/-- The calls of the second computation follow if the first succeeds. -/
theorem bind {x : Eval α} {f : α → Eval β} {calls : List Call} {more : α → List Call}
    (hx : Makes x calls) (hf : ∀ a, Makes (f a) (more a)) :
    Makes (x >>= f) (calls ++ callsAfter (result x) more) := by
  intro c
  rw [result_bind hx hf, run_bind, hx]
  cases result x with
  | error fault =>
    rw [callsAfter, List.append_nil]
    rfl
  | ok a =>
    dsimp only
    rw [hf, ← PatternCache.learn_append]
    rfl

/-- Computations without calls may follow each other. -/
@[simp] theorem bind_nil {x : Eval α} {f : α → Eval β} (hx : Makes x [])
    (hf : ∀ a, Makes (f a) []) : Makes (x >>= f) [] := by
  have whole := hx.bind hf
  rw [List.nil_append] at whole
  cases r : result x <;> rwa [r] at whole

/-- After a computation with calls there may be one without. -/
theorem bind_quiet {x : Eval α} {f : α → Eval β} {calls : List Call} (hx : Makes x calls)
    (hf : ∀ a, Makes (f a) []) : Makes (x >>= f) calls := by
  have whole := hx.bind hf
  cases r : result x <;> rwa [r, callsAfter, List.append_nil] at whole

@[simp] theorem map {x : Eval α} (g : α → β) (hx : Makes x []) : Makes (g <$> x) [] := by
  rw [map_eq_pure_bind]
  exact hx.bind_nil fun a => pure (g a)

/-- Only the patterns of the calls matter. -/
theorem congr {x : Eval α} {calls calls' : List Call} (h : Makes x calls)
    (patterns : calls.filterMap Call.pattern? = calls'.filterMap Call.pattern?) :
    Makes x calls' := by
  intro c
  rw [h c, PatternCache.learn, PatternCache.learn, patterns]

end Makes

/-! ## Functions -/

@[simp] theorem makes_textOf (f : Function) (d : Datum) : Makes (textOf f d) [] := by
  unfold textOf
  split <;> simp

@[simp] theorem makes_field (d : Datum) (name : String) : Makes (field d name) [] := by
  unfold field
  split <;> simp

@[simp] theorem makes_follow (d : Datum) (chain : List String) : Makes (follow d chain) [] := by
  induction chain generalizing d with
  | nil => exact Makes.pure d
  | cons name chain ih => exact (makes_field d name).bind_nil ih

@[simp] theorem makes_index (item key : Datum) : Makes (index item key) [] := by
  unfold index
  repeat' split
  all_goals simp

@[simp] theorem makes_indexAll (item : Datum) (keys : List Datum) :
    Makes (indexAll item keys) [] := by
  induction keys generalizing item with
  | nil => exact Makes.pure item
  | cons key keys ih => exact (makes_index item key).bind_nil ih

@[simp] theorem makes_length (d : Datum) : Makes (length d) [] := by
  unfold length
  split <;> simp

@[simp] theorem makes_rangeItems (d : Datum) : Makes (rangeItems d) [] := by
  unfold rangeItems
  split <;> simp

/-- A computation that compiles a pattern learns it. -/
theorem makes_compilePattern {source : String} {call : Call} (h : call.pattern? = some source) :
    Makes (compilePattern source) [call] := by
  intro c
  have run (c : PatternCache) : (compilePattern source).run.run c =
      ((Pattern.compile source).mapError fun fault => .badPattern fault.message,
        (c.compile source).2) := by
    have cache : (get : Eval PatternCache).run.run c = (.ok c, c) := rfl
    rw [← c.compile_fst source, compilePattern, run_bind, cache]
    dsimp only
    rw [run_bind]
    rcases c.compile source with ⟨_ | _, after⟩ <;> rfl
  rw [run, result, run, PatternCache.learn, List.filterMap_cons_some h]
  rfl

/-- A replacement by pattern compiles its pattern before it looks at the other texts. -/
theorem makes_replaceRegex (args : List Datum) :
    Makes (call .replaceRegex args) [⟨.replaceRegex, args⟩] := by
  unfold call
  dsimp only
  split
  · rename_i input pattern replacement
    cases pattern with
    | none => exact (Makes.fail _).congr rfl
    | some v =>
      cases v with
      | string source =>
        exact (makes_compilePattern rfl).bind_quiet fun p => by simp
      | _ => exact (Makes.fail _).congr rfl
  · rename_i wrong
    refine (Makes.fail _).congr (List.filterMap_cons_none ?_).symm
    unfold Call.pattern?
    split
    · rename_i input source replacement call
      cases call
      exact absurd rfl (wrong input _ replacement)
    · rfl

/-- No other function uses a pattern. -/
theorem makes_call_nil {f : Function} (h : f ≠ .replaceRegex) (args : List Datum) :
    Makes (call f args) [] := by
  cases f with
  | replaceRegex => exact absurd rfl h
  | print => exact Makes.pure _
  | replace =>
    unfold call
    dsimp only
    split
    · split
      · exact Makes.fail _
      · exact (makes_textOf _ _).bind_nil fun old =>
          (makes_textOf _ _).bind_nil fun new => by simp
    · simp
  | isSet =>
    unfold call
    dsimp only
    split
    · exact (makes_textOf _ _).bind_nil fun key => by split <;> simp
    · simp
  | _ =>
    unfold call
    dsimp only
    split <;> simp

/-- Calling a function makes this one call. -/
theorem makes_call (f : Function) (args : List Datum) : Makes (call f args) [⟨f, args⟩] := by
  by_cases regex : f = .replaceRegex
  · rw [regex]
    exact makes_replaceRegex args
  · refine (makes_call_nil regex args).congr (List.filterMap_cons_none ?_).symm
    unfold Call.pattern?
    split
    · rename_i call
      cases call
      exact absurd rfl regex
    · rfl

/-! ## Evaluation -/

mutual

/-- Evaluating an operand makes its calls. -/
theorem makes_evalOperand (root : Value) (dot : Datum) :
    (o : Operand) → Makes (evalOperand root dot o) (operandCalls root dot o)
  | .dot => by rw [evalOperand, operandCalls]; exact Makes.pure dot
  | .field chain => by rw [evalOperand, operandCalls]; exact makes_follow dot chain
  | .root chain => by rw [evalOperand, operandCalls]; exact makes_follow (some root) chain
  | .literal v => by rw [evalOperand, operandCalls]; exact Makes.pure (some v)
  | .call f => by rw [evalOperand, operandCalls]; exact makes_call f []
  | .sub commands chain => by
    rw [evalOperand, operandCalls]
    exact (makes_evalPipeline root dot none commands).bind_quiet fun d => makes_follow d chain

theorem makes_evalOperands (root : Value) (dot : Datum) :
    (os : List Operand) → Makes (evalOperands root dot os) (operandsCalls root dot os)
  | [] => by rw [evalOperands, operandsCalls]; exact Makes.pure []
  | o :: os => by
    rw [evalOperands, operandsCalls]
    refine (makes_evalOperand root dot o).bind fun d => ?_
    exact (makes_evalOperands root dot os).bind_quiet fun ds => Makes.pure (d :: ds)

theorem makes_evalCommand (root : Value) (dot : Datum) (piped : Option Datum) :
    (c : Command) → Makes (evalCommand root dot piped c) (commandCalls root dot piped c)
  | .call f args => by
    rw [evalCommand, commandCalls]
    exact (makes_evalOperands root dot args).bind fun ds => makes_call f (ds ++ piped.toList)
  | .operand o => by
    rw [evalCommand, commandCalls]
    split
    · exact Makes.fail _
    · exact makes_evalOperand root dot o

theorem makes_evalPipeline (root : Value) (dot : Datum) (piped : Option Datum) :
    (cs : List Command) → Makes (evalPipeline root dot piped cs) (pipelineCalls root dot piped cs)
  | [] => by rw [evalPipeline, pipelineCalls]; exact Makes.pure (piped.getD none)
  | c :: cs => by
    rw [evalPipeline, pipelineCalls]
    exact (makes_evalCommand root dot piped c).bind fun d =>
      makes_evalPipeline root dot (some d) cs

end

/-- Rendering once for each item makes the calls of each item. -/
theorem makes_renderEach {body : Datum → Eval String} {calls : Datum → List Call}
    (h : ∀ d, Makes (body d) (calls d)) (items : List Datum) :
    Makes (renderEach body items) (eachCalls body calls items) := by
  induction items with
  | nil => exact Makes.pure ""
  | cons d items ih =>
    exact (h d).bind fun s => ih.bind_quiet fun more => Makes.pure (s ++ more)

mutual

/-- Rendering a node makes its calls. -/
theorem makes_renderNode (root : Value) (dot : Datum) :
    (n : Node) → Makes (renderNode root dot n) (nodeCalls root dot n)
  | .text s => by rw [renderNode, nodeCalls]; exact Makes.pure s
  | .action pipe => by
    rw [renderNode, nodeCalls]
    exact (makes_evalPipeline root dot none pipe).bind_quiet fun d => Makes.pure (renderDatum d)
  | .block kind pipe body otherwise => by
    have inside (dot : Datum) := makes_renderNodes root dot body
    have outside := makes_renderNodes root dot otherwise
    rw [renderNode, nodeCalls]
    refine (makes_evalPipeline root dot none pipe).bind fun d => ?_
    cases kind with
    | ifBlock =>
      dsimp only
      split
      · exact inside dot
      · exact outside
    | withBlock =>
      dsimp only
      split
      · exact inside d
      · exact outside
    | rangeBlock =>
      refine (makes_rangeItems d).bind fun items => ?_
      cases items with
      | nil => exact outside
      | cons item items => exact makes_renderEach inside (item :: items)

theorem makes_renderNodes (root : Value) (dot : Datum) :
    (ns : List Node) → Makes (renderNodes root dot ns) (nodesCalls root dot ns)
  | [] => by rw [renderNodes, nodesCalls]; exact Makes.pure ""
  | n :: ns => by
    rw [renderNodes, nodesCalls]
    refine (makes_renderNode root dot n).bind fun s => ?_
    exact (makes_renderNodes root dot ns).bind_quiet fun more => Makes.pure (s ++ more)

end

/-! ## Templates -/

/-- What a template renders against a context. -/
def outcome (t : Template) (context : Value) : Except ExecFault String :=
  ((t.execute context).run.run PatternCache.empty).1

/-- Executing a template comes to its outcome and learns the patterns of its calls. -/
theorem execute_run (t : Template) (context : Value) (c : PatternCache) :
    (t.execute context).run.run c = (t.outcome context, c.learn (t.calls context)) :=
  makes_renderNodes context (some context) t.nodes c

/-- What a template renders does not depend on the patterns compiled so far. -/
theorem execute_fst (t : Template) (context : Value) (c : PatternCache) :
    ((t.execute context).run.run c).1 = t.outcome context := by
  rw [execute_run]

end Template

end MetricPath
