import Mathlib.Data.Nat.PSub
import MetricPath.Proofs.ActionGrammar
import MetricPath.Proofs.SegmentPositions

/-!
# Pipelines by indices

The tokens of an action are read here with an index into one list of tokens.  A slice of the list
must be in range (`slice?`), and where a parenthesis closes, one must be open (`closeFrom`).

The reader of pipelines cuts the tokens that are left instead.  Both agree (`pipelineIn_agrees`):
the loops over the operands and the commands keep what is left as a suffix of the tokens, and the
loop that looks for pipes has passed over the tokens that belong to the command it is in
(`commandsFrom_agrees`).
-/

namespace MetricPath.Template

open Text

/-! ## One operand -/

/-- The operand that a token begins, and the tokens after it. -/
def readOperand (t : Token) (ts : List Token) : Except ParseError (Operand × List Token) :=
  match t.kind with
  | .leftParen =>
    match cutParen? 0 ts with
    | none => .error ⟨t.offset, .unclosedLeftParen⟩
    | some (inside, rest) => do
      let commands ← readPipeline t.offset inside
      return (.sub commands (takeChain rest).1, (takeChain rest).2)
  | _ => do
    let o ← simpleOperand t
    return (o, ts)

/-- Operands are read one after the other. -/
theorem readOperands_cons (t : Token) (ts : List Token) :
    readOperands (t :: ts) = do
      let (o, rest) ← readOperand t ts
      let os ← readOperands rest
      return o :: os := by
  by_cases paren : t.kind = .leftParen
  · cases cut : cutParen? 0 ts with
    | none =>
      rw [readOperands_unclosed paren cut, readOperand, paren, cut]
      rfl
    | some cut' =>
      obtain ⟨inside, rest⟩ := cut'
      rw [readOperands_leftParen paren cut, readOperand, paren, cut]
      dsimp only
      cases readPipeline t.offset inside <;> rfl
  · rw [readOperands_of_ne_leftParen paren, readOperand]
    split
    · rename_i same
      exact absurd same paren
    · cases simpleOperand t <;> rfl

theorem readOperands_ne_nil (t : Token) (ts : List Token) : readOperands (t :: ts) ≠ .ok [] := by
  rw [readOperands_cons]
  cases readOperand t ts with
  | error e => nofun
  | ok found =>
    dsimp only [bind, Except.bind]
    cases readOperands found.2 <;> nofun

/-- The fault of a token is at the token. -/
theorem offset_of_simpleOperand {t : Token} {e : ParseError} (h : simpleOperand t = .error e) :
    e.offset = t.offset := by
  unfold simpleOperand at h
  dsimp only at h
  repeat' split at h
  all_goals cases h
  all_goals rfl

/-- What is read next goes behind what has been read. -/
theorem map_append_cons {α : Type} (x : Except ParseError (List α)) (as : List α) (a : α) :
    (do let more ← x; return a :: more : Except ParseError (List α)).map (as ++ ·)
      = x.map (as ++ [a] ++ ·) := by
  cases x with
  | error e => rfl
  | ok more => exact congrArg Except.ok (List.append_cons as a more)

namespace ByPosition

/-! ## Slices -/

/-- The tokens from one index up to another, which must be in range. -/
def slice? (ts : List Token) (start stop : Nat) :
    Option {us : List Token // us.length + start ≤ ts.length} :=
  if h : start ≤ stop ∧ stop ≤ ts.length then
    some ⟨(ts.take stop).drop start, by rw [List.length_drop, List.length_take]; omega⟩
  else none

/-- A part of the tokens behind an index is a slice. -/
theorem slice?_eq {ts us rest : List Token} {start stop : Nat} (within : start ≤ ts.length)
    (h : ts.drop start = us ++ rest) (length : stop = start + us.length) :
    ∃ shorter, slice? ts start stop = some ⟨us, shorter⟩ := by
  have lengths := congrArg List.length h
  rw [List.length_drop, List.length_append] at lengths
  have tokens : (ts.take stop).drop start = us := by
    rw [List.drop_take, h, length, Nat.add_sub_cancel_left, List.take_left]
  have shorter : us.length + start ≤ ts.length := by omega
  refine ⟨shorter, ?_⟩
  rw [slice?, dif_pos ⟨by omega, by omega⟩]
  simp only [tokens]

/-- The tokens behind the first one are a slice. -/
theorem slice?_tail {ts : List Token} (some : ts ≠ []) :
    ∃ shorter, slice? ts 1 ts.length = .some ⟨ts.tail, shorter⟩ := by
  have one := List.length_pos_iff.mpr some
  refine slice?_eq one (List.append_nil ts.tail ▸ List.drop_one) ?_
  rw [List.length_tail]
  omega

/-- The index of the parenthesis that closes when `depth` are open, from `idx` on.  There is none to
close where none is open. -/
def closeFrom (ts : List Token) (depth idx : Nat) : Option (Option Nat) :=
  if h : idx < ts.length then
    match ts[idx].kind with
    | .leftParen => closeFrom ts (depth + 1) (idx + 1)
    | .rightParen => do
      let depth ← Nat.ppred depth
      if depth = 0 then return some idx else closeFrom ts depth (idx + 1)
    | _ => closeFrom ts depth (idx + 1)
  else return none
termination_by ts.length - idx

/-! ## Pipelines -/

mutual

/-- The pipeline of the tokens; if there are none, a value is missing at `offset`. -/
def pipelineIn (offset : Nat) (ts : List Token) : Run Pipeline :=
  match ts.getLast? with
  | none => throw ⟨offset, .missingValue⟩
  | some t => commandsFrom ts t.offset 0 0 [] 0
termination_by (ts.length, 4, 0)

/-- The commands of the tokens, of which those before `start` have been read.  From there to `idx`
there is no pipe outside parentheses, and `depth` of these are open. -/
def commandsFrom (ts : List Token) (last depth start : Nat) (commands : Pipeline) (idx : Nat) :
    Run Pipeline :=
  if h : idx < ts.length then
    match ts[idx].kind with
    | .leftParen => commandsFrom ts last (depth + 1) start commands (idx + 1)
    | .rightParen => commandsFrom ts last (depth - 1) start commands (idx + 1)
    | .pipe =>
      if depth = 0 then do
        let ⟨us, _⟩ ← slice? ts start idx
        let command ← commandIn ts[idx].offset us
        commandsFrom ts last depth (idx + 1) (commands ++ [command]) (idx + 1)
      else commandsFrom ts last depth start commands (idx + 1)
    | _ => commandsFrom ts last depth start commands (idx + 1)
  else do
    let ⟨us, _⟩ ← slice? ts start ts.length
    let command ← commandIn last us
    return commands ++ [command]
termination_by (ts.length, 3, ts.length - idx)
decreasing_by
  all_goals first
    | exact Prod.Lex.right _ (Prod.Lex.right _ (by omega))
    | (rcases Nat.lt_or_eq_of_le (show us.length ≤ ts.length by omega) with lt | eq
       · exact Prod.Lex.left _ _ lt
       · rw [eq]; exact Prod.Lex.right _ (Prod.Lex.left _ _ (by omega)))

/-- The command of the tokens; if there are none, a value is missing at `offset`. -/
def commandIn (offset : Nat) (ts : List Token) : Run Command :=
  if ts.isEmpty then throw ⟨offset, .missingValue⟩
  else do
    match ← operandsFrom ts [] 0 with
    | .call f :: args => return .call f args
    | [o] => return .operand o
    | _ => do
      let first ← (ts[0]? : Option Token)
      throw ⟨first.offset, .argumentToValue⟩
termination_by (ts.length, 2, 0)

/-- The operands of the tokens from an index on, behind those that have been read. -/
def operandsFrom (ts : List Token) (operands : List Operand) (idx : Nat) : Run (List Operand) :=
  if idx < ts.length then do
    let (o, next) ← operandAt ts idx
    let ⟨next, _⟩ ← further? ts.length idx next
    operandsFrom ts (operands ++ [o]) next
  else return operands
termination_by (ts.length, 1, ts.length - idx)

/-- The operand that begins at an index, and the index after it. -/
def operandAt (ts : List Token) (idx : Nat) : Run (Operand × Nat) := do
  let t ← (ts[idx]? : Option Token)
  match t.kind with
  | .leftParen =>
    match ← closeFrom ts 0 idx with
    | none => throw ⟨t.offset, .unclosedLeftParen⟩
    | some close => do
      let ⟨inside, _⟩ ← slice? ts (idx + 1) close
      let commands ← pipelineIn t.offset inside
      match ts[close + 1]? with
      | some ⟨.field chain, false, _⟩ => return (.sub commands chain, close + 2)
      | _ => return (.sub commands [], close + 1)
  | _ => do
    let o ← Run.done (simpleOperand t)
    return (o, idx + 1)
termination_by (ts.length, 0, 0)

end

/-! ## Agreement -/

/-- The closing parenthesis is found where the tokens are cut. -/
theorem closeFrom_eq (ts : List Token) (depth idx : Nat) :
    closeFrom ts (depth + 1) idx
      = some ((cutParen? depth (ts.drop idx)).map fun cut => idx + cut.1.length) := by
  induction n : ts.length - idx generalizing depth idx with
  | zero =>
    rw [closeFrom, dif_neg (by omega), List.drop_eq_nil_of_le (by omega)]
    rfl
  | succ n ih =>
    have inside : idx < ts.length := by omega
    have goOn (depth : Nat) : closeFrom ts (depth + 1) (idx + 1) = some
        (((cutParen? depth (ts.drop (idx + 1))).map (prepend [ts[idx]])).map
          fun cut => idx + cut.1.length) := by
      rw [ih depth (idx + 1) (by omega), Option.map_map]
      refine congrArg (fun f => some (Option.map f _)) (funext fun cut => ?_)
      simp only [Function.comp_apply, prepend, List.singleton_append, List.length_cons]
      omega
    rw [closeFrom, dif_pos inside, List.drop_eq_getElem_cons inside, cutParen?]
    cases ts[idx].kind with
    | leftParen => exact goOn (depth + 1)
    | rightParen =>
      cases depth with
      | zero => rfl
      | succ depth => exact goOn depth
    | dot | field | «variable» | word | literal | pipe => exact goOn depth

section Agreement

variable {source : List Char} {ts : List Token}

/-- A chain behind a closing parenthesis, at the index after it. -/
theorem takeChain_drop (ts : List Token) (close : Nat) (commands : Pipeline)
    (within : close < ts.length) :
    ∃ next, (match ts[close + 1]? with
        | some ⟨.field chain, false, _⟩ => pure (.sub commands chain, close + 2)
        | _ => pure (.sub commands [], close + 1) : Run (Operand × Nat))
          = .done (.ok (.sub commands (takeChain (ts.drop (close + 1))).1, next)) ∧
      close < next ∧ next ≤ ts.length ∧ ts.drop next = (takeChain (ts.drop (close + 1))).2 := by
  by_cases inside : close + 1 < ts.length
  · have left := List.drop_eq_getElem_cons inside
    rw [List.getElem?_eq_getElem inside]
    generalize ts[close + 1] = t at left ⊢
    obtain ⟨kind, spaced, offset⟩ := t
    rw [left]
    cases kind with
    | field chain =>
      cases spaced
      · exact ⟨close + 2, rfl, by omega, inside, rfl⟩
      · exact ⟨close + 1, rfl, by omega, within, left⟩
    | _ => exact ⟨close + 1, rfl, by omega, within, left⟩
  · rw [List.getElem?_eq_none (by omega), List.drop_eq_nil_of_le (by omega)]
    exact ⟨close + 1, rfl, by omega, by omega, List.drop_eq_nil_of_le (by omega)⟩

/-- All shorter pipelines are read by index as by what is left. -/
def AgreesBelow (source : List Char) (n : Nat) : Prop :=
  ∀ us : List Token, us.length < n → ∀ offset, IsPosition source offset → ArePlaced source us →
    Agrees source Eq (pipelineIn offset us) (readPipeline offset us)

theorem simpleOperand_agrees {t : Token} (here : IsPosition source t.offset) :
    Agrees source Eq (Run.done (simpleOperand t)) (simpleOperand t) := by
  cases read : simpleOperand t with
  | ok o => exact .ok rfl
  | error e => exact ⟨rfl, offset_of_simpleOperand read ▸ here⟩

theorem operandAt_agrees (below : AgreesBelow source ts.length) (placed : ArePlaced source ts)
    {idx : Nat} (inside : idx < ts.length) :
    Agrees source (fun a b => a.1 = b.1 ∧ idx < a.2 ∧ a.2 ≤ ts.length ∧ ts.drop a.2 = b.2)
      (operandAt ts idx) (readOperand ts[idx] (ts.drop (idx + 1))) := by
  have here : IsPosition source ts[idx].offset := placed _ (List.getElem_mem inside)
  rw [operandAt, List.getElem?_eq_getElem inside, Run.lift_bind, readOperand]
  by_cases paren : ts[idx].kind = .leftParen
  · -- the search begins at the parenthesis itself, so one is open wherever one closes
    have close : closeFrom ts 0 idx = closeFrom ts 1 (idx + 1) := by
      rw [closeFrom, dif_pos inside, paren]
    rw [paren, close, closeFrom_eq]
    cases cut : cutParen? 0 (ts.drop (idx + 1)) with
    | none => exact .error here _
    | some found =>
      obtain ⟨us, rest⟩ := found
      obtain ⟨right, -, whole⟩ := eq_of_cutParen? cut
      have lengths := congrArg List.length whole
      rw [List.length_drop, List.length_append, List.length_cons] at lengths
      obtain ⟨shorter, slice⟩ := slice?_eq (by omega) whole rfl
      have sub : us ⊆ ts := fun t mem =>
        List.mem_of_mem_drop (whole ▸ List.mem_append_left (right :: rest) mem)
      have behind : ts.drop (idx + 1 + us.length + 1) = rest := by
        rw [Nat.add_assoc, ← List.drop_drop, whole, ← List.singleton_append, ← List.append_assoc]
        exact List.drop_left' (by rw [List.length_append, List.length_singleton])
      dsimp only [Option.map_some]
      rw [Run.lift_bind]
      dsimp only
      rw [slice, Run.lift_bind]
      refine (below us (by omega) _ here (placed.subset sub)).bind fun commands _ same => ?_
      subst same
      obtain ⟨next, run, further, within, left⟩ :=
        takeChain_drop ts (idx + 1 + us.length) commands (by omega)
      rw [behind] at run left
      rw [run]
      exact .ok ⟨rfl, by omega, within, left⟩
  · generalize ts[idx] = t at here paren ⊢
    have simple := simpleOperand_agrees here
    obtain ⟨kind, spaced, offset⟩ := t
    cases kind with
    | leftParen => exact absurd rfl paren
    | _ => exact simple.bind fun a o same => .ok ⟨same, Nat.lt_succ_self idx, inside, rfl⟩

theorem operandsFrom_agrees (below : AgreesBelow source ts.length) (placed : ArePlaced source ts)
    (operands : List Operand) (idx : Nat) (within : idx ≤ ts.length) :
    Agrees source Eq (operandsFrom ts operands idx)
      ((readOperands (ts.drop idx)).map (operands ++ ·)) := by
  induction n : ts.length - idx using Nat.strongRecOn generalizing operands idx with
  | ind n ih =>
    by_cases inside : idx < ts.length
    · rw [operandsFrom, if_pos inside, List.drop_eq_getElem_cons inside, readOperands_cons,
        map_bind]
      refine (operandAt_agrees below placed inside).bind fun a b corresponds => ?_
      obtain ⟨o, next⟩ := a
      obtain ⟨_, rest⟩ := b
      obtain ⟨rfl, further, within, rfl⟩ := corresponds
      dsimp only at further within ⊢
      rw [further?_eq ⟨further, within⟩, Run.lift_bind]
      rw [map_append_cons]
      exact ih (ts.length - next) (by omega) (operands ++ [o]) next within rfl
    · rw [operandsFrom, if_neg inside, List.drop_eq_nil_of_le (by omega), readOperands]
      exact .ok (List.append_nil operands).symm

theorem commandIn_agrees (below : AgreesBelow source ts.length) (placed : ArePlaced source ts)
    {offset : Nat} (missing : IsPosition source offset) :
    Agrees source Eq (commandIn offset ts) (readCommand offset ts) := by
  cases ts with
  | nil =>
    rw [commandIn, readCommand]
    exact .error missing _
  | cons t ts =>
    have operands := operandsFrom_agrees below placed [] 0 (Nat.zero_le _)
    have here := placed t List.mem_cons_self
    rw [commandIn, if_neg (by simp), readCommand]
    rw [List.drop_zero] at operands
    cases read : readOperands (t :: ts) with
    | error e =>
      rw [read] at operands
      rw [operands.1]
      exact ⟨rfl, operands.2⟩
    | ok os =>
      rw [read] at operands
      obtain ⟨os, run, rfl⟩ := operands
      rw [run, Run.ok_bind]
      show Agrees source Eq _ (commandOf t.offset os)
      cases os with
      | nil => exact absurd read (readOperands_ne_nil t ts)
      | cons o os =>
        cases o with
        | call f => exact .ok rfl
        | dot | field | root | literal | sub =>
          cases os with
          | nil => exact .ok rfl
          | cons => exact .error here _

/-- The commands from `start` on, where `us` are the tokens of the first one that have been passed
over. -/
theorem commandsFrom_agrees (below : AgreesBelow source ts.length) (placed : ArePlaced source ts)
    {last : Nat} (missing : IsPosition source last) (depth start : Nat) (commands : Pipeline)
    (idx : Nat) (us : List Token) (passed : ts.drop start = us ++ ts.drop idx)
    (length : idx = start + us.length) (within : idx ≤ ts.length)
    (cut : cutPipe 0 (ts.drop start) = prepend us (cutPipe depth (ts.drop idx))) :
    Agrees source Eq (commandsFrom ts last depth start commands idx)
      ((readCommands last (ts.drop start)).map (commands ++ ·)) := by
  induction n : ts.length - idx using Nat.strongRecOn generalizing depth start commands idx us with
  | ind n ih =>
    obtain ⟨shorter, slice⟩ := slice?_eq (by omega) passed length
    have command {offset : Nat} (missing : IsPosition source offset) :
        Agrees source Eq (commandIn offset us) (readCommand offset us) := by
      -- the pipelines in its parentheses are shorter than the tokens from `start` on
      refine commandIn_agrees (fun vs fewer => below vs (by omega)) (placed.subset ?_) missing
      exact fun t mem => List.mem_of_mem_drop (passed ▸ List.mem_append_left (ts.drop idx) mem)
    by_cases inside : idx < ts.length
    · have left := List.drop_eq_getElem_cons inside
      have here : IsPosition source ts[idx].offset := placed _ (List.getElem_mem inside)
      -- a token that ends no command is one more that has been passed over
      have goOn (depth : Nat)
          (cut : cutPipe 0 (ts.drop start)
            = prepend us (prepend [ts[idx]] (cutPipe depth (ts.drop (idx + 1))))) :=
        ih (ts.length - (idx + 1)) (by omega) depth start commands (idx + 1)
          (us ++ [ts[idx]]) (by rw [passed, left, List.append_assoc, List.singleton_append])
          (by simp only [List.length_append, List.length_singleton]; omega) inside
          (by rw [cut, prepend_prepend]) rfl
      rw [left, cutPipe] at cut
      rw [commandsFrom, dif_pos inside]
      cases kind : ts[idx].kind with
      | leftParen =>
        rw [kind] at cut
        exact goOn (depth + 1) cut
      | rightParen =>
        rw [kind] at cut
        exact goOn (depth - 1) cut
      | pipe =>
        rw [kind] at cut
        dsimp only at cut ⊢
        split at cut
        · rename_i outside
          rw [prepend, List.append_nil] at cut
          rw [if_pos outside, slice, Run.lift_bind, readCommands_of_cutPipe_some cut, map_bind]
          refine (command here).bind fun c _ same => ?_
          subst same
          rw [map_append_cons]
          exact ih (ts.length - (idx + 1)) (by omega) depth (idx + 1) (commands ++ [c]) (idx + 1) []
            rfl rfl inside (by rw [outside]; rfl) rfl
        · rename_i within
          rw [if_neg within]
          exact goOn depth cut
      | dot | field | «variable» | word | literal =>
        rw [kind] at cut
        exact goOn depth cut
    · have ended : idx = ts.length := by omega
      have none : ts.drop idx = [] := List.drop_eq_nil_of_le (by omega)
      rw [none, cutPipe, prepend, List.append_nil] at cut
      rw [ended] at slice
      rw [commandsFrom, dif_neg inside, slice, Run.lift_bind, readCommands_of_cutPipe_none cut,
        map_bind]
      exact (command missing).bind fun c _ same => .ok (same ▸ rfl)

/-- **Pipelines are read by indices as by the tokens left.** -/
theorem pipelineIn_agrees {offset : Nat} (missing : IsPosition source offset)
    (placed : ArePlaced source ts) :
    Agrees source Eq (pipelineIn offset ts) (readPipeline offset ts) := by
  induction n : ts.length using Nat.strongRecOn generalizing ts offset with
  | ind n ih =>
    subst n
    have below : AgreesBelow source ts.length := fun us shorter offset missing placed =>
      ih us.length shorter missing placed rfl
    rw [pipelineIn, readPipeline]
    cases last : ts.getLast? with
    | none => exact .error missing _
    | some t =>
      have read := commandsFrom_agrees below placed (placed t (List.mem_of_getLast? last)) 0 0 [] 0
        [] rfl rfl (Nat.zero_le _) rfl
      dsimp only
      cases same : readCommands t.offset ts <;> rwa [List.drop_zero, same] at read

end Agreement

end ByPosition

end MetricPath.Template
