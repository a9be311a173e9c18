import MetricPath.Proofs.Concatenation

/-!
# Pipelines as nested calls

A value piped into a call is its last argument, so a pipeline with a call at its end comes to what
the call comes to on the pipeline in parentheses.  If all commands behind the first are calls, then
the pipeline can be written with calls only, one within the other (`piped_eq_nested`).

The two evaluate in different order: the pipeline first its beginning and then the other operands of
the call, and the call its operands and then the parenthesis.  They need not fail in the same way,
then, but if one of the parts fails both do, and else both call the function with the same arguments
(`toOption_pipe`, `toOption_nest`).

They are also read in different ways.  A text that is that of a pipeline by itself (`Writes`) is
tokens and white space that spell it (`writes_iff`), so the two ways of putting texts together are
two ways of putting phrases together (`Writes.piped`, `Writes.nested`).
-/

namespace MetricPath.Template

/-! ## Pipelines -/

/-- A pipeline that goes on with calls. -/
def piped (pipe : Pipeline) (calls : List (Function × List Operand)) : Pipeline :=
  pipe ++ calls.map fun call => .call call.1 call.2

/-- Each call with what was before it, in parentheses, as its last operand. -/
def nested (pipe : Pipeline) (calls : List (Function × List Operand)) : Pipeline :=
  calls.foldl (fun inner call => [.call call.1 (call.2 ++ [.sub inner []])]) pipe

/-- The text of a pipeline that goes on with calls. -/
def pipedText (text : List Char) (calls : List (List Char)) : List Char :=
  calls.foldl (fun before call => before ++ " | ".toList ++ call) text

/-- The text of calls, each with what was before it in parentheses as its last operand. -/
def nestedText (text : List Char) (calls : List (List Char)) : List Char :=
  calls.foldl (fun inner call => call ++ " (".toList ++ inner ++ ")".toList) text

/-- The text is that of a pipeline by itself: up to a closing right behind it, it is read as an
action whose tokens are read as the pipeline. -/
def Writes (text : List Char) (pipe : Pipeline) : Prop :=
  ∃ tokens, lexAction (Text.byteLength (text ++ closing)) 0 true (text ++ closing)
      = .ok ⟨tokens, [], false⟩ ∧ readPipeline 0 tokens = .ok pipe

/-! ## Evaluation -/

section Evaluation

variable {root : Value} {dot : Datum} {f : Function} {args : List Operand} {c : Command}

theorem toOption_bind {ε α β : Type} (x : Except ε α) (g : α → Except ε β) :
    (x.bind g).toOption = x.toOption.bind fun a => (g a).toOption := by
  cases x <;> rfl

/-- A pipeline is evaluated part by part. -/
theorem evalPipeline_append (root : Value) (dot : Datum) (piped : Option Datum) (c : Command)
    (cs ds : Pipeline) :
    evalPipeline root dot piped (c :: cs ++ ds)
      = evalPipeline root dot piped (c :: cs) >>= fun d => evalPipeline root dot (some d) ds := by
  induction cs generalizing piped c with
  | nil => simp only [List.singleton_append, evalPipeline, bind_assoc, pure_bind, Option.getD_some]
  | cons c' cs ih =>
    rw [List.cons_append, evalPipeline, evalPipeline, bind_assoc]
    exact bind_congr fun d => ih (some d) c'

theorem evalOperands_concat (root : Value) (dot : Datum) (os : List Operand) (o : Operand) :
    evalOperands root dot (os ++ [o]) = do
      let ds ← evalOperands root dot os
      let d ← evalOperand root dot o
      return ds ++ [d] := by
  induction os with
  | nil => simp only [List.nil_append, evalOperands, pure_bind]
  | cons o' os ih =>
    simp only [List.cons_append, evalOperands, ih, bind_assoc, pure_bind]

/-- A call at the end of a pipeline gets the value of the beginning as its last argument. -/
theorem toOption_pipe (root : Value) (dot : Datum) (c : Command) (cs : Pipeline) (f : Function)
    (args : List Operand) :
    (result (evalPipeline root dot none (c :: cs ++ [.call f args]))).toOption =
      (result (evalPipeline root dot none (c :: cs))).toOption.bind fun d =>
        (result (evalOperands root dot args)).toOption.bind fun ds =>
          (result (call f (ds ++ [d]))).toOption := by
  have last (d : Datum) : evalPipeline root dot (some d) [.call f args]
      = evalOperands root dot args >>= fun ds => call f (ds ++ [d]) := by
    simp only [evalPipeline, evalCommand, Option.toList_some, Option.getD_some, bind_pure]
  rw [evalPipeline_append, Makes.result_bind (makes_evalPipeline root dot none (c :: cs)) fun d =>
    makes_evalPipeline root dot (some d) [.call f args], toOption_bind]
  refine Option.bind_congr fun d _ => ?_
  rw [last, Makes.result_bind (makes_evalOperands root dot args) fun ds =>
    makes_call f (ds ++ [d]), toOption_bind]

/-- A call gets the value of a parenthesis at its end as its last argument. -/
theorem toOption_nest (root : Value) (dot : Datum) (pipe : Pipeline) (f : Function)
    (args : List Operand) :
    (result (evalPipeline root dot none [.call f (args ++ [.sub pipe []])])).toOption =
      (result (evalPipeline root dot none pipe)).toOption.bind fun d =>
        (result (evalOperands root dot args)).toOption.bind fun ds =>
          (result (call f (ds ++ [d]))).toOption := by
  have whole : evalPipeline root dot none [.call f (args ++ [.sub pipe []])]
      = evalOperands root dot args >>= fun ds =>
          evalPipeline root dot none pipe >>= fun d => call f (ds ++ [d]) := by
    simp only [evalPipeline, evalCommand, evalOperands_concat, evalOperand, follow,
      Option.toList_none, List.append_nil, Option.getD_some, bind_assoc, pure_bind, bind_pure]
  have inner (ds : List Datum) :=
    (makes_evalPipeline root dot none pipe).bind fun d => makes_call f (ds ++ [d])
  rw [whole, Makes.result_bind (makes_evalOperands root dot args) inner, toOption_bind,
    Option.bind_comm]
  refine Option.bind_congr fun ds _ => ?_
  rw [Makes.result_bind (makes_evalPipeline root dot none pipe) fun d =>
    makes_call f (ds ++ [d]), toOption_bind]

/-- Calls behind a pipeline come to what calls around one of the same value come to. -/
theorem toOption_piped (calls : List (Function × List Operand)) {cs inner : Pipeline}
    (same : (result (evalPipeline root dot none (c :: cs))).toOption =
      (result (evalPipeline root dot none inner)).toOption) :
    (result (evalPipeline root dot none (piped (c :: cs) calls))).toOption =
      (result (evalPipeline root dot none (nested inner calls))).toOption := by
  induction calls generalizing cs inner with
  | nil =>
    rw [piped, List.map_nil, List.append_nil]
    exact same
  | cons call calls ih =>
    obtain ⟨f, args⟩ := call
    have next : (result (evalPipeline root dot none (c :: (cs ++ [.call f args])))).toOption =
        (result (evalPipeline root dot none [.call f (args ++ [.sub inner []])])).toOption := by
      rw [← List.cons_append, toOption_pipe, toOption_nest, same]
    have whole := ih next
    rw [piped, ← List.cons_append, List.append_assoc, List.singleton_append] at whole
    exact whole

end Evaluation

/-! ## Phrases -/

section Phrases

variable {r : Reading} {ts us : List Token} {t : Token}

/-- Nothing that tokens spell depends on what stands before the first of them. -/
theorem Spells.respaced {φ : Phrase} (spaced : Bool) (h : Spells r φ (t :: ts)) :
    Spells r φ ({ t with spaced := spaced } :: ts) := by
  generalize whole : t :: ts = us at h
  induction h generalizing t ts with
  | token denotes =>
    cases whole
    exact .token denotes
  | sub hl spells hr attaches _ =>
    cases whole
    exact .sub hl spells hr attaches
  | nil => cases whole
  | @cons o os ts us operand operands apart ih _ =>
    obtain ⟨u, ts, rfl⟩ := List.exists_cons_of_ne_nil (operand.ne_nil (by simp))
    cases whole
    refine .cons (ih rfl) operands fun longest joins => apart longest ?_
    obtain ⟨⟨p, last, closes⟩, field⟩ := joins
    cases ts with
    | nil =>
      cases last
      exact ⟨⟨t, rfl, closes⟩, field⟩
    | cons u ts =>
      rw [List.getLast?_cons_cons] at last
      exact ⟨⟨p, by rwa [List.getLast?_cons_cons], closes⟩, field⟩
  | call kind operands _ =>
    cases whole
    exact .call kind operands
  | value _ noCall ih => exact .value (ih whole) noCall
  | single _ ih => exact .single (ih whole)
  | @pipe c cs pipe ts us command kind rest ih _ =>
    obtain ⟨u, ts, rfl⟩ := List.exists_cons_of_ne_nil (command.ne_nil (by simp))
    cases whole
    exact .pipe (ih rfl) kind rest

/-- Tokens and white space spell the same whatever stands before them. -/
theorem Inside.respaced {spaced : Bool} {text : List Char} (spaced' : Bool)
    (h : Inside spaced text ts) :
    ∃ ts', Inside spaced' text ts' ∧ ∀ φ, Spells r φ ts → Spells r φ ts' := by
  cases h with
  | nil => exact ⟨[], .nil spaced', fun _ => id⟩
  | space space inside => exact ⟨ts, .space space inside, fun _ => id⟩
  | token token inside => exact ⟨_, .token token inside, fun _ h => h.respaced spaced'⟩

/-- A pipe between two pipelines makes them one. -/
theorem Spells.pipeline_append {pipe : Token} {cs ds : Pipeline} (h : Spells r (.pipeline cs) ts)
    (kind : pipe.kind = .pipe) (h' : Spells r (.pipeline ds) us) :
    Spells r (.pipeline (cs ++ ds)) (ts ++ pipe :: us) := by
  generalize phrase : Phrase.pipeline cs = φ at h
  induction h generalizing cs with
  | single command =>
    cases phrase
    exact .pipe command kind h'
  | @pipe c cs other ts us command kind' rest ihCommand ihRest =>
    cases phrase
    rw [List.append_assoc, List.cons_append, List.cons_append]
    exact .pipe command kind' (ihRest rfl)
  | _ => cases phrase

/-- An operand that does not begin with a field may follow any others. -/
theorem Spells.operands_concat {os : List Operand} {o : Operand} (h : Spells r (.operands os) ts)
    (h' : Spells r (.operand o) (t :: us)) (noField : ∀ chain, t.kind ≠ .field chain) :
    Spells r (.operands (os ++ [o])) (ts ++ t :: us) := by
  generalize phrase : Phrase.operands os = φ at h
  induction h generalizing os with
  | nil =>
    cases phrase
    have whole := Spells.cons h' .nil fun _ => (by simp [Joins])
    rwa [List.append_nil] at whole
  | @cons o' os ts us' operand operands apart _ ih =>
    cases phrase
    rw [List.append_assoc]
    refine .cons operand (ih rfl) fun longest joins => ?_
    obtain ⟨closes, u, rest, chain, begins, kind, unspaced⟩ := joins
    cases us' with
    | nil =>
      cases begins
      exact noField chain kind
    | cons u' us' =>
      cases begins
      exact apart longest ⟨closes, u, us', chain, rfl, kind, unspaced⟩
  | _ => cases phrase

end Phrases

/-! ## Texts -/

section Texts

variable {text inner call : List Char} {pipe : Pipeline} {f : Function} {args : List Operand}

/-- The text of a pipeline by itself is tokens and white space that spell it. -/
theorem writes_iff :
    Writes text pipe ↔ ∃ ts, Inside true text ts ∧ Spells .longest (.pipeline pipe) ts := by
  constructor
  · rintro ⟨tokens, lexed, read⟩
    obtain ⟨text', ending, whole, inside, ends⟩ := (lexesAction_of_lexAction lexed).exists_inside
    cases ends
    rw [List.append_nil] at whole
    rw [List.append_cancel_right whole]
    exact ⟨_, inside, (readPipeline_eq_ok_iff.mp read).of_unplaced (by simp)⟩
  · rintro ⟨ts, inside, spells⟩
    have lexes := inside.lexesAction .closes []
    rw [List.append_nil] at lexes
    obtain ⟨placed, lexed, rfl⟩ := lexes.lexAction (Text.byteLength (text ++ closing)) 0
    exact ⟨placed, lexed, readPipeline_eq_ok_iff.mpr (spells.of_unplaced (by simp))⟩

/-- A pipeline that can be read by itself is an action between braces, with trim markers or
without. -/
theorem Writes.parse_braces {marker ending : List Char} {opens trims : Bool} (h : Writes text pipe)
    (begins : Marker (text ++ ending) marker opens) (ends : Ending ending trims) :
    Template.parse (opening ++ (marker ++ (text ++ ending))) = .ok [.action pipe] := by
  obtain ⟨ts, inside, spells⟩ := writes_iff.mp h
  have cut : Text.cutAt? opening ([] ++ opening) = some ([], []) := rfl
  have laid := Laid.concat .nil cut begins (.action inside) ends
  have whole := toOption_parse (opening ++ (marker ++ (text ++ ending)) ++ [])
  have derives : Derives .longest (.list [.action pipe]) [.action ts 0] := .action spells .nil
  have noText (atStart atEnd : Bool) : textSegment (trimText atStart atEnd []) = [] := by
    cases atStart <;> cases atEnd <;> rfl
  have nodes : Layout.nodes? ⟨[⟨[], opens, [.action ts 0], trims⟩], []⟩ = some [.action pipe] := by
    rw [Layout.nodes?_eq_some_iff, Layout.segments, braced, braced, noText, noText]
    exact derives
  have laidOut := laid.laidOut_append []
  simp only [List.nil_append, List.append_nil] at whole laidOut
  rw [laidOut, laidOut_plain rfl] at whole
  exact toOption_eq_some_iff.mp (whole.trans nodes)

theorem Writes.parse (h : Writes text pipe) :
    Template.parse (opening ++ (text ++ closing)) = .ok [.action pipe] :=
  h.parse_braces .none .closes

/-- A pipe between the texts makes one pipeline of them. -/
theorem Writes.piped (h : Writes text pipe) (h' : Writes call [.call f args]) :
    Writes (text ++ " | ".toList ++ call) (pipe ++ [.call f args]) := by
  obtain ⟨ts, inside, spells⟩ := writes_iff.mp h
  obtain ⟨us, insideCall, spellsCall⟩ := writes_iff.mp h'
  have bar : Inside true ('|' :: ' ' :: call) (⟨.pipe, true, 0⟩ :: us) :=
    .token (.pipe _) (.space (by decide) insideCall)
  obtain ⟨_, behind⟩ := inside.append (by decide : endsToken ' ' = true) ('|' :: ' ' :: call)
  have whole := behind _ (.space (by decide) bar)
  have kind : (⟨.pipe, true, 0⟩ : Token).kind = .pipe := rfl
  refine writes_iff.mpr ⟨_, ?_, spells.pipeline_append kind spellsCall⟩
  rwa [List.append_assoc]

/-- A pipeline in parentheses behind a call is its last operand. -/
theorem Writes.nested (h : Writes inner pipe) (h' : Writes call [.call f args]) :
    Writes (call ++ " (".toList ++ inner ++ ")".toList) [.call f (args ++ [.sub pipe []])] := by
  obtain ⟨ts, inside, spells⟩ := writes_iff.mp h
  obtain ⟨us, insideCall, spellsCall⟩ := writes_iff.mp h'
  -- no white space stands between the parenthesis and what is in it
  obtain ⟨ts, inside, respaced⟩ := inside.respaced false
  obtain ⟨spaced, behind⟩ := inside.append (by decide : endsToken ')' = true) []
  have right : Inside spaced [')'] [⟨.rightParen, spaced, 0⟩] :=
    .token (.rightParen []) (.nil false)
  have left : Inside true ('(' :: (inner ++ [')']))
      (⟨.leftParen, true, 0⟩ :: (ts ++ [⟨.rightParen, spaced, 0⟩])) :=
    .token (.leftParen _) (behind _ right)
  obtain ⟨_, behindCall⟩ :=
    insideCall.append (by decide : endsToken ' ' = true) ('(' :: (inner ++ [')']))
  have whole := behindCall _ (.space (by decide) left)
  have operand : Spells .longest (.operand (.sub pipe []))
      (⟨.leftParen, true, 0⟩ :: (ts ++ [⟨.rightParen, spaced, 0⟩])) :=
    .sub rfl (respaced _ spells) rfl .none
  cases spellsCall with
  | pipe _ _ none => cases none
  | single command =>
    cases command with
    | call kind operands =>
      have all := Spells.call kind (operands.operands_concat operand nofun)
      refine writes_iff.mpr ⟨_, ?_, .single all⟩
      simpa using whole

variable {texts : List (List Char)} {calls : List (Function × List Operand)}

theorem Writes.pipedText (h : Writes text pipe)
    (hs : List.Forall₂ (fun text call => Writes text [.call call.1 call.2]) texts calls) :
    Writes (pipedText text texts) (Template.piped pipe calls) := by
  induction hs generalizing text pipe with
  | nil =>
    rw [Template.piped, List.map_nil, List.append_nil]
    exact h
  | @cons _ call _ calls call' _ ih =>
    have next := ih (h.piped call')
    rwa [Template.piped, List.append_assoc pipe, List.singleton_append] at next

theorem Writes.nestedText (h : Writes text pipe)
    (hs : List.Forall₂ (fun text call => Writes text [.call call.1 call.2]) texts calls) :
    Writes (nestedText text texts) (Template.nested pipe calls) := by
  induction hs generalizing text pipe with
  | nil => exact h
  | cons call' _ ih => exact ih (h.nested call')

end Texts

/-- **A pipeline is nested application.**  Calls behind a pipeline, each piped into the next, come
to what they come to one within the other, with the pipeline in the innermost parentheses: with any
context and any dot both give the same value, or both fail.  And if the pipeline and the calls can
each be read by themselves, then both ways of putting their texts together can. -/
theorem piped_eq_nested (first : Command) (others : Pipeline)
    (calls : List (Function × List Operand)) :
    (∀ (root : Value) (dot : Datum) (c c' : PatternCache),
      ((evalPipeline root dot none (piped (first :: others) calls)).run.run c).1.toOption =
        ((evalPipeline root dot none (nested (first :: others) calls)).run.run c').1.toOption) ∧
    ∀ (text : List Char) (texts : List (List Char)), Writes text (first :: others) →
      List.Forall₂ (fun text call => Writes text [.call call.1 call.2]) texts calls →
        parse (opening ++ (pipedText text texts ++ closing)) =
            .ok [.action (piped (first :: others) calls)] ∧
          parse (opening ++ (nestedText text texts ++ closing)) =
            .ok [.action (nested (first :: others) calls)] := by
  refine ⟨fun root dot c c' => ?_, fun text texts h hs => ?_⟩
  · rw [makes_evalPipeline, makes_evalPipeline]
    exact toOption_piped calls rfl
  · exact ⟨(h.pipedText hs).parse, (h.nestedText hs).parse⟩

/-- The length of a field, with and without a pipe. -/
theorem piped_eq_nested_len :
    parse "\x7b\x7b.name | len\x7d\x7d".toList =
        .ok [.action [.operand (.field ["name"]), .call .len []]] ∧
      parse "\x7b\x7blen (.name)\x7d\x7d".toList =
        .ok [.action [.call .len [.sub [.operand (.field ["name"])] []]]] := by
  have name : lexToken 0 '.' "name".toList = .ok (.field ["name"], []) := by cbv
  have word : lexToken 0 'l' "en".toList = .ok (.word "len", []) := by cbv
  have field : Writes ".name".toList [.operand (.field ["name"])] :=
    writes_iff.mpr ⟨[⟨.field ["name"], true, 0⟩], .token (lexToken_eq_ok_iff.mp name) (.nil false),
      .single (.value (.token (.field ["name"])) fun f => by simp)⟩
  have len : Writes "len".toList [.call .len []] :=
    writes_iff.mpr ⟨[⟨.word "len", true, 0⟩], .token (lexToken_eq_ok_iff.mp word) (.nil false),
      .single (.call rfl .nil)⟩
  exact (piped_eq_nested (.operand (.field ["name"])) [] [(.len, [])]).2
    ".name".toList ["len".toList] field (.cons len .nil)

end MetricPath.Template
