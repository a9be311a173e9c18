import Mathlib.Data.String.Basic
import MetricPath.Proofs.TemplateGrammar
import MetricPath.Proofs.TokenIndices

/-!
# Every source can be read by positions

With segments by positions and pipelines by indices a whole source is read without the text left
(`ByPosition.parse`).  No run of it is without result: every cut of the source is at a boundary
between characters, every slice of tokens is in range, no parenthesis is closed that is not open,
and every loop gets further.  What it comes to is what the reader of the text left comes to, a tree
or an error, and the place of an error is a boundary of the source (`parse_eq_byPosition`).
-/

namespace MetricPath.Template

open Text

namespace ByPosition

/-- An else at the byte `offset` with the tokens after the word, as for `elseBlock`. -/
def elseAt (offset : Nat) (tokens : List Token) (nodes : List Node) (b : OpenBlock)
    (stack : List OpenBlock) : Run (List OpenBlock) :=
  let other : OpenBlock := { b with body? := some nodes.reverse }
  if b.body?.isSome then throw ⟨offset, .secondElse⟩
  else if tokens.isEmpty then return other :: stack
  else
    match b.kind, Directive.ofTokens tokens with
    | .ifBlock, .begins .ifBlock => do
      let ⟨condition, _⟩ ← slice? tokens 1 tokens.length
      let pipe ← pipelineIn offset condition
      return ⟨.ifBlock, offset, pipe, [], none, true⟩ :: other :: stack
    | _, _ => throw ⟨offset, .elseWithArguments⟩

/-- The nodes of segments while blocks are open, as for `readNodes`. -/
def nodesFrom (total : Nat) (stack : List OpenBlock) (nodes : List Node) :
    List Segment → Run (List Node)
  | [] =>
    match stack with
    | [] => return nodes.reverse
    | b :: _ => throw ⟨b.offset, .missingEnd b.kind⟩
  | .text s :: rest => nodesFrom total stack (.text s :: nodes) rest
  | .action tokens offset :: rest =>
    match Directive.ofTokens tokens with
    | .evaluates => do
      let pipe ← pipelineIn offset tokens
      nodesFrom total stack (.action pipe :: nodes) rest
    | .begins kind => do
      let ⟨arguments, _⟩ ← slice? tokens 1 tokens.length
      let pipe ← pipelineIn offset arguments
      nodesFrom total (⟨kind, offset, pipe, nodes, none, false⟩ :: stack) [] rest
    | .otherwise =>
      match stack with
      | [] => throw ⟨offset, .unexpectedElse⟩
      | b :: stack => do
        let ⟨arguments, _⟩ ← slice? tokens 1 tokens.length
        let stack ← elseAt offset arguments nodes b stack
        nodesFrom total stack [] rest
    | .ends =>
      if 1 < tokens.length then throw ⟨offset, .endWithArguments⟩
      else
        match stack with
        | [] => throw ⟨total, .unexpectedEnd⟩
        | b :: stack =>
          let (nodes, stack) := endBlock b nodes stack
          nodesFrom total stack nodes rest

/-- The nodes of a source, read by positions. -/
def parse (source : List Char) : Run (List Node) := do
  let segments ← segmentsFrom source false [] 0
  nodesFrom (byteLength source) [] [] segments

/-! ## Agreement -/

section Agreement

variable {source : List Char} {stack : List OpenBlock} {nodes : List Node}

/-- All open blocks begin at positions of the source. -/
def AreOpenedIn (source : List Char) (stack : List OpenBlock) : Prop :=
  ∀ b ∈ stack, IsPosition source b.offset

theorem AreOpenedIn.tail {b : OpenBlock} (opened : AreOpenedIn source (b :: stack)) :
    AreOpenedIn source stack := fun c mem => opened c (List.mem_cons_of_mem b mem)

theorem AreOpenedIn.cons {b : OpenBlock} (here : IsPosition source b.offset)
    (opened : AreOpenedIn source stack) : AreOpenedIn source (b :: stack) :=
  List.forall_mem_cons.mpr ⟨here, opened⟩

/-- The pipeline behind a first token. -/
theorem pipelineIn_tail_agrees {offset : Nat} {tokens : List Token} (some : tokens ≠ [])
    (here : IsPosition source offset) (placed : ArePlaced source tokens) {α β : Type}
    {r : α → β → Prop} {f : Pipeline → Run α} {g : Pipeline → Except ParseError β}
    (next : ∀ pipe, Agrees source r (f pipe) (g pipe)) :
    Agrees source r
      (do
        let ⟨arguments, _⟩ ← slice? tokens 1 tokens.length
        let pipe ← pipelineIn offset arguments
        f pipe)
      (readPipeline offset tokens.tail >>= g) := by
  obtain ⟨shorter, slice⟩ := slice?_tail some
  rw [slice, Run.lift_bind]
  refine (pipelineIn_agrees here (placed.subset (List.tail_subset tokens))).bind ?_
  rintro pipe _ rfl
  exact next pipe

theorem elseAt_agrees {offset : Nat} {tokens : List Token} {b : OpenBlock}
    (here : IsPosition source offset) (placed : ArePlaced source tokens)
    (opened : AreOpenedIn source (b :: stack)) :
    Agrees source (fun x y => x = y ∧ AreOpenedIn source y) (elseAt offset tokens nodes b stack)
      (elseBlock offset tokens nodes b stack) := by
  have other : AreOpenedIn source ({ b with body? := some nodes.reverse } :: stack) :=
    opened.tail.cons (opened b List.mem_cons_self)
  refine .ite (fun _ => .error here _) fun _ => .ite (fun _ => .ok ⟨rfl, other⟩) fun some => ?_
  have some : tokens ≠ [] := fun none => some (by rw [none]; rfl)
  obtain ⟨kind, _⟩ := b
  by_cases begins : kind = .ifBlock ∧ Directive.ofTokens tokens = .begins .ifBlock
  · obtain ⟨rfl, word⟩ := begins
    dsimp only
    rw [word]
    exact pipelineIn_tail_agrees some here placed fun pipe => .ok ⟨rfl, other.cons here⟩
  · repeat' split
    all_goals first
      | exact absurd ⟨‹_›, ‹_›⟩ begins
      | exact .error here _

/-- Ending blocks leaves blocks open that were open. -/
theorem endBlock_subset (b : OpenBlock) (nodes : List Node) (stack : List OpenBlock) :
    (endBlock b nodes stack).2 ⊆ stack := by
  induction stack generalizing b nodes with
  | nil => exact List.Subset.refl []
  | cons outer stack ih =>
    rw [endBlock]
    split
    · exact List.subset_cons_of_subset outer (ih outer _)
    · exact List.Subset.refl _

theorem nodesFrom_agrees {segments : List Segment} (opened : AreOpenedIn source stack)
    (placed : ∀ seg ∈ segments, seg.IsPlaced source) :
    Agrees source Eq (nodesFrom (byteLength source) stack nodes segments)
      (readNodes (byteLength source) stack nodes segments) := by
  induction segments generalizing stack nodes with
  | nil =>
    cases stack with
    | nil => exact .ok rfl
    | cons b stack => exact .error (opened b List.mem_cons_self) _
  | cons seg rest ih =>
    obtain ⟨placedHere, placedRest⟩ := List.forall_mem_cons.mp placed
    cases seg with
    | text s => exact ih opened placedRest
    | action tokens offset =>
      obtain ⟨here, placedTokens⟩ := placedHere
      have some {d : Directive} (word : Directive.ofTokens tokens = d)
          (evaluates : d ≠ .evaluates) : tokens ≠ [] := by
        rintro rfl
        exact evaluates word.symm
      rw [nodesFrom.eq_def]
      cases word : Directive.ofTokens tokens with
      | evaluates =>
        rw [readNodes_evaluates word]
        simp only [word]
        refine (pipelineIn_agrees here placedTokens).bind ?_
        rintro pipe _ rfl
        exact ih opened placedRest
      | begins kind =>
        rw [readNodes_begins word]
        simp only [word]
        exact pipelineIn_tail_agrees (some word nofun) here placedTokens fun pipe =>
          ih (opened.cons here) placedRest
      | otherwise =>
        cases stack with
        | nil =>
          rw [readNodes.eq_def]
          simp only [word]
          exact .error here _
        | cons b stack =>
          obtain ⟨shorter, slice⟩ := slice?_tail (some word nofun)
          rw [readNodes_otherwise word]
          simp only [word, slice, Run.lift_bind]
          refine (elseAt_agrees here (placedTokens.subset (List.tail_subset tokens)) opened).bind ?_
          rintro stack _ ⟨rfl, opened⟩
          exact ih opened placedRest
      | ends =>
        have single : 1 < tokens.length ↔ (!tokens.tail.isEmpty) = true := by
          cases tokens with
          | nil => exact absurd rfl (some word nofun)
          | cons t ts => simp [List.length_pos_iff]
        cases stack with
        | nil =>
          rw [readNodes.eq_def]
          simp only [word, single]
          exact .ite (fun _ => .error here _) fun _ =>
            .error (isPosition_of_cutFrom? (cutFrom?_byteLength source)) _
        | cons b stack =>
          rw [readNodes_ends word]
          simp only [word, single]
          exact .ite (fun _ => .error here _) fun _ =>
            ih (fun c mem => opened.tail c (endBlock_subset b nodes stack mem)) placedRest

theorem parse_agrees (source : List Char) :
    Agrees source Eq (parse source) (Template.parse source) := by
  have whole : Agrees source _ (segmentsFrom source false [] 0) _ :=
    segmentsFrom_agrees (cutFrom?_zero source) nofun
  have read : Agrees source (fun a b => a = b ∧ ∀ seg ∈ b, seg.IsPlaced source)
      (segmentsFrom source false [] 0) (segments source) := by
    rw [segments]
    cases same : Template.segmentsFrom (byteLength source) false source <;> rwa [same] at whole
  refine read.bind ?_
  rintro segs _ ⟨rfl, placed⟩
  exact nodesFrom_agrees nofun placed

end Agreement

end ByPosition

/-! ## Every source -/

theorem utf8ByteSize_ofList (cs : List Char) :
    (String.ofList cs).utf8ByteSize = byteLength cs := by
  rw [String.utf8ByteSize_ofList]
  induction cs with
  | nil => rfl
  | cons c cs ih => rw [String.utf8Len_cons, ih, byteLength_cons, Nat.add_comm]

/-- A source can be cut where a position of its text is valid. -/
theorem isPosition_iff (source : String) (pos : Nat) :
    IsPosition source.toList pos ↔ (⟨pos⟩ : String.Pos.Raw).IsValid source := by
  rw [String.Pos.Raw.isValid_iff_exists_append, IsPosition, Option.isSome_iff_exists]
  constructor
  · rintro ⟨left, cut⟩
    obtain ⟨taken, whole, rfl⟩ := cutFrom?_eq_some_iff.mp cut
    refine ⟨String.ofList taken, String.ofList left, ?_, ?_⟩
    · rw [← String.ofList_append, ← whole, String.ofList_toList]
    · rw [← utf8ByteSize_ofList]
      rfl
  · rintro ⟨before, after, rfl, same⟩
    refine ⟨after.toList, cutFrom?_eq_some_iff.mpr ⟨before.toList, String.toList_append, ?_⟩⟩
    rw [← utf8ByteSize_ofList, String.ofList_toList]
    exact congrArg String.Pos.Raw.byteIdx same

/-- **Every source is read by positions, and every error has a place in it.** -/
theorem parse_eq_byPosition (source : String) :
    (ByPosition.parse source.toList).run = some (parse source.toList) ∧
      ((∃ nodes, parse source.toList = .ok nodes) ∨
        ∃ e, parse source.toList = .error e ∧ e.offset ≤ source.utf8ByteSize ∧
          (⟨e.offset⟩ : String.Pos.Raw).IsValid source) := by
  have agrees := ByPosition.parse_agrees source.toList
  cases read : parse source.toList with
  | ok nodes =>
    rw [read] at agrees
    obtain ⟨_, run, rfl⟩ := agrees
    exact ⟨run, .inl ⟨_, rfl⟩⟩
  | error e =>
    rw [read] at agrees
    have valid := (isPosition_iff source e.offset).mp agrees.2
    exact ⟨agrees.1, .inr ⟨e, rfl, valid.le_utf8ByteSize, valid⟩⟩

end MetricPath.Template
