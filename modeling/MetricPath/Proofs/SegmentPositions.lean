import MetricPath.Proofs.Layout
import MetricPath.Proofs.TokenPositions

/-!
# Segments by positions

Actions, comments and whole sources are read by positions here, from the token on up.  Each reader
agrees with the one of the text left (`actionFrom_agrees`, `commentAt_agrees`, `bracesAt_agrees`,
`segmentsFrom_agrees`), so none of the positions that the trim markers, the closings and the
comments lead to is out of place.  The places that tokens and actions carry along are positions of
the source as well (`Segment.IsPlaced`).
-/

namespace MetricPath.Template

open Text

/-- An action or a comment by positions: its tokens, the position after it and whether the text
there is to be trimmed. -/
structure ClosedAt where
  tokens : List Token
  stop : Nat
  trims : Bool

/-- All tokens are at positions of the source. -/
def ArePlaced (source : List Char) (ts : List Token) : Prop :=
  ∀ t ∈ ts, IsPosition source t.offset

theorem ArePlaced.nil (source : List Char) : ArePlaced source [] := nofun

theorem ArePlaced.concat {source : List Char} {ts : List Token} {t : Token}
    (h : ArePlaced source ts) (placed : IsPosition source t.offset) :
    ArePlaced source (ts ++ [t]) := by
  intro u mem
  rcases List.mem_append.mp mem with mem | mem
  · exact h u mem
  · exact List.mem_singleton.mp mem ▸ placed

theorem ArePlaced.subset {source : List Char} {ts us : List Token} (h : ArePlaced source ts)
    (sub : us ⊆ ts) : ArePlaced source us := fun t mem => h t (sub mem)

/-- The action is at a position of the source, and so are its tokens. -/
def Segment.IsPlaced (source : List Char) : Segment → Prop
  | .text _ => True
  | .action tokens offset => IsPosition source offset ∧ ArePlaced source tokens

/-- What is closed by position corresponds to what is closed with a text left. -/
structure Closes (source : List Char) (a : ClosedAt) (b : Closed) : Prop where
  tokens : a.tokens = b.tokens
  trims : a.trims = b.trims
  leaves : cutFrom? source a.stop = some b.rest
  placed : ArePlaced source b.tokens

/-- A text begins with another if something is left behind it. -/
theorem beginsWith_of_some {start cs rest : List Char} (h : dropBeginning? start cs = some rest) :
    beginsWith start cs = true := by
  rw [beginsWith, h, Option.isSome_some]

theorem beginsWith_of_none {start cs : List Char} (h : dropBeginning? start cs = none) :
    ¬ beginsWith start cs = true := by
  rw [beginsWith, h]
  exact Bool.false_ne_true

/-- An action with a token that cannot be read cannot be read. -/
theorem lexAction_failed {total start : Nat} {spaced : Bool} {c : Char} {cs : List Char}
    {e : ParseError} (goesOn : dropBeginning? closing (c :: cs) = none) (h : ¬ isSpace c)
    (failed : lexToken total c cs = .error e) :
    lexAction total start spaced (c :: cs) = .error e := by
  rw [lexAction, goesOn]
  simp only [if_neg h]
  split
  · rename_i same
    exact congrArg Except.error (Except.error.inj (same.symm.trans failed))
  · rename_i read
    rw [failed] at read
    cases read

namespace ByPosition

/-! ## Actions -/

/-- The action whose inside begins at `start`, of which the given tokens have been read. -/
def actionFrom (source : List Char) (start : Nat) (spaced : Bool) (tokens : List Token)
    (pos : Nat) : Run ClosedAt :=
  match byteAt? source pos with
  | none => throw ⟨start, .unclosedAction⟩
  | some b => do
    let left ← cutFrom? source pos
    if beginsWith closing left then return ⟨tokens, pos + 2, false⟩
    else if isSpace b then do
      let left ← cutFrom? source (skipAt isSpace source pos)
      if beginsWith trimClosing left then
        return ⟨tokens, skipAt isSpace source pos + 3, true⟩
      else do
        let next ← further? (byteLength source) pos (skipAt isSpace source pos)
        actionFrom source start true tokens next
    else do
      let (kind, stop) ← tokenAt source pos b
      let next ← further? (byteLength source) pos stop
      actionFrom source start false (tokens ++ [⟨kind, spaced, pos⟩]) next
termination_by byteLength source - pos
decreasing_by
  all_goals
    have := next.2
    omega

variable {source left : List Char} {pos start : Nat}

/-- **An action by positions is read like the text left.** -/
theorem actionFrom_agrees {spaced : Bool} {tokens : List Token}
    (opened : IsPosition source start) (h : cutFrom? source pos = some left)
    (placed : ArePlaced source tokens) :
    Agrees source (Closes source) (actionFrom source start spaced tokens pos)
      ((lexAction (byteLength source) start spaced left).map fun c =>
        { c with tokens := tokens ++ c.tokens }) := by
  -- along the reader of the text left; what carries it is that this text stands at the position
  induction spaced, left using lexAction.induct (byteLength source) generalizing pos tokens with
  | case1 spaced =>
    rw [actionFrom, byteAt?_nil h, lexAction]
    exact .error opened _
  | case2 spaced c cs rest found =>
    obtain ⟨b, byte, narrow, wide⟩ := byteAt?_cons h
    rw [actionFrom, byte, lexAction, found]
    simp only [h, Run.lift_bind, if_pos (beginsWith_of_some found)]
    refine .ok ⟨(List.append_nil tokens).symm, rfl, cutFrom?_of_dropBeginning? h found, ?_⟩
    simpa using placed
  | case3 spaced c cs closes space rest found =>
    obtain ⟨b, byte, narrow, wide⟩ := byteAt?_cons h
    have behind := cutFrom?_skipAt isSpace_inAscii h
    rw [List.dropWhile_cons_of_pos space] at behind
    rw [actionFrom, byte, lexAction, closes]
    simp only [h, Run.lift_bind, if_neg (beginsWith_of_none closes), behind,
      isSpace_inAscii.byte_iff narrow wide, if_pos space, found, if_pos (beginsWith_of_some found)]
    refine .ok ⟨(List.append_nil tokens).symm, rfl, cutFrom?_of_dropBeginning? behind found, ?_⟩
    simpa using placed
  | case4 spaced c cs closes space goesOn ih =>
    obtain ⟨b, byte, narrow, wide⟩ := byteAt?_cons h
    have behind := cutFrom?_skipAt isSpace_inAscii h
    rw [List.dropWhile_cons_of_pos space] at behind
    obtain ⟨within, further⟩ := further?_of_cutFrom? h behind <| by
      have := length_dropWhile_le isSpace cs
      simp only [List.length_cons]
      omega
    rw [actionFrom, byte, lexAction, closes]
    simp only [h, Run.lift_bind, if_neg (beginsWith_of_none closes), behind,
      isSpace_inAscii.byte_iff narrow wide, if_pos space, goesOn,
      if_neg (beginsWith_of_none goesOn), further]
    exact ih behind placed
  | case5 spaced c cs closes noSpace e failed =>
    obtain ⟨b, byte, narrow, wide⟩ := byteAt?_cons h
    have token := tokenAt_agrees h
    rw [failed] at token
    rw [actionFrom, byte, lexAction_failed closes noSpace failed]
    simp only [h, Run.lift_bind, if_neg (beginsWith_of_none closes),
      isSpace_inAscii.byte_iff narrow wide, if_neg noSpace, tokenAt_byte narrow wide, token.1,
      Run.error_bind]
    exact ⟨rfl, token.2⟩
  | case6 spaced c cs closes noSpace kind rest read ih =>
    obtain ⟨b, byte, narrow, wide⟩ := byteAt?_cons h
    have token := tokenAt_agrees h
    rw [read] at token
    obtain ⟨⟨kind, stop⟩, run, rfl, leaves⟩ := token
    obtain ⟨within, further⟩ := further?_of_cutFrom? h leaves
      (Nat.lt_succ_of_le (lexToken_length read))
    rw [actionFrom, byte, lexAction_token closes noSpace read, offsetOf,
      byteLength_sub_of_cutFrom? h]
    simp only [h, Run.lift_bind, if_neg (beginsWith_of_none closes),
      isSpace_inAscii.byte_iff narrow wide, if_neg noSpace, tokenAt_byte narrow wide, run,
      Run.ok_bind, further]
    -- the place that the token carries is the position, not a count of what was left
    have more := ih leaves (placed.concat (t := ⟨kind, spaced, pos⟩) (isPosition_of_cutFrom? h))
    simpa only [map_map, Closed.cons, List.append_assoc, List.singleton_append] using more

theorem actionAt_agrees (h : cutFrom? source pos = some left) :
    Agrees source (Closes source) (actionFrom source pos true [] pos)
      (lexAction (byteLength source) pos true left) := by
  have agrees : Agrees source (Closes source) (actionFrom source pos true [] pos) _ :=
    actionFrom_agrees (isPosition_of_cutFrom? h) h (.nil source)
  cases read : lexAction (byteLength source) pos true left <;> rwa [read] at agrees

/-! ## Comments -/

/-- The comment whose text begins at `body`, in an action that opens at `start`. -/
def commentAt (source : List Char) (start body : Nat) : Run ClosedAt := do
  let left ← cutFrom? source body
  match find? ['*', '/'] left with
  | none => throw ⟨start, .unclosedComment⟩
  | some length => do
    let after := body + length + 2
    let spaced := (byteAt? source after).any isSpace
    let stop := skipAt isSpace source after
    let left ← cutFrom? source stop
    if spaced && beginsWith trimClosing left then return ⟨[], stop + 3, true⟩
    else if beginsWith closing left then return ⟨[], stop + 2, false⟩
    else throw ⟨start, .commentNotClosing⟩

theorem commentAt_agrees {body : Nat} (opened : IsPosition source start)
    (h : cutFrom? source body = some left) :
    Agrees source (Closes source) (commentAt source start body) (readComment start left) := by
  rw [commentAt, h, Run.lift_bind, find?, readComment]
  cases cut : cutAt? ['*', '/'] left with
  | none => exact .error opened _
  | some found =>
    obtain ⟨before, after⟩ := found
    rw [eq_append_of_cutAt? cut] at h
    have ended : cutFrom? source (body + byteLength before + 2) = some after :=
      cutFrom?_add (cutFrom?_add h)
    have behind := cutFrom?_skipAt isSpace_inAscii ended
    dsimp only [Option.map_some]
    rw [behind, Run.lift_bind, byteAt?_any isSpace_inAscii ended]
    have marked : (after.head?.any isSpace && beginsWith trimClosing (after.dropWhile isSpace))
        = (if after.head?.any isSpace then dropBeginning? trimClosing (after.dropWhile isSpace)
          else none).isSome := by
      cases after.head?.any isSpace <;> rfl
    rw [marked]
    cases trims : (if after.head?.any isSpace then
      dropBeginning? trimClosing (after.dropWhile isSpace) else none) with
    | some rest =>
      have mark : dropBeginning? trimClosing (after.dropWhile isSpace) = some rest := by
        split at trims
        · exact trims
        · cases trims
      exact .ok ⟨rfl, rfl, cutFrom?_of_dropBeginning? behind mark, .nil source⟩
    | none =>
      cases closes : dropBeginning? closing (after.dropWhile isSpace) with
      | some rest =>
        simp only [Option.isSome_none, Bool.false_eq_true, if_false,
          if_pos (beginsWith_of_some closes)]
        exact .ok ⟨rfl, rfl, cutFrom?_of_dropBeginning? behind closes, .nil source⟩
      | none =>
        simp only [Option.isSome_none, Bool.false_eq_true, if_false,
          if_neg (beginsWith_of_none closes)]
        exact .error opened _

/-! ## Sources -/

/-- The action or comment that opens at `start` and whose inside begins at `inner`, with its
segments. -/
def bracesAt (source : List Char) (start inner : Nat) : Run (List Segment × ClosedAt) := do
  let cursor := skipAt isSpace source inner
  let left ← cutFrom? source cursor
  if beginsWith ['/', '*'] left then do
    let closed ← commentAt source start (cursor + 2)
    return ([], closed)
  else do
    let closed ← actionFrom source inner true [] inner
    return ([.action closed.tokens start], closed)

theorem bracesAt_agrees {inner : Nat} (opened : IsPosition source start)
    (h : cutFrom? source inner = some left) :
    Agrees source
      (fun a b => a.1 = b.1 ∧ (∀ seg ∈ b.1, seg.IsPlaced source) ∧ Closes source a.2 b.2)
      (bracesAt source start inner) (readBraces (byteLength source) start left) := by
  have behind := cutFrom?_skipAt isSpace_inAscii h
  rw [bracesAt, behind, Run.lift_bind, readBraces]
  cases mark : dropBeginning? ['/', '*'] (left.dropWhile isSpace) with
  | some body =>
    rw [if_pos (beginsWith_of_some mark)]
    have comment := commentAt_agrees opened (cutFrom?_of_dropBeginning? behind mark)
    exact comment.map fun a b closes => ⟨rfl, nofun, closes⟩
  | none =>
    rw [if_neg (beginsWith_of_none mark), offsetOf, byteLength_sub_of_cutFrom? h]
    refine (actionAt_agrees h).map fun a b closes => ⟨?_, ?_, closes⟩
    · rw [closes.tokens]
    · intro seg mem
      rw [List.mem_singleton.mp mem]
      exact ⟨opened, closes.placed⟩

/-- The segments of a source from a position on, behind those that have been found. -/
def segmentsFrom (source : List Char) (trims : Bool) (found : List Segment) (pos : Nat) :
    Run (List Segment) :=
  if pos < byteLength source then do
    let left ← cutFrom? source pos
    match find? opening left with
    | none => return found ++ textSegment (trimText trims false left)
    | some length => do
      let start := pos + length
      let text ← cutBetween? source pos start
      let inner := start + 2
      let trimsText : Bool :=
        byteAt? source inner = some '-' ∧ (byteAt? source (inner + 1)).any isSpace
      let (segments, closed) ← bracesAt source start (if trimsText then inner + 1 else inner)
      let text := trimText trims trimsText text
      let next ← further? (byteLength source) pos closed.stop
      segmentsFrom source closed.trims (found ++ (textSegment text ++ segments)) next
  else return found
termination_by byteLength source - pos
decreasing_by
  have := next.2
  omega

/-- A trim marker at a position and the text left behind it. -/
theorem trims_eq (h : cutFrom? source pos = some left) :
    decide (byteAt? source pos = some '-' ∧ (byteAt? source (pos + 1)).any isSpace)
      = (dropTrim? left).isSome ∧
    cutFrom? source (if (dropTrim? left).isSome then pos + 1 else pos)
      = some ((dropTrim? left).getD left) := by
  have marked := byteAt?_pair_iff (c := '-') (by decide) isSpace_inAscii h
  unfold dropTrim?
  split
  · rename_i c cs
    by_cases space : isSpace c
    · rw [if_pos space]
      exact ⟨decide_eq_true (marked.mpr ⟨c, cs, rfl, space⟩), cutFrom?_succ (by decide) h⟩
    · rw [if_neg space]
      refine ⟨decide_eq_false (mt marked.mp ?_), h⟩
      rintro ⟨d, ds, eq, first⟩
      cases eq
      exact space first
  · rename_i other
    refine ⟨decide_eq_false (mt marked.mp ?_), h⟩
    rintro ⟨d, ds, eq, -⟩
    exact other d ds eq

theorem isPlaced_textSegment (source cs : List Char) :
    ∀ seg ∈ textSegment cs, seg.IsPlaced source := by
  intro seg mem
  rw [textSegment] at mem
  split at mem
  · cases mem
  · rw [List.mem_singleton.mp mem]
    trivial

/-- The segments up to the first braces, and the positions of these. -/
theorem segmentsFrom_cut {trims : Bool} {found : List Segment} {before after : List Char}
    (h : cutFrom? source pos = some left) (cut : cutAt? opening left = some (before, after)) :
    ∃ start inner, IsPosition source start ∧ offsetOf (byteLength source) after - 2 = start ∧
      cutFrom? source inner = some ((dropTrim? after).getD after) ∧
      segmentsFrom source trims found pos = (do
        let (segments, closed) ← bracesAt source start inner
        let text := trimText trims (dropTrim? after).isSome before
        let next ← further? (byteLength source) pos closed.stop
        segmentsFrom source closed.trims (found ++ (textSegment text ++ segments)) next) := by
  have whole := eq_append_of_cutAt? cut
  have some : left ≠ [] := by
    rw [whole]
    simp [opening]
  rw [whole] at h
  have opens := cutFrom?_add h
  have behind : cutFrom? source (pos + byteLength before + 2) = _ := cutFrom?_add opens
  obtain ⟨marked, inside⟩ := trims_eq behind
  refine ⟨pos + byteLength before, _, isPosition_of_cutFrom? opens, ?_, inside, ?_⟩
  · rw [offsetOf, byteLength_sub_of_cutFrom? behind, Nat.add_sub_cancel]
  · rw [segmentsFrom, if_pos ((lt_byteLength_iff h).mpr (whole ▸ some)), h, Run.lift_bind, ← whole,
      find?, cut]
    simp only [Option.map_some, cutBetween?_of_cutFrom? h opens, Run.lift_bind, marked]

theorem segmentsFrom_agrees {trims : Bool} {found : List Segment}
    (h : cutFrom? source pos = some left) (placed : ∀ seg ∈ found, seg.IsPlaced source) :
    Agrees source (fun a b => a = b ∧ ∀ seg ∈ b, seg.IsPlaced source)
      (segmentsFrom source trims found pos)
      ((Template.segmentsFrom (byteLength source) trims left).map (found ++ ·)) := by
  induction trims, left using Template.segmentsFrom.induct (byteLength source)
    generalizing pos found with
  | case1 trims left plain =>
    rw [segmentsFrom, segmentsFrom_plain plain]
    have both := List.forall_mem_append.mpr
      ⟨placed, isPlaced_textSegment source (trimText trims false left)⟩
    by_cases empty : left = []
    · rw [if_neg fun more => (lt_byteLength_iff h).mp more empty, empty]
      have none : textSegment (trimText trims false []) = [] := by cases trims <;> rfl
      rw [none]
      exact .ok ⟨(List.append_nil found).symm, by simpa using placed⟩
    · rw [if_pos ((lt_byteLength_iff h).mpr empty), h, Run.lift_bind, find?, plain]
      exact .ok ⟨rfl, both⟩
  | case2 trims left before after cut =>
    rename_i e failed
    obtain ⟨start, inner, opened, rfl, inside, run⟩ := segmentsFrom_cut h cut
    have braces := bracesAt_agrees opened inside
    rw [failed] at braces
    rw [run, segmentsFrom_braces cut, failed, braces.1]
    exact ⟨rfl, braces.2⟩
  | case3 trims left before after cut =>
    rename_i segments closed read ih
    obtain ⟨start, inner, opened, rfl, inside, run⟩ := segmentsFrom_cut h cut
    have braces := bracesAt_agrees opened inside
    rw [read] at braces
    obtain ⟨⟨_, closedAt⟩, runs, same, placedThere, closes⟩ := braces
    dsimp only at same placedThere closes
    subst same
    have text := isPlaced_textSegment source (trimText trims (dropTrim? after).isSome before)
    have more := ih closes.leaves (List.forall_mem_append.mpr
      ⟨placed, List.forall_mem_append.mpr ⟨text, placedThere⟩⟩)
    -- the loop gets further since the braces have taken their delimiters off the text
    obtain ⟨within, further⟩ := further?_of_cutFrom? h closes.leaves <| by
      have braces : closed.rest.length < ((dropTrim? after).getD after).length :=
        readBraces_length read
      have inside := (getD_dropTrim?_suffix after).length_le
      have whole := cutAt?_length cut
      omega
    rw [run, segmentsFrom_braces cut, read, runs, Run.ok_bind]
    dsimp only
    rw [further, Run.lift_bind, closes.trims]
    dsimp only [bind, Except.bind]
    simpa only [map_map, List.append_assoc] using more

end ByPosition

end MetricPath.Template
