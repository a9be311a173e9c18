import Mathlib
import MetricPath.Proofs.Layout
import MetricPath.Proofs.Rendering
import MetricPath.Proofs.TemplateGrammar

/-!
# Templates one after the other

Two sources that compile, one after the other, are a source that compiles, and it renders what the
first renders and then what the second renders (`compile_append`).  The conditions are that neither
is trimmed where they meet, and that no opening comes about there.

The segments of the whole are those of the first and then those of the second, up to their places,
except that the texts where they meet have become one.  The grammar of templates does not look at
places (`Derives.of_unplaced`), lists of nodes may follow each other (`Derives.append`), and a text
at either end of the segments is a node at that end of the list, so that it can be taken away
(`Derives.text_last`, `Derives.text_first`) and the joint text put there.
-/

namespace MetricPath.Template

/-! ## Places -/

section Places

variable {r : Reading}

theorem Token.kind_eq {t t' : Token} (h : t'.unplaced = t.unplaced) : t'.kind = t.kind :=
  (Token.mk.inj h).1

theorem Token.spaced_eq {t t' : Token} (h : t'.unplaced = t.unplaced) : t'.spaced = t.spaced :=
  (Token.mk.inj h).2.1

/-- Whether a chain could belong to what stands before it is not a matter of places. -/
theorem Joins.of_unplaced {ts us ts' us' : List Token}
    (hts : ts'.map Token.unplaced = ts.map Token.unplaced)
    (hus : us'.map Token.unplaced = us.map Token.unplaced) (h : Joins ts us) : Joins ts' us' := by
  obtain ⟨⟨p, last, closes⟩, t, rest, chain, rfl, kind, unspaced⟩ := h
  have lasts : ts'.getLast?.map Token.unplaced = ts.getLast?.map Token.unplaced := by
    rw [← List.getLast?_map, ← List.getLast?_map, hts]
  rw [last] at lasts
  obtain ⟨p', last', same⟩ := Option.map_eq_some_iff.mp lasts
  obtain ⟨t', rest', rfl, first, -⟩ := List.map_eq_cons_iff.mp hus
  exact ⟨⟨p', last', by rw [Token.kind_eq same, closes]⟩, t', rest', chain, rfl,
    by rw [Token.kind_eq first, kind], by rw [Token.spaced_eq first, unspaced]⟩

theorem Attaches.of_unplaced {chain : List String} {ts ts' : List Token} (h : Attaches chain ts)
    (same : ts'.map Token.unplaced = ts.map Token.unplaced) : Attaches chain ts' := by
  cases h with
  | none =>
    cases List.map_eq_nil_iff.mp same
    exact .none
  | chain kind unspaced =>
    obtain ⟨t', rfl, eq⟩ := List.map_eq_singleton_iff.mp same
    exact .chain (by rw [Token.kind_eq eq, kind]) (by rw [Token.spaced_eq eq, unspaced])

/-- What tokens spell is not a matter of places. -/
theorem Spells.of_unplaced {φ : Phrase} {ts ts' : List Token} (h : Spells r φ ts)
    (same : ts'.map Token.unplaced = ts.map Token.unplaced) : Spells r φ ts' := by
  induction h generalizing ts' with
  | token denotes =>
    obtain ⟨t', rfl, eq⟩ := List.map_eq_singleton_iff.mp same
    exact .token (by rw [Token.kind_eq eq]; exact denotes)
  | sub hl _ hr attaches ih =>
    rw [List.map_cons, List.map_append, List.map_cons] at same
    obtain ⟨left, rest, rfl, eqL, same⟩ := List.map_eq_cons_iff.mp same
    obtain ⟨inside, rest, rfl, eqI, same⟩ := List.map_eq_append_iff.mp same
    obtain ⟨right, behind, rfl, eqR, same⟩ := List.map_eq_cons_iff.mp same
    exact .sub (by rw [Token.kind_eq eqL, hl]) (ih eqI) (by rw [Token.kind_eq eqR, hr])
      (attaches.of_unplaced same)
  | nil =>
    cases List.map_eq_nil_iff.mp same
    exact .nil
  | cons _ _ apart iho ihos =>
    rw [List.map_append] at same
    obtain ⟨first, others, rfl, eqF, eqO⟩ := List.map_eq_append_iff.mp same
    refine .cons (iho eqF) (ihos eqO) fun longest joins => apart longest ?_
    exact joins.of_unplaced eqF.symm eqO.symm
  | call kind _ ih =>
    obtain ⟨word, args, rfl, eq, same⟩ := List.map_eq_cons_iff.mp same
    exact .call (by rw [Token.kind_eq eq, kind]) (ih same)
  | value _ noCall ih => exact .value (ih same) noCall
  | single _ ih => exact .single (ih same)
  | pipe _ kind _ ihc ihcs =>
    rw [List.map_append, List.map_cons] at same
    obtain ⟨command, rest, rfl, eqC, same⟩ := List.map_eq_append_iff.mp same
    obtain ⟨pipe, others, rfl, eqP, same⟩ := List.map_eq_cons_iff.mp same
    exact .pipe (ihc eqC) (by rw [Token.kind_eq eqP, kind]) (ihcs same)

theorem exists_action_of_unplaced {segs segs' : List Segment} {ts : List Token} {offset : Nat}
    (h : segs'.map Segment.unplaced = (Segment.action ts offset :: segs).map Segment.unplaced) :
    ∃ ts' offset' rest, segs' = .action ts' offset' :: rest ∧
      ts'.map Token.unplaced = ts.map Token.unplaced ∧
      rest.map Segment.unplaced = segs.map Segment.unplaced := by
  obtain ⟨seg, rest, rfl, eq, tail⟩ := List.map_eq_cons_iff.mp h
  cases seg with
  | text s => cases eq
  | action ts' offset' =>
    rw [Segment.unplaced, Segment.unplaced, Segment.action.injEq] at eq
    exact ⟨ts', offset', rest, rfl, eq.1, tail⟩

/-- What segments derive from is not a matter of places. -/
theorem Derives.of_unplaced {p : Part} {segs segs' : List Segment} (h : Derives r p segs)
    (same : segs'.map Segment.unplaced = segs.map Segment.unplaced) : Derives r p segs' := by
  induction h generalizing segs' with
  | nil =>
    cases List.map_eq_nil_iff.mp same
    exact .nil
  | text _ ih =>
    obtain ⟨seg, rest, rfl, eq, eqR⟩ := List.map_eq_cons_iff.mp same
    cases seg with
    | action => cases eq
    | text s =>
      cases eq
      exact .text (ih eqR)
  | action spells _ ih =>
    obtain ⟨ts, offset, rest, rfl, eqT, eqR⟩ := exists_action_of_unplaced same
    exact .action (spells.of_unplaced eqT) (ih eqR)
  | block hw spells _ _ _ ihBody ihTail ih =>
    obtain ⟨ts, offset, rest, rfl, eqT, eqR⟩ := exists_action_of_unplaced same
    obtain ⟨word, args, rfl, eqW, eqA⟩ := List.map_eq_cons_iff.mp eqT
    rw [List.map_append, List.map_append] at eqR
    obtain ⟨inside, others, rfl, eqI, eqO⟩ := List.map_eq_append_iff.mp eqR
    obtain ⟨tail, rest, rfl, eqTail, eqR⟩ := List.map_eq_append_iff.mp eqO
    exact .block (by rw [Token.kind_eq eqW, hw]) (spells.of_unplaced eqA) (ihBody eqI)
      (ihTail eqTail) (ih eqR)
  | ends hw =>
    obtain ⟨ts, offset, rest, rfl, eqT, eqR⟩ := exists_action_of_unplaced same
    obtain ⟨word, rfl, eqW⟩ := List.map_eq_singleton_iff.mp eqT
    cases List.map_eq_nil_iff.mp eqR
    exact .ends (by rw [Token.kind_eq eqW, hw])
  | otherwise hw _ hs ih =>
    obtain ⟨ts, offset, rest, rfl, eqT, eqR⟩ := exists_action_of_unplaced same
    obtain ⟨word, rfl, eqW⟩ := List.map_eq_singleton_iff.mp eqT
    rw [List.map_append] at eqR
    obtain ⟨inside, last, rfl, eqI, eqL⟩ := List.map_eq_append_iff.mp eqR
    obtain ⟨ts, stopOffset, rest, rfl, eqT', eqR'⟩ := exists_action_of_unplaced eqL
    obtain ⟨stop, rfl, eqS⟩ := List.map_eq_singleton_iff.mp eqT'
    cases List.map_eq_nil_iff.mp eqR'
    exact .otherwise (by rw [Token.kind_eq eqW, hw]) (ih eqI) (by rw [Token.kind_eq eqS, hs])
  | elseIf hw hs spells _ _ ihBody ihTail =>
    obtain ⟨ts, offset, rest, rfl, eqT, eqR⟩ := exists_action_of_unplaced same
    obtain ⟨word, others, rfl, eqW, eqO⟩ := List.map_eq_cons_iff.mp eqT
    obtain ⟨second, args, rfl, eqS, eqA⟩ := List.map_eq_cons_iff.mp eqO
    rw [List.map_append] at eqR
    obtain ⟨inside, tail, rfl, eqI, eqTail⟩ := List.map_eq_append_iff.mp eqR
    exact .elseIf (by rw [Token.kind_eq eqW, hw]) (by rw [Token.kind_eq eqS, hs])
      (spells.of_unplaced eqA) (ihBody eqI) (ihTail eqTail)

/-- The nodes of a layout, if it is that of a template. -/
def Layout.nodes? (l : Layout) : Option (List Node) :=
  (readNodes 0 [] [] (l.segments false)).toOption

theorem Layout.nodes?_eq_some_iff {l : Layout} {nodes : List Node} :
    l.nodes? = some nodes ↔ Derives .longest (.list nodes) (l.segments false) := by
  rw [nodes?, toOption_eq_some_iff, readNodes_eq_ok_iff]

/-- What a source is parsed to is a matter of its layout without places. -/
theorem toOption_parse (source : List Char) :
    (parse source).toOption = (laidOut source).bind Layout.nodes? := by
  rw [← toOption_layoutFrom (Text.byteLength source), parse, segments_eq, layout]
  cases layoutFrom (Text.byteLength source) source with
  | error e => rfl
  | ok l =>
    change (readNodes (Text.byteLength source) [] [] (l.segments false)).toOption
      = l.unplaced.nodes?
    refine Option.ext fun nodes => ?_
    rw [toOption_eq_some_iff, readNodes_eq_ok_iff, Layout.nodes?_eq_some_iff,
      ← Layout.map_unplaced_segments]
    exact ⟨fun h => h.of_unplaced (by simp), fun h => h.of_unplaced (by simp)⟩

end Places

/-! ## Lists one after the other -/

section Lists

variable {nodes nodes' : List Node} {segs segs' : List Segment}

/-- Lists may follow each other. -/
theorem Derives.append (h : Derives .longest (.list nodes) segs)
    (h' : Derives .longest (.list nodes') segs') :
    Derives .longest (.list (nodes ++ nodes')) (segs ++ segs') := by
  have first := h.isRead 0 [] [] (segs' ++ [])
  have second := h'.isRead 0 [] (nodes.reverse ++ []) []
  rw [second, readNodes] at first
  exact (readNodes_eq_ok_iff 0).mp (by simpa using first)

/-- The node of a text; there is none for an empty one. -/
def textNode (cs : List Char) : List Node :=
  if cs.isEmpty then [] else [.text (String.ofList cs)]

theorem derives_textNode (cs : List Char) :
    Derives .longest (.list (textNode cs)) (textSegment cs) := by
  unfold textNode textSegment
  split
  · exact .nil
  · exact .text .nil

/-- Text at the end of the segments is text at the end of the list. -/
theorem readNodes_concat_text (total : Nat) (s : String) (segs : List Segment)
    (stack : List OpenBlock) (before : List Node) :
    readNodes total stack before (segs ++ [.text s])
      = (readNodes total stack before segs).map (· ++ [.text s]) := by
  induction segs generalizing stack before with
  | nil =>
    rw [List.nil_append, readNodes]
    cases stack with
    | nil =>
      rw [readNodes, readNodes, List.reverse_cons]
      rfl
    | cons b stack => rfl
  | cons seg segs ih =>
    rw [List.cons_append]
    cases seg with
    | text s' => rw [readNodes, readNodes, ih]
    | action ts offset =>
      cases directive : Directive.ofTokens ts with
      | evaluates =>
        rw [readNodes_evaluates directive, readNodes_evaluates directive]
        cases readPipeline offset ts with
        | error e => rfl
        | ok pipe => exact ih stack (.action pipe :: before)
      | begins kind =>
        rw [readNodes_begins directive, readNodes_begins directive]
        cases readPipeline offset ts.tail with
        | error e => rfl
        | ok pipe => exact ih (⟨kind, offset, pipe, before, none, false⟩ :: stack) []
      | otherwise =>
        cases stack with
        | nil =>
          rw [readNodes.eq_def, readNodes.eq_def]
          simp only [directive]
          rfl
        | cons b stack =>
          rw [readNodes_otherwise directive, readNodes_otherwise directive]
          cases elseBlock offset ts.tail before b stack with
          | error e => rfl
          | ok opened => exact ih opened []
      | ends =>
        cases stack with
        | nil =>
          rw [readNodes.eq_def, readNodes.eq_def]
          simp only [directive]
          split <;> rfl
        | cons b stack =>
          rw [readNodes_ends directive, readNodes_ends directive]
          split
          · rfl
          · exact ih _ _

/-- Text at the end of what derives from a list can be taken away. -/
theorem Derives.text_last {text : List Char}
    (h : Derives .longest (.list nodes) (segs ++ textSegment text)) :
    ∃ front, nodes = front ++ textNode text ∧ Derives .longest (.list front) segs := by
  by_cases empty : text.isEmpty
  · rw [textSegment, if_pos empty, List.append_nil] at h
    rw [textNode, if_pos empty]
    exact ⟨nodes, (List.append_nil nodes).symm, h⟩
  · rw [textSegment, if_neg empty] at h
    rw [textNode, if_neg empty]
    have read := (readNodes_eq_ok_iff 0).mpr h
    rw [readNodes_concat_text] at read
    obtain ⟨front, read, eq⟩ := map_eq_ok.mp read
    exact ⟨front, eq.symm, (readNodes_eq_ok_iff 0).mp read⟩

/-- Text at the beginning of what derives from a list can be taken away. -/
theorem Derives.text_first {text : List Char}
    (h : Derives .longest (.list nodes) (textSegment text ++ segs)) :
    ∃ back, nodes = textNode text ++ back ∧ Derives .longest (.list back) segs := by
  by_cases empty : text.isEmpty
  · rw [textSegment, if_pos empty] at h
    rw [textNode, if_pos empty]
    exact ⟨nodes, rfl, h⟩
  · rw [textSegment, if_neg empty] at h
    rw [textNode, if_neg empty]
    cases h with
    | @text _ back _ derives => exact ⟨back, rfl, derives⟩

end Lists

/-! ## Rendering -/

/-- Nodes are rendered one after the other. -/
theorem renderNodes_append (root : Value) (dot : Datum) (nodes nodes' : List Node) :
    renderNodes root dot (nodes ++ nodes') = do
      let s ← renderNodes root dot nodes
      return s ++ (← renderNodes root dot nodes') := by
  induction nodes with
  | nil => simp only [List.nil_append, renderNodes, pure_bind, String.empty_append, bind_pure]
  | cons n nodes ih =>
    simp only [List.cons_append, renderNodes, ih, bind_assoc, pure_bind, String.append_assoc]

theorem renderNodes_textNode (root : Value) (dot : Datum) (cs : List Char) :
    renderNodes root dot (textNode cs) = return String.ofList cs := by
  unfold textNode
  split
  · rename_i empty
    rw [List.isEmpty_iff.mp empty, renderNodes]
  · simp only [renderNodes, renderNode, pure_bind, String.append_empty]

/-- Two texts that meet are rendered as one. -/
theorem renderNodes_meeting (root : Value) (dot : Datum) (front back : List Node)
    (text first : List Char) :
    renderNodes root dot (front ++ textNode (text ++ first) ++ back) = do
      let s ← renderNodes root dot (front ++ textNode text)
      return s ++ (← renderNodes root dot (textNode first ++ back)) := by
  simp only [renderNodes_append, renderNodes_textNode, bind_assoc, pure_bind, String.append_assoc,
    String.ofList_append]

/-! ## Templates -/

/-- The nodes of a template derive from the segments of its source. -/
theorem compile_eq_ok_iff {source : String} {t : Template} :
    compile source = .ok t ↔ ∃ segs nodes, segments source.toList = .ok segs ∧
      Derives .longest (.list nodes) segs ∧ t = ⟨source, nodes⟩ := by
  rw [compile, parse, bind_eq_ok]
  constructor
  · rintro ⟨nodes, parsed, returned⟩
    obtain ⟨segs, lexed, read⟩ := bind_eq_ok.mp parsed
    cases returned
    exact ⟨segs, nodes, lexed, (readNodes_eq_ok_iff _).mp read, rfl⟩
  · rintro ⟨segs, nodes, lexed, derives, rfl⟩
    exact ⟨nodes, bind_eq_ok.mpr ⟨segs, lexed, (readNodes_eq_ok_iff _).mpr derives⟩, rfl⟩

/-- **Templates one after the other.** If the last action or comment of a source does not close with
a trim marker, the first one of another does not open with one, and no opening comes about where the
two meet, then the two sources together compile if each does, and render what the first renders and
then what the second does.  If the first fails, so does the whole, in the same way, and else if the
second fails. -/
theorem compile_append {a b : String} {ta tb : Template} (ha : compile a = .ok ta)
    (hb : compile b = .ok tb) (closes : closesTrimming a.toList = false)
    (opens : opensTrimming b.toList = false) (apart : Apart a.toList b.toList) :
    ∃ t, compile (a ++ b) = .ok t ∧ ∀ context c,
      ((t.execute context).run.run c).1 =
        match ta.outcome context, tb.outcome context with
        | .ok s, .ok s' => .ok (s ++ s')
        | .ok _, .error fault => .error fault
        | .error fault, _ => .error fault := by
  obtain ⟨segsA, nodesA, lexedA, derivesA, rfl⟩ := compile_eq_ok_iff.mp ha
  obtain ⟨segsB, nodesB, lexedB, derivesB, rfl⟩ := compile_eq_ok_iff.mp hb
  obtain ⟨segs, front, text, first, back, lexed, rfl, rfl, unplaced⟩ :=
    segments_append lexedA lexedB closes opens apart
  obtain ⟨before, rfl, derivesFront⟩ := derivesA.text_last
  obtain ⟨after, rfl, derivesBack⟩ := derivesB.text_first
  have derives := (derivesFront.append (derives_textNode (text ++ first))).append derivesBack
  refine ⟨⟨a ++ b, before ++ textNode (text ++ first) ++ after⟩, ?_, fun context c => ?_⟩
  · rw [compile_eq_ok_iff, String.toList_append]
    exact ⟨segs, _, lexed, derives.of_unplaced unplaced, rfl⟩
  · have runA := execute_fst ⟨a, before ++ textNode text⟩ context
    have runB := execute_fst ⟨b, textNode first ++ after⟩ context
    rw [execute] at runA runB ⊢
    rw [renderNodes_meeting, run_bind, ← runA c]
    rcases (renderNodes context (some context) (before ++ textNode text)).run.run c with
      ⟨fault | s, c'⟩
    · rfl
    · -- the second part is rendered with the patterns compiled in the first
      dsimp only
      rw [run_bind, ← runB c']
      rcases (renderNodes context (some context) (textNode first ++ after)).run.run c' with
        ⟨fault | s', c''⟩ <;> rfl

/-- An action at the end of the first source, and a comment that trims in the second. -/
theorem compile_append_greeting :
    ∃ t, compile ("to \x7b\x7b.name\x7d\x7d" ++ ", \x7b\x7b/* wish */ -\x7d\x7d  peace") = .ok t ∧
      t.outcome (.object [("name", .string "all")]) = .ok "to all, peace" := by
  let inside := '.' :: "name\x7d\x7d".toList
  have cut : Text.cutAt? opening "to \x7b\x7b.name\x7d\x7d".toList =
      some ("to ".toList, inside) := by cbv
  have noTrim : (dropTrim? inside).getD inside = inside := by cbv
  have noComment : Text.dropBeginning? ['/', '*'] (inside.dropWhile isSpace) = none := by cbv
  have bytes : Text.byteLength "to \x7b\x7b.name\x7d\x7d".toList = 12 := by cbv
  have place : offsetOf 12 inside = 5 := by cbv
  have token : lexToken 12 '.' "name\x7d\x7d".toList = .ok (.field ["name"], closing ++ []) := by
    cbv
  have read : lexAction 12 5 true inside = .ok ⟨[⟨.field ["name"], true, 5⟩], [], false⟩ := by
    rw [lexAction_token (by cbv) (by decide) token, lexAction_closing]
    cbv
  have laid : layout "to \x7b\x7b.name\x7d\x7d".toList =
      .ok ⟨[⟨"to ".toList, false, [.action [⟨.field ["name"], true, 5⟩] 3], false⟩], []⟩ := by
    rw [layout, layoutFrom_braces cut, noTrim, readBraces, noComment, bytes, place]
    dsimp only
    rw [read]
    cbv
  have first : compile "to \x7b\x7b.name\x7d\x7d" =
      .ok ⟨"to \x7b\x7b.name\x7d\x7d", [.text "to ", .action [.operand (.field ["name"])]]⟩ := by
    rw [compile, parse, segments_eq, laid]
    cbv
  have second : compile ", \x7b\x7b/* wish */ -\x7d\x7d  peace" =
      .ok ⟨", \x7b\x7b/* wish */ -\x7d\x7d  peace", [.text ", ", .text "peace"]⟩ := by cbv
  have closes : closesTrimming "to \x7b\x7b.name\x7d\x7d".toList = false := by
    rw [closesTrimming, laid]
    rfl
  obtain ⟨t, compiled, renders⟩ := compile_append first second closes (by cbv) (by decide)
  refine ⟨t, compiled, (renders _ .empty).trans ?_⟩
  cbv

end MetricPath.Template
