import MetricPath.Proofs.ActionText

/-!
# The layout of a source

A source is laid out as actions and comments with the texts between them (`layoutFrom`).  The layout
keeps each text whole and notes which braces ask for trimming; the segments of the source are what
is left of the texts after that, and the actions (`segmentsFrom_eq`).

`Laid` says which texts end right after an action or a comment, and with which braces.  What is laid
out is such a text and, behind it, one without an opening (`exists_laid`); and such a text goes on
as what comes after it does (`Laid.layoutFrom`).

So layouts can be put together.  A source read up to its last braces goes on as the text behind them
does, whatever comes after (`layoutFrom_append`), and a text without braces joins the first text of
what follows, provided that no opening comes about where the two meet (`layoutFrom_behind`).  The
segments of two sources one after the other are those of the first and then those of the second,
with the text at the end of the one and the text at the beginning of the other made one
(`segments_append`), if neither is trimmed there.
-/

namespace MetricPath.Template

/-! ## Layouts -/

/-- An action or a comment, and the text before it. -/
structure Braces where
  before : List Char
  /-- It opens with a trim marker. -/
  opensTrimming : Bool
  /-- The action; a comment has none. -/
  segments : List Segment
  /-- It closes with a trim marker. -/
  closesTrimming : Bool

/-- The actions and comments of a source, and the text behind the last one. -/
structure Layout where
  braces : List Braces
  last : List Char

/-- Put actions and comments in front of a layout. -/
def Layout.prepend (bs : List Braces) (l : Layout) : Layout := { l with braces := bs ++ l.braces }

/-- The layout of the text left. -/
def layoutFrom (total : Nat) (cs : List Char) : Except ParseError Layout :=
  match _h : Text.cutAt? opening cs with
  | none => .ok ⟨[], cs⟩
  | some (before, after) =>
    match _h : readBraces total (offsetOf total after - 2) ((dropTrim? after).getD after) with
    | .error e => .error e
    | .ok (found, closed) =>
      (layoutFrom total closed.rest).map
        (Layout.prepend [⟨before, (dropTrim? after).isSome, found, closed.trims⟩])
termination_by cs.length
decreasing_by
  have cut := Text.cutAt?_length ‹_›
  have read := readBraces_length ‹_›
  have inside : ((dropTrim? after).getD after).length ≤ after.length := by
    cases found : dropTrim? after with
    | none => exact Nat.le_refl _
    | some rest => exact Nat.le_of_lt (dropTrim?_length found)
  simp only [opening, List.length_cons, List.length_nil] at cut
  simp only at read
  omega

/-- The layout of a source. -/
def layout (source : List Char) : Except ParseError Layout :=
  layoutFrom (Text.byteLength source) source

/-- The segments up to the last closing, where the first text is trimmed if `trims`. -/
def braced (trims : Bool) : List Braces → List Segment
  | [] => []
  | b :: bs =>
    textSegment (trimText trims b.opensTrimming b.before) ++ b.segments ++
      braced b.closesTrimming bs

/-- Whether the text behind the last closing is trimmed. -/
def trimsAfter (trims : Bool) : List Braces → Bool
  | [] => trims
  | b :: bs => trimsAfter b.closesTrimming bs

/-- The segments of a layout. -/
def Layout.segments (trims : Bool) (l : Layout) : List Segment :=
  braced trims l.braces ++ textSegment (trimText (trimsAfter trims l.braces) false l.last)

/-- Whether the last action or comment of a source closes with a trim marker. -/
def closesTrimming (source : List Char) : Bool :=
  match layout source with
  | .ok l => trimsAfter false l.braces
  | .error _ => false

/-- Whether the first action or comment of a source opens with a trim marker. -/
def opensTrimming (source : List Char) : Bool :=
  match layout source with
  | .ok l => l.braces.head?.any Braces.opensTrimming
  | .error _ => false

/-! ## Steps -/

section Steps

variable {total : Nat} {cs before after : List Char} {found : List Segment} {closed : Closed}

theorem layoutFrom_plain (plain : Text.cutAt? opening cs = none) :
    layoutFrom total cs = .ok ⟨[], cs⟩ := by
  rw [layoutFrom]
  split
  · rfl
  · rename_i cut
    rw [plain] at cut
    cases cut

theorem layoutFrom_braces (cut : Text.cutAt? opening cs = some (before, after)) :
    layoutFrom total cs
      = readBraces total (offsetOf total after - 2) ((dropTrim? after).getD after) >>= fun read =>
          (layoutFrom total read.2.rest).map
            (Layout.prepend [⟨before, (dropTrim? after).isSome, read.1, read.2.trims⟩]) := by
  rw [layoutFrom]
  split
  · rename_i plain
    rw [cut] at plain
    cases plain
  · rename_i same
    rw [cut] at same
    cases same
    split
    · rename_i failed
      rw [failed]
      rfl
    · rename_i read
      rw [read]
      rfl

theorem segmentsFrom_plain (plain : Text.cutAt? opening cs = none) (trims : Bool) :
    segmentsFrom total trims cs = .ok (textSegment (trimText trims false cs)) := by
  rw [segmentsFrom]
  split
  · rfl
  · rename_i cut
    rw [plain] at cut
    cases cut

theorem segmentsFrom_braces (cut : Text.cutAt? opening cs = some (before, after)) (trims : Bool) :
    segmentsFrom total trims cs
      = readBraces total (offsetOf total after - 2) ((dropTrim? after).getD after) >>= fun read =>
          (segmentsFrom total read.2.trims read.2.rest).map fun segs =>
            textSegment (trimText trims (dropTrim? after).isSome before) ++ read.1 ++ segs := by
  rw [segmentsFrom]
  split
  · rename_i plain
    rw [cut] at plain
    cases plain
  · rename_i same
    rw [cut] at same
    cases same
    dsimp only
    split
    · rename_i failed
      rw [failed]
      rfl
    · rename_i read
      rw [read]
      rfl

end Steps

/-- The segments of a source are those of its layout. -/
theorem segmentsFrom_eq (total : Nat) (trims : Bool) (cs : List Char) :
    segmentsFrom total trims cs = (layoutFrom total cs).map (Layout.segments trims) := by
  induction cs using layoutFrom.induct total generalizing trims with
  | case1 cs plain =>
    rw [segmentsFrom_plain plain, layoutFrom_plain plain]
    rfl
  | case2 cs before after cut e failed =>
    rw [segmentsFrom_braces cut, layoutFrom_braces cut, failed]
    rfl
  | case3 cs before after cut found closed read ih =>
    rw [segmentsFrom_braces cut, layoutFrom_braces cut, read]
    dsimp only [bind, Except.bind]
    rw [ih]
    cases layoutFrom total closed.rest with
    | error e => rfl
    | ok l =>
      refine congrArg Except.ok ?_
      simp only [Layout.segments, Layout.prepend, List.singleton_append, braced, trimsAfter,
        List.append_assoc]

theorem segments_eq (source : List Char) :
    segments source = (layout source).map (Layout.segments false) :=
  segmentsFrom_eq _ false source

/-! ## Putting layouts together -/

/-- An action or a comment without its places. -/
def Braces.unplaced (b : Braces) : Braces := { b with segments := b.segments.map Segment.unplaced }

/-- A layout without places. -/
def Layout.unplaced (l : Layout) : Layout := { l with braces := l.braces.map Braces.unplaced }

theorem map_unplaced_textSegment (cs : List Char) :
    (textSegment cs).map Segment.unplaced = textSegment cs := by
  unfold textSegment
  split <;> rfl

/-- Places do not matter to what is trimmed. -/
theorem map_unplaced_braced (trims : Bool) (bs : List Braces) :
    (braced trims bs).map Segment.unplaced = braced trims (bs.map Braces.unplaced) := by
  induction bs generalizing trims with
  | nil => rfl
  | cons b bs ih =>
    rw [List.map_cons, braced, braced, List.map_append, List.map_append, map_unplaced_textSegment,
      ih]
    rfl

theorem trimsAfter_unplaced (trims : Bool) (bs : List Braces) :
    trimsAfter trims (bs.map Braces.unplaced) = trimsAfter trims bs := by
  induction bs generalizing trims with
  | nil => rfl
  | cons b bs ih => exact ih b.closesTrimming

theorem Layout.map_unplaced_segments (trims : Bool) (l : Layout) :
    (l.segments trims).map Segment.unplaced = l.unplaced.segments trims := by
  rw [Layout.segments, Layout.segments, List.map_append, map_unplaced_braced,
    map_unplaced_textSegment, unplaced, trimsAfter_unplaced]

theorem braced_append (trims : Bool) (bs bs' : List Braces) :
    braced trims (bs ++ bs') = braced trims bs ++ braced (trimsAfter trims bs) bs' := by
  induction bs generalizing trims with
  | nil => rfl
  | cons b bs ih =>
    rw [List.cons_append, braced, ih, braced, trimsAfter]
    simp only [List.append_assoc]

theorem trimsAfter_append (trims : Bool) (bs bs' : List Braces) :
    trimsAfter trims (bs ++ bs') = trimsAfter (trimsAfter trims bs) bs' := by
  induction bs generalizing trims with
  | nil => rfl
  | cons b bs ih => exact ih b.closesTrimming

/-- What stands in front decides how a layout begins. -/
theorem Layout.segments_prepend (trims : Bool) (bs : List Braces) (l : Layout) :
    (l.prepend bs).segments trims = braced trims bs ++ l.segments (trimsAfter trims bs) := by
  rw [Layout.segments, Layout.segments, prepend, braced_append, trimsAfter_append,
    List.append_assoc]

/-- Texts that end right after an action or a comment, or are empty, with the actions and comments,
which have no places. -/
inductive Laid : List Char → List Braces → Prop where
  | nil : Laid [] []
  | concat {front before marker body ending : List Char} {bs : List Braces} {segs : List Segment}
      {opens trims : Bool} :
      Laid front bs → Text.cutAt? opening (before ++ opening) = some (before, []) →
      Marker (body ++ ending) marker opens → Body body segs → Ending ending trims →
      Laid (front ++ (before ++ (opening ++ (marker ++ (body ++ ending)))))
        (bs ++ [⟨before, opens, segs, trims⟩])

section Laid

variable {total : Nat} {cs before marker body ending : List Char} {bs : List Braces}
  {segs : List Segment} {opens trims : Bool}

theorem map_prepend_prepend (bs bs' : List Braces) (l : Except ParseError Layout) :
    (l.map (Layout.prepend bs')).map (Layout.prepend bs) = l.map (Layout.prepend (bs ++ bs')) := by
  cases l with
  | error e => rfl
  | ok l =>
    simp only [Except.map, Layout.prepend, List.append_assoc]

/-- An action or a comment is laid out, with the text before it, whatever comes after. -/
theorem layoutFrom_body (cut : Text.cutAt? opening (before ++ opening) = some (before, []))
    (begins : Marker (body ++ ending) marker opens) (reads : Body body segs)
    (ends : Ending ending trims) (total : Nat) (more : List Char) :
    ∃ b, b.unplaced = ⟨before, opens, segs, trims⟩ ∧
      layoutFrom total (before ++ (opening ++ (marker ++ (body ++ ending))) ++ more)
        = (layoutFrom total more).map (Layout.prepend [b]) := by
  have trim := begins.dropTrim? reads ends more
  have inside : (dropTrim? (marker ++ (body ++ (ending ++ more)))).getD
      (marker ++ (body ++ (ending ++ more))) = body ++ (ending ++ more) := by
    rw [trim]
    cases begins <;> rfl
  have isSome : (dropTrim? (marker ++ (body ++ (ending ++ more)))).isSome = opens := by
    rw [trim]
    cases opens <;> rfl
  obtain ⟨segs', closed, read, unplaced, rest, closes⟩ := reads.readBraces ends total
    (offsetOf total (marker ++ (body ++ (ending ++ more))) - 2) more
  refine ⟨⟨before, opens, segs', trims⟩, by rw [Braces.unplaced, unplaced], ?_⟩
  simp only [List.append_assoc]
  rw [layoutFrom_braces (Text.cutAt?_of_some cut _), inside, read, isSome]
  dsimp only [bind, Except.bind]
  rw [rest, closes]

theorem Laid.cons (laid : Laid cs bs)
    (cut : Text.cutAt? opening (before ++ opening) = some (before, []))
    (begins : Marker (body ++ ending) marker opens) (reads : Body body segs)
    (ends : Ending ending trims) :
    Laid (before ++ (opening ++ (marker ++ (body ++ ending))) ++ cs)
      (⟨before, opens, segs, trims⟩ :: bs) := by
  induction laid with
  | nil =>
    rw [List.append_nil]
    exact .concat .nil cut begins reads ends
  | concat _ cut' begins' reads' ends' ih =>
    rw [← List.append_assoc, ← List.cons_append]
    exact .concat ih cut' begins' reads' ends'

/-- A text laid out up to its end goes on as what comes after it. -/
theorem Laid.layoutFrom (laid : Laid cs bs) (total : Nat) (more : List Char) :
    ∃ bs', bs'.map Braces.unplaced = bs ∧
      layoutFrom total (cs ++ more) = (layoutFrom total more).map (Layout.prepend bs') := by
  induction laid generalizing more with
  | nil =>
    refine ⟨[], rfl, ?_⟩
    rw [List.nil_append]
    cases Template.layoutFrom total more <;> rfl
  | @concat front before marker body ending bs segs opens trims _ cut begins reads ends ih =>
    obtain ⟨b, unplacedB, last⟩ := layoutFrom_body cut begins reads ends total more
    obtain ⟨bs', unplaced, whole⟩ :=
      ih (before ++ (opening ++ (marker ++ (body ++ ending))) ++ more)
    refine ⟨bs' ++ [b], ?_, ?_⟩
    · rw [List.map_append, unplaced, List.map_singleton, unplacedB]
    · rw [List.append_assoc, whole, last, map_prepend_prepend]

/-- What is laid out is laid out up to its last braces, and has no opening behind them. -/
theorem exists_laid {l : Layout} (h : layoutFrom total cs = .ok l) :
    ∃ front, cs = front ++ l.last ∧ Laid front (l.braces.map Braces.unplaced) ∧
      Text.cutAt? opening l.last = none := by
  induction cs using layoutFrom.induct total generalizing l with
  | case1 cs plain =>
    rw [layoutFrom_plain plain] at h
    cases h
    exact ⟨[], rfl, .nil, plain⟩
  | case2 cs before after cut e failed =>
    rw [layoutFrom_braces cut, failed] at h
    cases h
  | case3 cs before after cut found closed read ih =>
    rw [layoutFrom_braces cut, read] at h
    obtain ⟨inner, goesOn, rfl⟩ := map_eq_ok.mp h
    obtain ⟨front, rest, laid, plain⟩ := ih goesOn
    obtain ⟨body, ending, inside, reads, ends⟩ := readBraces_body read
    obtain ⟨marker, begins, whole⟩ : ∃ marker,
        Marker (body ++ ending) marker (dropTrim? after).isSome ∧
          after = marker ++ (body ++ (ending ++ closed.rest)) := by
      cases trim : dropTrim? after with
      | none =>
        rw [trim] at inside
        exact ⟨[], .none, inside⟩
      | some left =>
        rw [trim] at inside
        obtain ⟨rfl, space⟩ := eq_of_dropTrim? trim
        refine ⟨['-'], .trims ?_, congrArg (List.cons '-') inside⟩
        rwa [show left = _ from inside, ends.head?_append] at space
    have laid := laid.cons (Text.cutAt?_of_some cut []) begins reads ends
    refine ⟨_, ?_, laid, plain⟩
    change cs = _ ++ inner.last
    rw [Text.eq_append_of_cutAt? cut, whole, rest]
    simp only [List.append_assoc]

end Laid

/-- A source read up to its last braces goes on as the text behind them. -/
theorem layoutFrom_append {total : Nat} {cs : List Char} {l : Layout}
    (h : layoutFrom total cs = .ok l) (total' : Nat) (more : List Char) :
    ∃ bs, bs.map Braces.unplaced = l.braces.map Braces.unplaced ∧
      layoutFrom total' (cs ++ more)
        = (layoutFrom total' (l.last ++ more)).map (Layout.prepend bs) := by
  obtain ⟨front, whole, laid, -⟩ := exists_laid h
  rw [whole, List.append_assoc]
  exact laid.layoutFrom total' (l.last ++ more)

/-- The text behind the last braces is the end of the source, and has no opening in it. -/
theorem layoutFrom_last {total : Nat} {cs : List Char} {l : Layout}
    (h : layoutFrom total cs = .ok l) : l.last <:+ cs ∧ Text.cutAt? opening l.last = none := by
  obtain ⟨front, whole, -, plain⟩ := exists_laid h
  exact ⟨⟨front, whole.symm⟩, plain⟩

/-- Sources are laid out alike whatever their length is taken to be, up to places. -/
theorem layoutFrom_total {total : Nat} {cs : List Char} {l : Layout}
    (h : layoutFrom total cs = .ok l) (total' : Nat) :
    ∃ l', layoutFrom total' cs = .ok l' ∧ l'.unplaced = l.unplaced := by
  obtain ⟨bs, unplaced, whole⟩ := layoutFrom_append h total' []
  rw [List.append_nil, List.append_nil, layoutFrom_plain (layoutFrom_last h).2] at whole
  refine ⟨_, whole, ?_⟩
  rw [Layout.unplaced, Layout.unplaced, Layout.prepend, List.append_nil, unplaced]

/-- The layout of a source without places, if it can be laid out. -/
def laidOut (cs : List Char) : Option Layout := (layoutFrom 0 cs).toOption.map Layout.unplaced

theorem toOption_layoutFrom (total : Nat) (cs : List Char) :
    (layoutFrom total cs).toOption.map Layout.unplaced = laidOut cs := by
  rw [laidOut]
  cases h : layoutFrom total cs with
  | ok l =>
    obtain ⟨l', h', same⟩ := layoutFrom_total h 0
    rw [h']
    exact congrArg some same.symm
  | error e =>
    cases h' : layoutFrom 0 cs with
    | error e' => rfl
    | ok l =>
      obtain ⟨l', found, -⟩ := layoutFrom_total h' total
      rw [h] at found
      cases found

theorem laidOut_plain {cs : List Char} (plain : Text.cutAt? opening cs = none) :
    laidOut cs = some ⟨[], cs⟩ := by
  rw [laidOut, layoutFrom_plain plain]
  rfl

/-- Behind an action or a comment a source is laid out as what stands there. -/
theorem Laid.laidOut_append {cs : List Char} {bs : List Braces} (laid : Laid cs bs)
    (more : List Char) : laidOut (cs ++ more) = (laidOut more).map (Layout.prepend bs) := by
  obtain ⟨bs', rfl, whole⟩ := laid.layoutFrom 0 more
  rw [laidOut, laidOut, whole]
  cases Template.layoutFrom 0 more with
  | error e => rfl
  | ok l => simp [Except.map, Except.toOption, Layout.unplaced, Layout.prepend]

/-- Put text in front of a layout. -/
def Layout.behind (text : List Char) : Layout → Layout
  | ⟨[], last⟩ => ⟨[], text ++ last⟩
  | ⟨b :: bs, last⟩ => ⟨{ b with before := text ++ b.before } :: bs, last⟩

theorem Layout.unplaced_behind (text : List Char) (l : Layout) :
    (l.behind text).unplaced = l.unplaced.behind text := by
  obtain ⟨_ | ⟨b, bs⟩, last⟩ := l <;> rfl

/-- The text at the end of the first source and that at the beginning of the second do not make an
opening together. -/
def Apart (a b : List Char) : Prop := ¬ (a.getLast? = some '\x7b' ∧ b.head? = some '\x7b')

instance (a b : List Char) : Decidable (Apart a b) := inferInstanceAs (Decidable (¬ _))

theorem Apart.tail {c : Char} {text cs : List Char} (h : Apart (c :: text) cs) : Apart text cs := by
  cases text with
  | nil => simp [Apart]
  | cons d text =>
    rw [Apart, List.getLast?_cons_cons] at h
    exact h

theorem dropBeginning?_opening_append {c : Char} {text cs : List Char}
    (plain : Text.dropBeginning? opening (c :: text) = none) (apart : Apart (c :: text) cs) :
    Text.dropBeginning? opening (c :: text ++ cs) = none := by
  cases text with
  | nil =>
    rw [List.singleton_append, opening, Text.dropBeginning?]
    split
    · rename_i brace
      cases cs with
      | nil => rfl
      | cons d cs =>
        refine if_neg ?_
        rintro rfl
        exact apart ⟨by rw [List.getLast?_singleton, brace], rfl⟩
    · rfl
  | cons d text =>
    refine Text.dropBeginning?_append_of_none plain (fun within => ?_) cs
    rw [within.eq_of_length_le (by simp [opening])] at plain
    cases plain

/-- A text without an opening does not change where the first opening behind it is. -/
theorem cutAt?_opening_append {text cs : List Char} (plain : Text.cutAt? opening text = none)
    (apart : Apart text cs) :
    Text.cutAt? opening (text ++ cs)
      = (Text.cutAt? opening cs).map fun cut => (text ++ cut.1, cut.2) := by
  induction text with
  | nil => cases cut : Text.cutAt? opening cs <;> simp [cut]
  | cons c text ih =>
    rw [Text.cutAt?] at plain
    split at plain
    · cases plain
    · rename_i noOpening
      have noOpening := dropBeginning?_opening_append noOpening apart
      rw [List.cons_append] at noOpening ⊢
      rw [Text.cutAt?, noOpening]
      dsimp only
      rw [ih (Option.map_eq_none_iff.mp plain) apart.tail, Option.map_map]
      rfl

/-- A text without braces joins the first text of what follows. -/
theorem layoutFrom_behind {text cs : List Char} (plain : Text.cutAt? opening text = none)
    (apart : Apart text cs) (total : Nat) :
    layoutFrom total (text ++ cs) = (layoutFrom total cs).map (Layout.behind text) := by
  have cut := cutAt?_opening_append plain apart
  cases found : Text.cutAt? opening cs with
  | none =>
    rw [found] at cut
    rw [layoutFrom_plain cut, layoutFrom_plain found]
    rfl
  | some braces =>
    obtain ⟨before, after⟩ := braces
    rw [found] at cut
    rw [layoutFrom_braces cut, layoutFrom_braces found]
    cases readBraces total (offsetOf total after - 2) ((dropTrim? after).getD after) with
    | error e => rfl
    | ok read =>
      dsimp only [bind, Except.bind]
      cases layoutFrom total read.2.rest <;> rfl

theorem laidOut_behind {text cs : List Char} (plain : Text.cutAt? opening text = none)
    (apart : Apart text cs) : laidOut (text ++ cs) = (laidOut cs).map (Layout.behind text) := by
  rw [laidOut, laidOut, layoutFrom_behind plain apart]
  cases layoutFrom 0 cs with
  | error e => rfl
  | ok l => exact congrArg some (Layout.unplaced_behind text l)

/-- Text in front of a layout that does not trim it joins the first text of the layout. -/
theorem Layout.exists_behind {l : Layout}
    (opens : l.braces.head?.any Braces.opensTrimming = false) :
    ∃ first back, ∀ text,
      (l.behind text).segments false = textSegment (text ++ first) ++ back := by
  obtain ⟨bs, last⟩ := l
  cases bs with
  | nil => exact ⟨last, [], fun text => (List.append_nil _).symm⟩
  | cons b bs =>
    have opens : b.opensTrimming = false := opens
    refine ⟨b.before, b.segments ++ Layout.segments b.closesTrimming ⟨bs, last⟩, fun text => ?_⟩
    simp only [segments, behind, braced, trimsAfter, opens, List.append_assoc]
    rfl

theorem Layout.behind_nil (l : Layout) : l.behind [] = l := by
  obtain ⟨_ | ⟨b, bs⟩, last⟩ := l <;> rfl

/-- **The segments of two sources, one after the other.** If neither is trimmed where they meet, the
text at the end of the first and the text at the beginning of the second become one. -/
theorem segments_append {a b : List Char} {segsA segsB : List Segment}
    (ha : segments a = .ok segsA) (hb : segments b = .ok segsB)
    (closes : closesTrimming a = false) (opens : opensTrimming b = false) (apart : Apart a b) :
    ∃ segs front text first back, segments (a ++ b) = .ok segs ∧
      segsA = front ++ textSegment text ∧ segsB = textSegment first ++ back ∧
      segs.map Segment.unplaced
        = (front ++ textSegment (text ++ first) ++ back).map Segment.unplaced := by
  rw [segments_eq] at ha hb ⊢
  obtain ⟨la, readA, rfl⟩ := map_eq_ok.mp ha
  obtain ⟨lb, readB, rfl⟩ := map_eq_ok.mp hb
  rw [closesTrimming, readA] at closes
  rw [opensTrimming, readB] at opens
  dsimp only at closes opens
  obtain ⟨ending, plain⟩ := layoutFrom_last readA
  have apart : Apart la.last b := by
    rintro ⟨last, head⟩
    obtain ⟨front, rfl⟩ := ending
    exact apart ⟨List.mem_getLast?_append_of_mem_getLast? last, head⟩
  obtain ⟨bs, unplacedA, whole⟩ := layoutFrom_append readA (Text.byteLength (a ++ b)) b
  obtain ⟨l, readB', unplacedB⟩ := layoutFrom_total readB (Text.byteLength (a ++ b))
  rw [layoutFrom_behind plain apart, readB'] at whole
  obtain ⟨first, back, behind⟩ := Layout.exists_behind opens
  refine ⟨_, braced false la.braces, la.last, first, back,
    map_eq_ok.mpr ⟨_, whole, rfl⟩, ?_, ?_, ?_⟩
  · rw [Layout.segments, closes]
    rfl
  · have alone := behind []
    rwa [Layout.behind_nil] at alone
  · have trims : trimsAfter false bs = false := by
      rw [← trimsAfter_unplaced, unplacedA, trimsAfter_unplaced, closes]
    rw [Layout.segments_prepend, trims, List.append_assoc, ← behind la.last, List.map_append,
      List.map_append, map_unplaced_braced, map_unplaced_braced, unplacedA,
      Layout.map_unplaced_segments, Layout.map_unplaced_segments, Layout.unplaced_behind,
      Layout.unplaced_behind, unplacedB]

end MetricPath.Template
