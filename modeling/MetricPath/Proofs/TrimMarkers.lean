import MetricPath.Proofs.Concatenation

/-!
# Trim markers

A trim marker means trimming by hand: a source is parsed to the same nodes if the white space next
to the marker is deleted and the marker made a plain opening or closing, or both sources fail
(`parse_trimmed`).

For a marker at an opening the inside of the braces is the same with and without it, so that the two
layouts differ in one text and in one flag, and what trimming leaves of the text is the same
(`trimText_append_blank`).  For a marker at a closing the inside changes as well, since the white
space before the marker may be deleted with it.  A body does not depend on the white space at its
end (`Body.append_blank`); only where nothing else stands between the braces could a marker at the
opening turn into a hyphen, but braces without tokens are no action anyway (`Derives.ne_nil`).  And
white space with a hyphen behind it before a closing is always a marker, for no body ends so
(`Body.not_hyphen`).
-/

namespace MetricPath.Template

/-- The text is empty or ends right after an action or a comment. -/
def EndsInBraces (cs : List Char) : Prop := ∃ bs, layout cs = .ok ⟨bs, []⟩

theorem endsInBraces_iff {cs : List Char} : EndsInBraces cs ↔ ∃ bs, Laid cs bs := by
  constructor
  · rintro ⟨bs, laid⟩
    obtain ⟨front, whole, laid, -⟩ := exists_laid laid
    rw [List.append_nil] at whole
    exact ⟨_, whole ▸ laid⟩
  · rintro ⟨bs, laid⟩
    have behind : layoutFrom (Text.byteLength cs) [] = .ok ⟨[], []⟩ := layoutFrom_plain rfl
    obtain ⟨bs', -, whole⟩ := laid.layoutFrom (Text.byteLength cs) []
    rw [List.append_nil, behind] at whole
    exact ⟨bs' ++ [], whole⟩

/-! ## White space -/

section Blank

variable {spaced : Bool} {text ws ws' cs : List Char} {ts : List Token} {segs : List Segment}
  {c : Char}

theorem Blank.notMem (h : Blank ws) (other : isSpace c = false) : c ∉ ws := by
  intro mem
  rw [h c mem] at other
  cases other

theorem trimEnd_append_blank (h : Blank ws) (cs : List Char) :
    Text.trimEnd isSpace (cs ++ ws) = Text.trimEnd isSpace cs := by
  have blank : ∀ c ∈ ws.reverse, isSpace c = true := fun c mem => h c (List.mem_reverse.mp mem)
  rw [Text.trimEnd, List.reverse_append, List.dropWhile_append_of_pos blank, ← Text.trimEnd]

theorem trimEnd_eq_self (h : ∀ c ∈ cs.getLast?, isSpace c = false) :
    Text.trimEnd isSpace cs = cs := by
  refine List.rdropWhile_eq_self_iff.mpr fun ne => ?_
  rw [h _ (List.getLast?_eq_some_getLast ne)]
  nofun

theorem trimStart_append_blank (h : Blank ws) (cs : List Char) :
    ∃ ws', Blank ws' ∧ Text.trimStart isSpace (cs ++ ws) = Text.trimStart isSpace cs ++ ws' := by
  rw [Text.trimStart, Text.trimStart, List.dropWhile_append]
  split
  · rename_i empty
    refine ⟨[], List.forall_mem_nil _, ?_⟩
    rw [List.isEmpty_iff.mp empty, List.dropWhile_eq_nil_iff.mpr h]
    rfl
  · exact ⟨ws, h, rfl⟩

/-- What is left of a text with white space behind it, trimmed at its end. -/
theorem trimText_append_blank (blank : Blank ws) (last : ∀ c ∈ text.getLast?, isSpace c = false)
    (atStart : Bool) : trimText atStart true (text ++ ws) = trimText atStart false text := by
  cases atStart with
  | false =>
    change Text.trimEnd isSpace (text ++ ws) = text
    rw [trimEnd_append_blank blank, trimEnd_eq_self last]
  | true =>
    change Text.trimEnd isSpace (Text.trimStart isSpace (text ++ ws)) = Text.trimStart isSpace text
    obtain ⟨ws', blank', eq⟩ := trimStart_append_blank blank text
    rw [eq, trimEnd_append_blank blank', trimEnd_eq_self]
    -- the last character of what is left is that of the text
    intro c mem
    obtain ⟨front, split⟩ := List.dropWhile_suffix (l := text) isSpace
    refine last c ?_
    rw [← split]
    exact List.mem_getLast?_append_of_mem_getLast? mem

/-- Nothing but white space begins with white space. -/
theorem Inside.of_blank_append (blank : Blank ws) (h : Inside spaced (ws ++ cs) ts) :
    ∃ spaced', Inside spaced' cs ts := by
  induction ws generalizing spaced with
  | nil => exact ⟨spaced, h⟩
  | cons c ws ih =>
    obtain ⟨space, others⟩ := List.forall_mem_cons.mp blank
    cases h with
    | space _ inside => exact ih others inside
    | token token _ => exact absurd space token.first.1

/-- White space at the end of tokens does not matter. -/
theorem Inside.append_blank_iff (blank : Blank ws) :
    Inside spaced (text ++ ws) ts ↔ Inside spaced text ts := by
  cases ws with
  | nil => rw [List.append_nil]
  | cons s x =>
    have ends := endsToken_of_isSpace (blank s List.mem_cons_self)
    constructor
    · intro h
      obtain ⟨spaced', us, vs, rfl, first, second⟩ :=
        h.split ends ⟨blank.notMem (by decide), blank.notMem (by decide)⟩
      rw [← List.append_nil (s :: x)] at second
      obtain ⟨_, nothing⟩ := second.of_blank_append blank
      cases nothing
      rwa [List.append_nil]
    · intro h
      obtain ⟨spaced', behind⟩ := h.append ends x
      have whole := behind [] (.blank blank spaced')
      rwa [List.append_nil] at whole

/-- A text with a character in it that is not white space, and white space at its end. -/
theorem exists_of_append_blank {a b : List Char} (h : text ++ ws = a ++ c :: b)
    (other : isSpace c = false) (blank : Blank ws) :
    ∃ rest, b = rest ++ ws ∧ text = a ++ c :: rest := by
  obtain found | later := eq_append_or_suffix h
  · exact found
  · exact absurd (later.subset List.mem_cons_self) (blank.notMem other)

/-- White space at the end of a body does not matter. -/
theorem Body.append_blank (h : Body (text ++ ws) segs) (blank : Blank ws) (blank' : Blank ws') :
    Body (text ++ ws') segs := by
  generalize whole : text ++ ws = body at h
  cases h with
  | action inside =>
    subst whole
    exact .action ((Inside.append_blank_iff blank').mpr ((Inside.append_blank_iff blank).mp inside))
  | @comment before first last blankFirst blankLast cut =>
    have split : text ++ ws = (first ++ (['/', '*'] ++ (before ++ ['*']))) ++ '/' :: last := by
      simp [whole]
    obtain ⟨rest, rfl, rfl⟩ := exists_of_append_blank split (by decide) blank
    have blankRest : Blank (rest ++ ws') :=
      List.forall_mem_append.mpr ⟨(List.forall_mem_append.mp blankLast).1, blank'⟩
    have comment := Body.comment blankFirst blankRest cut
    simpa using comment

/-- No body ends with white space and a hyphen. -/
theorem Body.not_hyphen (some : ws ≠ []) (blank : Blank ws) :
    ¬ Body (text ++ (ws ++ ['-'])) segs := by
  intro h
  generalize whole : text ++ (ws ++ ['-']) = body at h
  cases h with
  | action inside =>
    subst whole
    obtain ⟨s, x, rfl⟩ := List.exists_cons_of_ne_nil some
    have noQuote {q : Char} (space : isSpace q = false) (other : q ≠ '-') :
        q ∉ s :: x ++ ['-'] := by
      rw [List.mem_append, List.mem_singleton, not_or]
      exact ⟨blank.notMem space, other⟩
    have ends := endsToken_of_isSpace (blank s List.mem_cons_self)
    obtain ⟨_, _, _, -, -, behind⟩ := inside.split ends
      ⟨noQuote (by decide) (by decide), noQuote (by decide) (by decide)⟩
    obtain ⟨_, hyphen⟩ := behind.of_blank_append blank
    cases hyphen with
    | space space _ => cases space
    | token token _ =>
      obtain ⟨_, _, goesOn, -⟩ := token.hyphen
      cases goesOn
  | @comment before first last blankFirst blankLast cut =>
    have split : (text ++ ws) ++ ['-']
        = (first ++ (['/', '*'] ++ (before ++ ['*']))) ++ '/' :: last := by
      simpa using whole
    obtain ⟨rest, rfl, -⟩ | later := eq_append_or_suffix split
    · exact absurd (List.mem_append_right rest (List.mem_singleton.mpr rfl))
        (blankLast.notMem (by decide))
    · exact absurd (later.subset List.mem_cons_self) (by decide)

/-- What is left of a text with white space before it, trimmed at its beginning. -/
theorem trimText_blank_append (blank : Blank ws) (first : ∀ c ∈ text.head?, isSpace c = false)
    (atEnd : Bool) : trimText true atEnd (ws ++ text) = trimText false atEnd text := by
  have start : Text.trimStart isSpace (ws ++ text) = text := by
    rw [Text.trimStart, List.dropWhile_append_of_pos blank]
    cases text with
    | nil => rfl
    | cons c text => exact List.dropWhile_cons_of_neg (Bool.eq_false_iff.mp (first c rfl))
  cases atEnd with
  | false => exact start
  | true => exact congrArg (Text.trimEnd isSpace) start

end Blank

/-! ## Openings -/

section Openings

variable {front text ws rest before : List Char} {c : Char}

theorem cutAt?_of_plain {cs : List Char} (h : ¬ opening <:+: cs) :
    Text.cutAt? opening cs = none := by
  cases found : Text.cutAt? opening cs with
  | none => rfl
  | some cut =>
    have whole := Text.eq_append_of_cutAt? found
    rw [← List.append_assoc] at whole
    exact absurd ⟨_, _, whole.symm⟩ h

theorem cutAt?_of_apart (plain : ¬ opening <:+: before) (last : before.getLast? ≠ some '\x7b')
    (after : List Char) :
    Text.cutAt? opening (before ++ (opening ++ after)) = some (before, after) := by
  have here : Text.cutAt? opening (opening ++ after) = some ([], after) := rfl
  rw [cutAt?_opening_append (cutAt?_of_plain plain) fun h => last h.1, here]
  simp

/-- A source whose first braces cannot be read is not laid out. -/
theorem laidOut_eq_none {cs after : List Char} (cut : Text.cutAt? opening cs = some (before, after))
    (unread : ∀ found, readBraces 0 0 ((dropTrim? after).getD after) ≠ .ok found) :
    laidOut cs = none := by
  rw [laidOut, layoutFrom_braces cut, offsetOf, Nat.zero_sub, Nat.zero_sub]
  cases read : readBraces 0 0 ((dropTrim? after).getD after) with
  | error e => rfl
  | ok found => exact absurd read (unread found)

/-- The segments of a layout look at the last braces before the text behind. -/
theorem Layout.segments_prepend_concat (bs : List Braces) (b : Braces) (l : Layout) :
    (l.prepend (bs ++ [b])).segments false
      = braced false bs ++ textSegment (trimText (trimsAfter false bs) b.opensTrimming b.before) ++
          b.segments ++ l.segments b.closesTrimming := by
  rw [Layout.segments_prepend, braced_append, trimsAfter_append]
  simp only [braced, trimsAfter, List.append_nil, List.append_assoc]

/-- A trim marker at an opening deletes the white space before it. -/
theorem toOption_parse_opening (ends : EndsInBraces front)
    (last : ∀ c ∈ text.getLast?, c ≠ '\x7b' ∧ isSpace c = false) (blank : Blank ws)
    (plain : ¬ opening <:+: text ++ ws) (space : isSpace c) :
    (parse (front ++ (text ++ ws ++ (opening ++ '-' :: c :: rest)))).toOption =
      (parse (front ++ (text ++ (opening ++ c :: rest)))).toOption := by
  obtain ⟨bs, laid⟩ := endsInBraces_iff.mp ends
  have lastText : text.getLast? ≠ some '\x7b' := fun brace => (last _ brace).1 rfl
  have lastBlank : (text ++ ws).getLast? ≠ some '\x7b' := by
    rw [List.getLast?_append]
    cases brace : ws.getLast? with
    | none => exact lastText
    | some d =>
      rintro ⟨rfl⟩
      exact blank.notMem (by decide) (List.mem_of_getLast? brace)
  have plainText : ¬ opening <:+: text := fun within =>
    plain (within.trans (List.prefix_append text ws).isInfix)
  have cut := cutAt?_of_apart plain lastBlank
  have cutText := cutAt?_of_apart plainText lastText
  have marker : dropTrim? ('-' :: c :: rest) = some (c :: rest) := if_pos space
  have noMarker : dropTrim? (c :: rest) = none := dropTrim?_of_isSpace space rest
  rw [toOption_parse, toOption_parse]
  cases read : readBraces 0 0 (c :: rest) with
  | error e =>
    rw [laid.laidOut_append, laid.laidOut_append, laidOut_eq_none (cut _),
      laidOut_eq_none (cutText _)]
    · intro found
      rw [noMarker, Option.getD_none, read]
      nofun
    · intro found
      rw [marker, Option.getD_some, read]
      nofun
  | ok found =>
    obtain ⟨segs, closed⟩ := found
    obtain ⟨body, ending, inside, reads, ends⟩ := readBraces_body read
    have begins : Marker (body ++ ending) ['-'] true := by
      refine .trims ?_
      rw [← ends.head?_append, ← inside]
      exact space
    have trimmed := (laid.concat (cut []) begins reads ends).laidOut_append closed.rest
    have byHand := (laid.concat (cutText []) .none reads ends).laidOut_append closed.rest
    simp only [List.append_assoc, List.cons_append, List.nil_append, ← inside] at trimmed byHand
    rw [List.append_assoc text, trimmed, byHand, Option.bind_map, Option.bind_map]
    refine Option.bind_congr fun l _ => ?_
    simp only [Function.comp, Layout.nodes?, Layout.segments_prepend_concat]
    rw [trimText_append_blank blank fun c mem => (last c mem).2]

end Openings

/-! ## Closings -/

section Closings

variable {front ws ws' after rest : List Char} {bs : List Braces} {l : Layout}

/-- The text before the first braces of a layout. -/
def Layout.first : Layout → List Char
  | ⟨[], last⟩ => last
  | ⟨b :: _, _⟩ => b.before

theorem laidOut_first (h : laidOut rest = some l) : l.first <+: rest := by
  cases cut : Text.cutAt? opening rest with
  | none =>
    rw [laidOut_plain cut] at h
    cases h
    exact List.prefix_rfl
  | some found =>
    obtain ⟨before, after⟩ := found
    rw [laidOut, Option.map_eq_some_iff] at h
    obtain ⟨l, found, rfl⟩ := h
    rw [toOption_eq_some_iff, layoutFrom_braces cut] at found
    obtain ⟨read, -, found⟩ := bind_eq_ok.mp found
    obtain ⟨inner, -, rfl⟩ := map_eq_ok.mp found
    exact ⟨_, (Text.eq_append_of_cutAt? cut).symm⟩

/-- White space that a marker before it deletes might as well not be there. -/
theorem Layout.segments_behind_blank (blank : Blank ws)
    (first : ∀ c ∈ l.first.head?, isSpace c = false) :
    (l.behind ws).segments true = l.segments false := by
  obtain ⟨_ | ⟨b, bs⟩, last⟩ := l
  · exact congrArg textSegment (trimText_blank_append blank first false)
  · have first : ∀ c ∈ b.before.head?, isSpace c = false := first
    simp only [segments, behind, braced, trimsAfter]
    rw [trimText_blank_append blank first]

/-- No action without tokens derives. -/
theorem Derives.ne_nil {r : Reading} {p : Part} {segs : List Segment} (h : Derives r p segs)
    {offset : Nat} : .action [] offset ∉ segs := by
  induction h with
  | nil => nofun
  | text _ ih => simpa using ih
  | action spells _ ih =>
    have some := spells.ne_nil nofun
    simpa [some.symm] using ih
  | block _ _ _ _ _ ihBody ihTail ih => simpa using ⟨ihBody, ihTail, ih⟩
  | ends => simp
  | otherwise _ _ _ ih => simpa using ih
  | elseIf _ _ _ _ _ ihBody ihTail => simpa using ⟨ihBody, ihTail⟩

/-- The last character before the inside of braces is not white space. -/
theorem Marker.exists_concat {inside marker : List Char} {opens : Bool}
    (h : Marker inside marker opens) :
    ∃ front d, opening ++ marker = front ++ [d] ∧ isSpace d = false ∧
      (d = '-' → inside.head?.any isSpace) := by
  cases h with
  | none => exact ⟨['\x7b'], '\x7b', rfl, by decide, nofun⟩
  | trims space => exact ⟨opening, '-', rfl, by decide, fun _ => space⟩

/-- White space and a hyphen before a closing are a trim marker, and the white space is the end of
the inside of the braces. -/
theorem Laid.exists_reclosed (laid : Laid (front ++ (ws ++ trimClosing)) bs) (blank : Blank ws)
    (some : ws ≠ []) :
    ∃ lead before marker text bs' segs opens,
      front = lead ++ (before ++ (opening ++ (marker ++ text))) ∧ Laid lead bs' ∧
      Text.cutAt? opening (before ++ opening) = Option.some (before, []) ∧
      Marker (text ++ (ws ++ trimClosing)) marker opens ∧ Body (text ++ ws) segs ∧
      bs = bs' ++ [⟨before, opens, segs, true⟩] := by
  generalize whole : front ++ (ws ++ trimClosing) = cs at laid
  cases laid with
  | nil => exact absurd whole (by simp [trimClosing])
  | @concat lead before marker body ending bs segs opens trims laid cut begins reads ends =>
    obtain ⟨mark, d, eq, other, hyphen⟩ := begins.exists_concat
    have glue (cs : List Char) : opening ++ (marker ++ cs) = mark ++ d :: cs := by
      rw [← List.append_assoc, eq, List.append_assoc, List.singleton_append]
    rw [glue] at whole
    cases ends with
    | closes =>
      -- the hyphen would be the end of the body, or a marker right before the closing
      have cancel : (front ++ ws ++ ['-']) ++ closing
          = (lead ++ (before ++ mark) ++ d :: body) ++ closing := by
        simp only [List.append_assoc, List.cons_append, List.nil_append]
        exact whole
      obtain ⟨rest, rfl, split⟩ | later := eq_append_or_suffix (List.append_cancel_right cancel)
      · obtain ⟨text, rfl, -⟩ := exists_of_append_blank split other blank
        rw [List.append_assoc] at reads
        exact absurd reads (Body.not_hyphen some blank)
      · obtain ⟨rfl, rfl⟩ : d = '-' ∧ body = [] := by
          simpa using later.eq_of_length_le (by simp)
        cases hyphen rfl
    | @trims c space =>
      have cancel : (front ++ ws) ++ trimClosing
          = (lead ++ (before ++ mark) ++ d :: (body ++ [c])) ++ trimClosing := by
        simp only [List.append_assoc, List.cons_append, List.nil_append]
        exact whole
      obtain ⟨text, inside, rfl⟩ :=
        exists_of_append_blank (List.append_cancel_right cancel) other blank
      refine ⟨lead, before, marker, text, _, segs, opens, ?_, laid, cut, ?_, ?_, rfl⟩
      · rw [glue]
        simp only [List.append_assoc]
      · rw [← List.append_assoc, ← inside, List.append_assoc]
        exact begins
      · rw [← List.append_nil body] at reads
        rw [← inside]
        exact reads.append_blank (List.forall_mem_nil _) (List.forall_mem_singleton.mpr space)

/-- What stands before the inside of braces does not depend on the ending, unless the white space
that makes it a marker is taken away. -/
theorem Marker.reclosed {text marker : List Char} {opens : Bool}
    (h : Marker (text ++ (ws ++ trimClosing)) marker opens) (blank' : Blank ws')
    (some : opens = true → text ++ ws' ≠ []) : Marker (text ++ (ws' ++ closing)) marker opens := by
  cases h with
  | none => exact .none
  | trims space =>
    refine .trims ?_
    cases text with
    | cons c text => exact space
    | nil =>
      obtain ⟨c, ws', rfl⟩ := List.exists_cons_of_ne_nil (some rfl)
      exact blank' c List.mem_cons_self

/-- Braces with nothing but white space between them are an action without tokens. -/
theorem Body.eq_of_blank {segs : List Segment} (h : Body ws segs) (blank : Blank ws) :
    segs = [.action [] 0] := by
  cases h with
  | action inside =>
    rw [← List.append_nil ws] at inside
    obtain ⟨_, nothing⟩ := inside.of_blank_append blank
    cases nothing
    rfl
  | comment => exact absurd (by simp) (blank.notMem (c := '/') (by decide))

/-- A hyphen right before a closing is no action. -/
theorem readBraces_hyphen_closing (rest : List Char) (found : List Segment × Closed) :
    readBraces 0 0 ('-' :: (closing ++ rest)) ≠ .ok found := by
  intro read
  have noComment :
      Text.dropBeginning? ['/', '*'] (('-' :: (closing ++ rest)).dropWhile isSpace) = none := rfl
  rw [readBraces, noComment] at read
  obtain ⟨closed, lexed, -⟩ := map_eq_ok.mp read
  have lexes := lexesAction_of_lexAction lexed
  generalize whole : '-' :: (closing ++ rest) = cs at lexes
  generalize closed.tokens.map Token.unplaced = ts, closed.rest = left,
    closed.trims = trims at lexes
  cases lexes with
  | closes => cases whole
  | trims space | space space =>
    cases whole
    cases space
  | token _ _ token =>
    cases whole
    obtain ⟨d, x, eq, goesOn⟩ := token.hyphen
    cases eq
    cases goesOn

/-- A trim marker at a closing deletes the white space behind it. -/
theorem toOption_parse_closing (ends : EndsInBraces (front ++ (ws ++ trimClosing)))
    (blank : Blank ws) (some : ws ≠ []) (blank' : Blank ws') (blankAfter : Blank after)
    (first : ∀ c ∈ rest.head?, isSpace c = false) :
    (parse (front ++ (ws ++ trimClosing) ++ (after ++ rest))).toOption =
      (parse (front ++ (ws' ++ closing) ++ rest)).toOption := by
  obtain ⟨bs, laid⟩ := endsInBraces_iff.mp ends
  obtain ⟨lead, before, marker, text, bs', segs, opens, rfl, laidLead, cut, begins, reads, rfl⟩ :=
    laid.exists_reclosed blank some
  have plain : ¬ opening <:+: after := fun within =>
    blankAfter.notMem (by decide) (within.subset List.mem_cons_self)
  have apart : Apart after rest := fun h =>
    blankAfter.notMem (by decide) (List.mem_of_getLast? h.1)
  rw [toOption_parse, toOption_parse, laid.laidOut_append,
    laidOut_behind (cutAt?_of_plain plain) apart, Option.map_map, Option.bind_map]
  by_cases bare : opens = true ∧ text ++ ws' = []
  · -- the marker at the opening becomes a hyphen, but the action has no tokens
    obtain ⟨rfl, empty⟩ := bare
    obtain ⟨rfl, rfl⟩ := List.append_eq_nil_iff.mp empty
    cases begins
    have unread : laidOut (before ++ (opening ++ '-' :: (closing ++ rest))) = none :=
      laidOut_eq_none (Text.cutAt?_of_some cut _) fun found => readBraces_hyphen_closing rest found
    have noTokens := reads.eq_of_blank blank
    simp only [List.append_assoc, List.cons_append, List.nil_append]
    rw [laidLead.laidOut_append, unread]
    refine Option.bind_eq_none_iff.mpr fun l _ => ?_
    refine Option.eq_none_iff_forall_ne_some.mpr fun nodes found => ?_
    have derives := Layout.nodes?_eq_some_iff.mp found
    simp only [Function.comp, Layout.segments_prepend_concat, noTokens] at derives
    have bare : Segment.action [] 0 ∉ _ := derives.ne_nil
    exact bare (by simp)
  · have begins := begins.reclosed blank' fun opens empty => bare ⟨opens, empty⟩
    rw [← List.append_assoc] at begins
    have relaid := laidLead.concat cut begins (reads.append_blank blank blank') .closes
    have whole := relaid.laidOut_append rest
    simp only [List.append_assoc] at whole ⊢
    rw [whole, Option.bind_map]
    refine Option.bind_congr fun l found => ?_
    have head : ∀ c ∈ l.first.head?, isSpace c = false := by
      obtain ⟨more, split⟩ := laidOut_first found
      intro c mem
      refine first c ?_
      rw [← split]
      exact List.mem_head?_append_of_mem_head? mem
    simp only [Function.comp, Layout.nodes?, Layout.segments_prepend_concat]
    rw [Layout.segments_behind_blank blankAfter head]

end Closings

/-! ## Sources -/

/-- **Trim markers mean trimming by hand.**  Behind an action or a comment, or at the beginning, let
a text stand that ends neither with a brace nor with white space, then white space and an opening
with a trim marker.  The source is parsed as it would be without that white space and with a plain
opening, or both fail.  And let an action or a comment be closed by white space and a trim marker,
with more white space behind.  The source is parsed as it would be with a plain closing and without
the white space behind it, or both fail; the white space before the closing may stay or go. -/
theorem parse_trimmed :
    (∀ (front text ws rest : List Char) (c : Char), EndsInBraces front →
      (∀ c ∈ text.getLast?, c ≠ '\x7b' ∧ isSpace c = false) → Blank ws →
      ¬ opening <:+: text ++ ws → isSpace c →
        (parse (front ++ (text ++ ws ++ (opening ++ '-' :: c :: rest)))).toOption =
          (parse (front ++ (text ++ (opening ++ c :: rest)))).toOption) ∧
    ∀ front ws ws' after rest : List Char, EndsInBraces (front ++ (ws ++ trimClosing)) →
      Blank ws → ws ≠ [] → Blank ws' → Blank after → (∀ c ∈ rest.head?, isSpace c = false) →
        (parse (front ++ (ws ++ trimClosing) ++ (after ++ rest))).toOption =
          (parse (front ++ (ws' ++ closing) ++ rest)).toOption :=
  ⟨fun _ _ _ _ _ => toOption_parse_opening, fun _ _ _ _ _ => toOption_parse_closing⟩

/-- A field and a comment, each with a marker towards the text between them. -/
theorem parse_trimmed_between :
    (parse "\x7b\x7b.a -\x7d\x7d\nx \x7b\x7b- /* b */\x7d\x7d".toList).toOption =
      (parse "\x7b\x7b.a\x7d\x7dx\x7b\x7b /* b */\x7d\x7d".toList).toOption := by
  have token : lexToken 0 '.' ['a'] = .ok (.field ["a"], []) := by cbv
  have field : Body ['.', 'a'] [.action [⟨.field ["a"], true, 0⟩] 0] :=
    .action (.token (lexToken_eq_ok_iff.mp token) (.nil false))
  have cut : Text.cutAt? opening ([] ++ opening) = some ([], []) := rfl
  have trims : EndsInBraces ("\x7b\x7b.a".toList ++ ([' '] ++ trimClosing)) :=
    endsInBraces_iff.mpr ⟨_, .concat .nil cut .none field (.trims rfl)⟩
  have plain : EndsInBraces "\x7b\x7b.a\x7d\x7d".toList :=
    endsInBraces_iff.mpr ⟨_, .concat .nil cut .none field .closes⟩
  have none : Blank [] := List.forall_mem_nil _
  have space : Blank [' '] := List.forall_mem_singleton.mpr rfl
  have line : Blank ['\n'] := List.forall_mem_singleton.mpr rfl
  have closed := parse_trimmed.2 "\x7b\x7b.a".toList [' '] [] ['\n']
    ('x' :: " \x7b\x7b- /* b */\x7d\x7d".toList) trims space
    (List.cons_ne_nil _ _) none line (by rintro _ ⟨⟩; rfl)
  have opened := parse_trimmed.1 "\x7b\x7b.a\x7d\x7d".toList ['x'] [' ']
    "/* b */\x7d\x7d".toList ' ' plain (by rintro _ ⟨⟩; decide) space (by decide) rfl
  exact closed.trans opened

end MetricPath.Template
