import MetricPath.Template.Token

/-!
# Segments of a source

A source is text with actions and comments in it.  `segments` cuts it into texts and actions;
comments leave nothing, and a trim marker at a brace removes the white space of the text next to
it.

Like the reader of tokens, both readers below work on the text that is left, which gets shorter
with every step.
-/

namespace MetricPath.Template

/-- A part of a source: text that stands for itself, or the tokens of an action and the byte at
which it opens. -/
inductive Segment where
  | text (s : String)
  | action (tokens : List Token) (offset : Nat)
deriving Repr

/-- What reading an action or a comment comes to: its tokens, the text after it and whether that
text is to be trimmed. -/
structure Closed where
  tokens : List Token
  rest : List Char
  trims : Bool

/-- Put a token in front of those of an action. -/
def Closed.cons (t : Token) (c : Closed) : Closed := { c with tokens := t :: c.tokens }

/-- The mark that closes an action. -/
def closing : List Char := ['\x7d', '\x7d']

/-- The mark that closes an action and trims what follows; white space stands before it. -/
def trimClosing : List Char := ['-', '\x7d', '\x7d']

/-- Read an action.  `start` is the byte at which its inside begins, and `spaced` says whether white
space, or nothing, has been read since the last token. -/
def lexAction (total start : Nat) (spaced : Bool) : List Char → Except ParseError Closed
  | [] => .error ⟨start, .unclosedAction⟩
  | c :: cs =>
    match Text.dropBeginning? closing (c :: cs) with
    | some rest => .ok ⟨[], rest, false⟩
    | none =>
      if isSpace c then
        match Text.dropBeginning? trimClosing (cs.dropWhile isSpace) with
        | some rest => .ok ⟨[], rest, true⟩
        | none => lexAction total start true (cs.dropWhile isSpace)
      else
        match _h : lexToken total c cs with
        | .error e => .error e
        | .ok (kind, rest) =>
          (lexAction total start false rest).map
            (Closed.cons ⟨kind, spaced, offsetOf total (c :: cs)⟩)
termination_by cs => cs.length
decreasing_by
  · have := Text.length_dropWhile_le isSpace cs
    simp only [List.length_cons]; omega
  · have := lexToken_length _h
    simp only [List.length_cons]; omega

/-- Read a comment from after its opening.  Behind it nothing but white space may stand before the
closing. -/
def readComment (start : Nat) (cs : List Char) : Except ParseError Closed :=
  match Text.cutAt? ['*', '/'] cs with
  | none => .error ⟨start, .unclosedComment⟩
  | some (_, after) =>
    let rest := after.dropWhile isSpace
    let trimmed? := if after.head?.any isSpace then Text.dropBeginning? trimClosing rest else none
    match trimmed?, Text.dropBeginning? closing rest with
    | some rest, _ => .ok ⟨[], rest, true⟩
    | none, some rest => .ok ⟨[], rest, false⟩
    | none, none => .error ⟨start, .commentNotClosing⟩

/-- The mark that opens an action. -/
def opening : List Char := ['\x7b', '\x7b']

/-- A trim marker at the beginning of an action: a hyphen with white space after it, which stays. -/
def dropTrim? : List Char → Option (List Char)
  | '-' :: c :: cs => if isSpace c then some (c :: cs) else none
  | _ => none

/-- The segment of a text; an empty one is none. -/
def textSegment (cs : List Char) : List Segment :=
  if cs.isEmpty then [] else [.text (String.ofList cs)]

/-! ## The text left gets shorter -/

theorem dropTrim?_length {cs rest : List Char} (h : dropTrim? cs = some rest) :
    rest.length < cs.length := by
  unfold dropTrim? at h
  split at h
  · split at h
    · simp only [Option.some.injEq] at h
      simp [← h]
    · simp at h
  · simp at h

theorem lexAction_length {total start : Nat} (spaced : Bool) (cs : List Char) {c : Closed}
    (h : lexAction total start spaced cs = .ok c) : c.rest.length < cs.length := by
  match cs with
  | [] => simp [lexAction] at h
  | d :: cs =>
    rw [lexAction] at h
    split at h
    · rename_i rest found
      have := Text.dropBeginning?_length found
      simp only [Except.ok.injEq] at h
      simp only [← h, closing, List.length_cons, List.length_nil] at this ⊢
      omega
    · have shorter := Text.length_dropWhile_le isSpace cs
      split at h
      · split at h
        · rename_i rest found
          have := Text.dropBeginning?_length found
          simp only [Except.ok.injEq] at h
          simp only [← h, trimClosing, List.length_cons, List.length_nil] at this ⊢
          omega
        · have := lexAction_length true (cs.dropWhile isSpace) h
          simp only [List.length_cons]; omega
      · split at h
        · simp at h
        · rename_i kind rest found
          have len := lexToken_length found
          match inner : lexAction total start false rest with
          | .error e => rw [inner] at h; simp [Except.map] at h
          | .ok closed =>
            have := lexAction_length false rest inner
            rw [inner] at h
            simp only [Except.map, Closed.cons, Except.ok.injEq] at h
            simp only [← h, List.length_cons]; omega
termination_by cs.length
decreasing_by
  · simp only [List.length_cons]; omega
  · simp only [List.length_cons]; omega

theorem readComment_length {start : Nat} {cs : List Char} {c : Closed}
    (h : readComment start cs = .ok c) : c.rest.length < cs.length := by
  unfold readComment at h
  split at h
  · simp at h
  · rename_i before after found
    have len := Text.cutAt?_length found
    have shorter := Text.length_dropWhile_le isSpace after
    simp only [List.length_cons, List.length_nil] at len
    simp only at h
    split at h
    · rename_i trimmed _ cut
      split at cut
      · have := Text.dropBeginning?_length cut
        simp only [Except.ok.injEq] at h
        simp only [← h]; omega
      · simp at cut
    · rename_i rest _ cut
      have := Text.dropBeginning?_length cut
      simp only [Except.ok.injEq] at h
      simp only [← h]; omega
    · simp at h

/-! ## Cutting a source -/

/-- The text before an action, as its trim markers leave it. -/
def trimText (atStart atEnd : Bool) (cs : List Char) : List Char :=
  let cs := if atStart then Text.trimStart isSpace cs else cs
  if atEnd then Text.trimEnd isSpace cs else cs

/-- Read the action or comment whose inside is the given text; it opens at the byte `start`.
Returned are its segments as well. -/
def readBraces (total start : Nat) (inside : List Char) :
    Except ParseError (List Segment × Closed) :=
  match Text.dropBeginning? ['/', '*'] (inside.dropWhile isSpace) with
  | some body => (readComment start body).map fun c => ([], c)
  | none =>
    (lexAction total (offsetOf total inside) true inside).map fun c =>
      ([.action c.tokens start], c)

theorem readBraces_length {total start : Nat} {inside : List Char} {found : List Segment × Closed}
    (h : readBraces total start inside = .ok found) : found.2.rest.length < inside.length := by
  unfold readBraces at h
  split at h
  · rename_i body cut
    have len := Text.dropBeginning?_length cut
    have shorter := Text.length_dropWhile_le isSpace inside
    match inner : readComment start body with
    | .error e => rw [inner] at h; simp [Except.map] at h
    | .ok closed =>
      have := readComment_length inner
      rw [inner] at h
      simp only [Except.map, Except.ok.injEq] at h
      simp only [← h, List.length_cons, List.length_nil] at len ⊢
      omega
  · match inner : lexAction total (offsetOf total inside) true inside with
    | .error e => rw [inner] at h; simp [Except.map] at h
    | .ok closed =>
      have := lexAction_length true inside inner
      rw [inner] at h
      simp only [Except.map, Except.ok.injEq] at h
      simp only [← h]; omega

/-- The segments of the text left, whose beginning is trimmed if the action before asks for it. -/
def segmentsFrom (total : Nat) (trims : Bool) (cs : List Char) :
    Except ParseError (List Segment) :=
  match _h : Text.cutAt? opening cs with
  | none => .ok (textSegment (trimText trims false cs))
  | some (before, after) =>
    let start := offsetOf total after - 2
    let trimmed? := dropTrim? after
    match _h : readBraces total start (trimmed?.getD after) with
    | .error e => .error e
    | .ok (found, closed) =>
      (segmentsFrom total closed.trims closed.rest).map fun segments =>
        textSegment (trimText trims trimmed?.isSome before) ++ found ++ segments
termination_by cs.length
decreasing_by
  have cut := Text.cutAt?_length ‹_›
  have read := readBraces_length ‹_›
  have inside : (trimmed?.getD after).length ≤ after.length := by
    cases found : dropTrim? after with
    | none => simp [trimmed?, found]
    | some rest => simp [trimmed?, found, Nat.le_of_lt (dropTrim?_length found)]
  simp only [opening, List.length_cons, List.length_nil] at cut
  simp only at read
  omega

/-- The segments of a source. -/
def segments (source : List Char) : Except ParseError (List Segment) :=
  segmentsFrom (Text.byteLength source) false source

end MetricPath.Template
