import MetricPath.Proofs.TokenText
import MetricPath.Template.Segment

/-!
# The text of an action

What stands between braces is a body and an ending.  The body of an action is tokens and white space
(`Inside`), that of a comment is the comment with white space around it, and the ending is a closing
or a trim marker with white space before it (`Ending`).  The reader of braces finds exactly such
texts, whatever comes after them and in a source of any length (`readBraces_body`,
`Body.readBraces`), so that nothing behind its closing matters to an action or a comment.

`LexesAction` follows the reader of actions without places.  It looks ahead, past a run of white
space for a trim marker and past a character for a closing; `Inside` does not.  The two agree since
an ending begins with a character that ends every token (`Lexes.before_iff`), and no token begins as
an ending or a comment does (`Lexes.first`, `Lexes.hyphen`).
-/

namespace MetricPath.Template

/-! ## Actions -/

/-- A token without its place. -/
def Token.unplaced (t : Token) : Token := { t with offset := 0 }

@[simp] theorem Token.unplaced_comp_unplaced :
    Token.unplaced ∘ Token.unplaced = Token.unplaced := rfl

/-- The texts of actions from behind their opening, with their tokens without places, the text left
after the closing, and whether the closing is a trim marker. -/
inductive LexesAction : Bool → List Char → List Token → List Char → Bool → Prop where
  | closes (spaced : Bool) (rest : List Char) : LexesAction spaced (closing ++ rest) [] rest false
  | trims {spaced : Bool} {c : Char} {cs rest : List Char} : isSpace c →
      cs.dropWhile isSpace = trimClosing ++ rest → LexesAction spaced (c :: cs) [] rest true
  | space {spaced trims : Bool} {c : Char} {cs rest : List Char} {tokens : List Token} :
      isSpace c → Text.dropBeginning? trimClosing (cs.dropWhile isSpace) = none →
      LexesAction true (cs.dropWhile isSpace) tokens rest trims →
      LexesAction spaced (c :: cs) tokens rest trims
  | token {spaced trims : Bool} {c : Char} {cs after rest : List Char} {kind : TokenKind}
      {tokens : List Token} :
      Text.dropBeginning? closing (c :: cs) = none → ¬ isSpace c → Lexes c cs kind after →
      LexesAction false after tokens rest trims →
      LexesAction spaced (c :: cs) (⟨kind, spaced, 0⟩ :: tokens) rest trims

section Actions

variable {total start : Nat} {spaced : Bool} {c : Char} {cs rest : List Char} {closed : Closed}

theorem lexAction_closing (total start : Nat) (spaced : Bool) (rest : List Char) :
    lexAction total start spaced (closing ++ rest) = .ok ⟨[], rest, false⟩ := by
  rw [closing, List.cons_append, lexAction, ← List.cons_append, ← closing,
    Text.dropBeginning?_append]

theorem dropBeginning?_closing_of_isSpace (h : isSpace c) (cs : List Char) :
    Text.dropBeginning? closing (c :: cs) = none := by
  refine if_neg ?_
  rintro rfl
  exact absurd h (by decide)

theorem lexAction_trimClosing (h : isSpace c) (trims : cs.dropWhile isSpace = trimClosing ++ rest) :
    lexAction total start spaced (c :: cs) = .ok ⟨[], rest, true⟩ := by
  rw [lexAction, dropBeginning?_closing_of_isSpace h]
  simp only [if_pos h, trims, Text.dropBeginning?_append]

theorem lexAction_space (h : isSpace c)
    (goesOn : Text.dropBeginning? trimClosing (cs.dropWhile isSpace) = none) :
    lexAction total start spaced (c :: cs) = lexAction total start true (cs.dropWhile isSpace) := by
  rw [lexAction, dropBeginning?_closing_of_isSpace h]
  simp only [if_pos h, goesOn]

theorem lexAction_token {kind : TokenKind} (goesOn : Text.dropBeginning? closing (c :: cs) = none)
    (h : ¬ isSpace c) (token : lexToken total c cs = .ok (kind, rest)) :
    lexAction total start spaced (c :: cs)
      = (lexAction total start false rest).map
          (Closed.cons ⟨kind, spaced, offsetOf total (c :: cs)⟩) := by
  rw [lexAction, goesOn]
  simp only [if_neg h]
  split
  · rename_i e failed
    rw [token] at failed
    cases failed
  · rename_i k r found
    rw [token] at found
    cases found
    rfl

/-- What is read is the text of an action. -/
theorem lexesAction_of_lexAction (h : lexAction total start spaced cs = .ok closed) :
    LexesAction spaced cs (closed.tokens.map Token.unplaced) closed.rest closed.trims := by
  induction spaced, cs using lexAction.induct total generalizing closed with
  | case1 spaced =>
    rw [lexAction] at h
    cases h
  | case2 spaced c cs rest found =>
    rw [Text.eq_append_of_dropBeginning? found] at h ⊢
    rw [lexAction_closing] at h
    cases h
    exact .closes spaced rest
  | case3 spaced c cs _ space rest found =>
    have trims := Text.eq_append_of_dropBeginning? found
    rw [lexAction_trimClosing space trims] at h
    cases h
    exact .trims space trims
  | case4 spaced c cs _ space goesOn ih =>
    rw [lexAction_space space goesOn] at h
    exact .space space goesOn (ih h)
  | case5 spaced c cs goesOn noSpace e failed =>
    rw [lexAction, goesOn] at h
    simp only [if_neg noSpace] at h
    split at h
    · cases h
    · rename_i found
      rw [failed] at found
      cases found
  | case6 spaced c cs goesOn noSpace kind rest token ih =>
    rw [lexAction_token goesOn noSpace token] at h
    cases inner : lexAction total start false rest with
    | error e =>
      rw [inner] at h
      cases h
    | ok closed =>
      rw [inner] at h
      cases h
      exact .token goesOn noSpace (lexToken_eq_ok_iff.mp token) (ih inner)

/-- The text of an action is read, in a source of any length. -/
theorem LexesAction.lexAction {trims : Bool} {tokens : List Token}
    (h : LexesAction spaced cs tokens rest trims) (total start : Nat) :
    ∃ placed, lexAction total start spaced cs = .ok ⟨placed, rest, trims⟩ ∧
      placed.map Token.unplaced = tokens := by
  induction h with
  | closes spaced rest => exact ⟨[], lexAction_closing total start spaced rest, rfl⟩
  | trims space trims => exact ⟨[], lexAction_trimClosing space trims, rfl⟩
  | space space goesOn _ ih =>
    obtain ⟨placed, read, unplaced⟩ := ih
    exact ⟨placed, (lexAction_space space goesOn).trans read, unplaced⟩
  | token goesOn noSpace token _ ih =>
    obtain ⟨placed, read, unplaced⟩ := ih
    rw [lexAction_token goesOn noSpace (lexToken_eq_ok_iff.mpr token), read]
    refine ⟨_, rfl, ?_⟩
    rw [List.map_cons, unplaced]
    rfl

end Actions

/-! ## Tokens and white space -/

/-- Texts made of tokens and white space only, with the tokens, which have no places.  The flag says
whether white space, or nothing, stands before the text. -/
inductive Inside : Bool → List Char → List Token → Prop where
  | nil (spaced : Bool) : Inside spaced [] []
  | space {spaced : Bool} {c : Char} {cs : List Char} {ts : List Token} :
      isSpace c → Inside true cs ts → Inside spaced (c :: cs) ts
  | token {spaced : Bool} {c : Char} {cs after : List Char} {kind : TokenKind} {ts : List Token} :
      Lexes c cs kind after → Inside false after ts →
      Inside spaced (c :: cs) (⟨kind, spaced, 0⟩ :: ts)

/-- The text is white space, or nothing. -/
def Blank (cs : List Char) : Prop := ∀ c ∈ cs, isSpace c = true

/-- What ends an action or a comment, and whether it is a trim marker. -/
inductive Ending : List Char → Bool → Prop where
  | closes : Ending closing false
  | trims {c : Char} : isSpace c → Ending (c :: trimClosing) true

section Inside

variable {spaced : Bool} {c : Char} {cs rest text ending ws : List Char} {ts : List Token}

theorem endsToken_of_isSpace (h : isSpace c) : endsToken c = true := by
  simp only [isSpace, Bool.or_eq_true, decide_eq_true_eq] at h
  obtain ((rfl | rfl) | rfl) | rfl := h <;> decide

theorem blank_takeWhile (cs : List Char) : Blank (cs.takeWhile isSpace) :=
  fun _ h => List.mem_takeWhile_imp h

theorem dropWhile_isSpace_append (h : Blank ws) (cs : List Char) :
    (ws ++ cs).dropWhile isSpace = cs.dropWhile isSpace :=
  List.dropWhile_append_of_pos h

/-- An ending begins with a character that ends every token. -/
theorem Ending.exists_cons {trims : Bool} (h : Ending ending trims) :
    ∃ s x, ending = s :: x ∧ endsToken s = true := by
  cases h with
  | closes => exact ⟨_, _, rfl, by decide⟩
  | trims space => exact ⟨_, _, rfl, endsToken_of_isSpace space⟩

/-- What comes after an ending is too far off to be the first character. -/
theorem Ending.head?_append {trims : Bool} (h : Ending ending trims) (text rest : List Char) :
    (text ++ (ending ++ rest)).head? = (text ++ ending).head? := by
  obtain ⟨s, x, rfl, -⟩ := h.exists_cons
  cases text <;> rfl

theorem Inside.blank (h : Blank ws) (spaced : Bool) : Inside spaced ws [] := by
  induction ws generalizing spaced with
  | nil => exact .nil spaced
  | cons c ws ih =>
    obtain ⟨space, others⟩ := List.forall_mem_cons.mp h
    exact .space space (ih others true)

theorem Inside.blank_append (h : Blank ws) (inside : Inside true cs ts) :
    Inside true (ws ++ cs) ts := by
  induction ws with
  | nil => exact inside
  | cons c ws ih =>
    obtain ⟨space, others⟩ := List.forall_mem_cons.mp h
    exact .space space (ih others)

/-- No token begins as a trim marker. -/
theorem Lexes.dropBeginning?_trimClosing {kind : TokenKind} (h : Lexes c cs kind rest) :
    Text.dropBeginning? trimClosing (c :: cs) = none := by
  cases found : Text.dropBeginning? trimClosing (c :: cs) with
  | none => rfl
  | some left =>
    obtain ⟨rfl, rfl⟩ := List.cons.inj (Text.eq_append_of_dropBeginning? found)
    obtain ⟨d, x, brace, goesOn⟩ := h.hyphen
    cases brace
    cases goesOn

/-- One more character of white space does not change how an action is read. -/
theorem LexesAction.isSpace_cons {trims : Bool} (space : isSpace c)
    (h : LexesAction true cs ts rest trims) : LexesAction spaced (c :: cs) ts rest trims := by
  cases h with
  | closes => exact .space space rfl (.closes true rest)
  | trims more found => exact .trims space (by rwa [List.dropWhile_cons_of_pos more])
  | space more goesOn inner =>
    rw [← List.dropWhile_cons_of_pos (p := isSpace) more] at goesOn inner
    exact .space space goesOn inner
  | @token _ _ d ds after _ kind tokens goesOn noSpace token inner =>
    have stays : (d :: ds).dropWhile isSpace = d :: ds := List.dropWhile_cons_of_neg noSpace
    refine .space space ?_ ?_
    · rw [stays, token.dropBeginning?_trimClosing]
    · rw [stays]
      exact .token goesOn noSpace token inner

/-- The last character of the white space before a trim marker belongs to the ending. -/
theorem exists_blank_trims (space : cs.head?.any isSpace)
    (found : cs.dropWhile isSpace = trimClosing ++ rest) :
    ∃ ws ending, cs = ws ++ (ending ++ rest) ∧ Blank ws ∧ Ending ending true := by
  cases cs with
  | nil => cases space
  | cons c cs =>
    have whole := List.takeWhile_append_dropWhile (p := isSpace) (l := c :: cs)
    have blank := blank_takeWhile (c :: cs)
    have space : isSpace c = true := space
    rw [List.takeWhile_cons_of_pos space] at whole blank
    obtain ⟨ws, last, split⟩ : ∃ ws last, c :: cs.takeWhile isSpace = ws ++ [last] :=
      ⟨_, _, (List.dropLast_concat_getLast (List.cons_ne_nil _ _)).symm⟩
    rw [split, found] at whole
    rw [split] at blank
    obtain ⟨before, ends⟩ := List.forall_mem_append.mp blank
    refine ⟨ws, last :: trimClosing, ?_, before, .trims (ends last List.mem_cons_self)⟩
    rw [← whole, List.append_assoc, List.singleton_append, List.cons_append]

/-- An action is tokens and white space up to its ending. -/
theorem LexesAction.exists_inside {trims : Bool} (h : LexesAction spaced cs ts rest trims) :
    ∃ text ending, cs = text ++ (ending ++ rest) ∧ Inside spaced text ts ∧
      Ending ending trims := by
  induction h with
  | closes spaced rest => exact ⟨[], closing, rfl, .nil spaced, .closes⟩
  | @trims spaced c cs rest space found =>
    rw [← List.dropWhile_cons_of_pos (p := isSpace) space] at found
    obtain ⟨ws, ending, eq, blank, ends⟩ := exists_blank_trims (by simpa using space) found
    exact ⟨ws, ending, eq, .blank blank spaced, ends⟩
  | @space spaced trims c cs rest ts space _ _ ih =>
    obtain ⟨text, ending, eq, inside, ends⟩ := ih
    refine ⟨c :: (cs.takeWhile isSpace ++ text), ending, ?_, ?_, ends⟩
    · rw [List.cons_append, List.append_assoc, ← eq, List.takeWhile_append_dropWhile]
    · exact .space space (inside.blank_append (blank_takeWhile cs))
  | @token spaced trims c cs after rest kind ts _ _ token _ ih =>
    obtain ⟨text, ending, rfl, inside, ends⟩ := ih
    obtain ⟨s, x, rfl, stops⟩ := ends.exists_cons
    obtain ⟨taken, rfl⟩ := token.suffix
    rw [List.cons_append, ← List.append_assoc, Lexes.before_iff stops] at token
    exact ⟨c :: (taken ++ text), s :: x, by simp, .token token inside, ends⟩

/-- Tokens and white space with an ending behind are an action, whatever comes after. -/
theorem Inside.lexesAction {trims : Bool} (h : Inside spaced text ts) (ends : Ending ending trims)
    (rest : List Char) : LexesAction spaced (text ++ (ending ++ rest)) ts rest trims := by
  obtain ⟨s, x, begins, stops⟩ := ends.exists_cons
  induction h with
  | nil spaced =>
    cases ends with
    | closes => exact .closes spaced rest
    | trims space => exact .trims space rfl
  | space space _ ih => exact .isSpace_cons space ih
  | token token inside ih =>
    have first := token.first
    refine .token ?_ first.1 ?_ ih
    · exact if_neg first.2.2.1.symm
    · rw [begins, List.cons_append]
      exact (Lexes.before_iff stops).mpr token

/-- A text of tokens goes on with a character that ends every token. -/
theorem Inside.append {s : Char} (h : Inside spaced text ts) (ends : endsToken s = true)
    (x : List Char) : ∃ spaced', ∀ us, Inside spaced' (s :: x) us →
      Inside spaced (text ++ s :: x) (ts ++ us) := by
  induction h with
  | nil spaced => exact ⟨spaced, fun us h => h⟩
  | space space _ ih =>
    obtain ⟨spaced', behind⟩ := ih
    exact ⟨spaced', fun us h => .space space (behind us h)⟩
  | token token _ ih =>
    obtain ⟨spaced', behind⟩ := ih
    exact ⟨spaced', fun us h => .token ((Lexes.before_iff ends).mpr token) (behind us h)⟩

/-- A text of tokens can be cut before a character that ends every token, if no string is closed
behind it. -/
theorem Inside.split {s : Char} {x : List Char} (h : Inside spaced (text ++ s :: x) ts)
    (ends : endsToken s = true) (noQuote : '"' ∉ s :: x ∧ rawQuote ∉ s :: x) :
    ∃ spaced' us vs, ts = us ++ vs ∧ Inside spaced text us ∧ Inside spaced' (s :: x) vs := by
  generalize whole : text ++ s :: x = cs at h
  induction h generalizing text with
  | nil => exact absurd whole (List.append_ne_nil_of_right_ne_nil _ (List.cons_ne_nil s x))
  | @space spaced c cs ts space inside ih =>
    cases text with
    | nil =>
      rw [List.nil_append] at whole
      rw [whole]
      exact ⟨spaced, [], ts, rfl, .nil spaced, .space space inside⟩
    | cons d text =>
      obtain ⟨rfl, rfl⟩ := List.cons.inj whole
      obtain ⟨spaced', us, vs, rfl, first, second⟩ := ih rfl
      exact ⟨spaced', us, vs, rfl, .space space first, second⟩
  | @token spaced c cs after kind ts token inside ih =>
    cases text with
    | nil =>
      rw [List.nil_append] at whole
      rw [whole]
      exact ⟨spaced, [], _, rfl, .nil spaced, .token token inside⟩
    | cons d text =>
      obtain ⟨rfl, rfl⟩ := List.cons.inj whole
      obtain ⟨rest, rfl, alone⟩ | ⟨q, quote, later⟩ := token.stops ends
      · obtain ⟨spaced', us, vs, rfl, first, second⟩ := ih rfl
        exact ⟨spaced', _, vs, rfl, .token alone first, second⟩
      · have closed := later.subset List.mem_cons_self
        obtain rfl | rfl := quote
        · exact absurd closed noQuote.1
        · exact absurd closed noQuote.2

end Inside

/-! ## Comments -/

section Comments

variable {start : Nat} {cs : List Char} {closed : Closed}

/-- The closings behind the text of a comment, with the text left after them and whether they are
trim markers. -/
inductive ClosesComment : List Char → List Char → Bool → Prop where
  | closes {after rest : List Char} : after.dropWhile isSpace = closing ++ rest →
      ClosesComment after rest false
  | trims {after rest : List Char} : after.head?.any isSpace →
      after.dropWhile isSpace = trimClosing ++ rest → ClosesComment after rest true

theorem readComment_eq_ok_iff : readComment start cs = .ok closed ↔
    closed.tokens = [] ∧ ∃ before after, Text.cutAt? ['*', '/'] cs = some (before, after) ∧
      ClosesComment after closed.rest closed.trims := by
  constructor
  · intro h
    unfold readComment at h
    split at h
    · cases h
    · rename_i before after cut
      dsimp only at h
      split at h
      · rename_i rest _ trims
        cases h
        split at trims
        · rename_i blank
          have trims := Text.eq_append_of_dropBeginning? trims
          exact ⟨rfl, before, after, cut, .trims blank trims⟩
        · cases trims
      · rename_i rest _ closes
        cases h
        have closes := Text.eq_append_of_dropBeginning? closes
        exact ⟨rfl, before, after, cut, .closes closes⟩
      · cases h
  · obtain ⟨tokens, rest, trims⟩ := closed
    rintro ⟨noTokens, before, after, cut, closes⟩
    cases noTokens
    unfold readComment
    rw [cut]
    cases closes with
    | closes closes =>
      have noTrim : Text.dropBeginning? trimClosing (closing ++ rest) = none := rfl
      simp only [closes, noTrim, ite_self, Text.dropBeginning?_append]
    | trims blank trims => simp only [if_pos blank, trims, Text.dropBeginning?_append]

/-- A comment closes with an ending, before which white space may stand. -/
theorem closesComment_iff {after rest : List Char} {trims : Bool} :
    ClosesComment after rest trims ↔
      ∃ ws ending, after = ws ++ (ending ++ rest) ∧ Blank ws ∧ Ending ending trims := by
  constructor
  · intro h
    cases h with
    | closes found =>
      refine ⟨after.takeWhile isSpace, closing, ?_, blank_takeWhile after, .closes⟩
      rw [← found, List.takeWhile_append_dropWhile]
    | trims space found => exact exists_blank_trims space found
  · rintro ⟨ws, ending, rfl, blank, ends⟩
    cases ends with
    | closes => exact .closes (dropWhile_isSpace_append blank _)
    | trims space =>
      refine .trims ?_ ?_
      · cases ws with
        | nil => exact space
        | cons d ws => exact blank d List.mem_cons_self
      · rw [dropWhile_isSpace_append blank, List.cons_append, List.dropWhile_cons_of_pos space]
        rfl

end Comments

/-! ## Braces -/

theorem map_eq_ok {ε α β : Type} {x : Except ε α} {f : α → β} {b : β} :
    x.map f = .ok b ↔ ∃ a, x = .ok a ∧ f a = b := by
  cases x with
  | error e => simp [Except.map]
  | ok a => simp [Except.map]

theorem toOption_eq_some_iff {ε α : Type} {x : Except ε α} {a : α} :
    x.toOption = some a ↔ x = .ok a := by
  cases x <;> simp [Except.toOption]

/-- A segment without its places. -/
def Segment.unplaced : Segment → Segment
  | .text s => .text s
  | .action tokens _ => .action (tokens.map Token.unplaced) 0

@[simp] theorem Segment.unplaced_comp_unplaced :
    Segment.unplaced ∘ Segment.unplaced = Segment.unplaced := by
  funext seg
  cases seg <;> simp [Segment.unplaced]

/-- The texts of actions and comments between their opening and their ending, with their segments,
which have no places. -/
inductive Body : List Char → List Segment → Prop where
  | action {text : List Char} {ts : List Token} : Inside true text ts → Body text [.action ts 0]
  | comment {before ws ws' : List Char} : Blank ws → Blank ws' →
      Text.cutAt? ['*', '/'] (before ++ ['*', '/']) = some (before, []) →
      Body (ws ++ (['/', '*'] ++ (before ++ (['*', '/'] ++ ws')))) []

section Braces

variable {total start : Nat} {inside : List Char} {segs : List Segment} {closed : Closed}

/-- No action looks like a comment. -/
theorem LexesAction.dropBeginning?_comment {spaced trims : Bool} {cs rest : List Char}
    {ts : List Token} (h : LexesAction spaced cs ts rest trims) :
    Text.dropBeginning? ['/', '*'] (cs.dropWhile isSpace) = none := by
  induction h with
  | closes => rfl
  | trims space found =>
    rw [List.dropWhile_cons_of_pos space, found]
    rfl
  | space space _ _ ih =>
    rw [List.dropWhile_cons_of_pos space, ← ih, List.dropWhile_idempotent]
  | token _ noSpace token =>
    rw [List.dropWhile_cons_of_neg noSpace]
    exact if_neg token.first.2.2.2.symm

/-- What is read is a body and an ending. -/
theorem readBraces_body (h : readBraces total start inside = .ok (segs, closed)) :
    ∃ body ending, inside = body ++ (ending ++ closed.rest) ∧
      Body body (segs.map Segment.unplaced) ∧ Ending ending closed.trims := by
  unfold readBraces at h
  split at h
  · rename_i comment
    obtain ⟨c, read, same⟩ := map_eq_ok.mp h
    cases same
    obtain ⟨-, before, after, cut, closes⟩ := readComment_eq_ok_iff.mp read
    obtain ⟨ws, ending, rfl, blank, ends⟩ := closesComment_iff.mp closes
    have short := Text.cutAt?_of_some cut []
    refine ⟨_, ending, ?_, .comment (blank_takeWhile inside) blank short, ends⟩
    simp only [List.append_assoc]
    rw [← Text.eq_append_of_cutAt? cut, ← Text.eq_append_of_dropBeginning? comment,
      List.takeWhile_append_dropWhile]
  · rename_i other
    obtain ⟨c, read, same⟩ := map_eq_ok.mp h
    cases same
    obtain ⟨text, ending, whole, inside, ends⟩ := (lexesAction_of_lexAction read).exists_inside
    exact ⟨text, ending, whole, .action inside, ends⟩

/-- A body with an ending behind is read, whatever comes after and in a source of any length. -/
theorem Body.readBraces {body ending : List Char} {trims : Bool} (h : Body body segs)
    (ends : Ending ending trims) (total start : Nat) (rest : List Char) :
    ∃ segs' closed, readBraces total start (body ++ (ending ++ rest)) = .ok (segs', closed) ∧
      segs'.map Segment.unplaced = segs ∧ closed.rest = rest ∧ closed.trims = trims := by
  unfold Template.readBraces
  cases h with
  | action inside =>
    have lexes := inside.lexesAction ends rest
    obtain ⟨placed, read, unplaced⟩ :=
      lexes.lexAction total (offsetOf total (body ++ (ending ++ rest)))
    rw [lexes.dropBeginning?_comment, read]
    exact ⟨_, _, rfl, by simp [Segment.unplaced, unplaced], rfl, rfl⟩
  | @comment before ws ws' blank blank' cut =>
    have closes : ClosesComment (ws' ++ (ending ++ rest)) rest trims :=
      closesComment_iff.mpr ⟨ws', ending, rfl, blank', ends⟩
    have read : readComment start (before ++ (['*', '/'] ++ (ws' ++ (ending ++ rest))))
        = .ok ⟨[], rest, trims⟩ :=
      readComment_eq_ok_iff.mpr ⟨rfl, before, _, Text.cutAt?_of_some cut _, closes⟩
    simp only [List.append_assoc]
    rw [dropWhile_isSpace_append blank]
    have comment (cs : List Char) :
        Text.dropBeginning? ['/', '*'] ((['/', '*'] ++ cs).dropWhile isSpace) = some cs := rfl
    rw [comment]
    dsimp only
    rw [read]
    exact ⟨_, _, rfl, rfl, rfl, rfl⟩

end Braces

/-! ## Trim markers -/

/-- What stands before the inside of braces, and whether it is a trim marker. -/
inductive Marker (inside : List Char) : List Char → Bool → Prop where
  | none : Marker inside [] false
  | trims : inside.head?.any isSpace → Marker inside ['-'] true

section Marker

variable {cs rest marker body ending : List Char} {segs : List Segment} {opens trims : Bool}

theorem dropTrim?_of_ne {c : Char} (h : c ≠ '-') (cs : List Char) : dropTrim? (c :: cs) = none := by
  unfold dropTrim?
  split
  · rename_i eq
    exact absurd (List.cons.inj eq).1 h
  · rfl

theorem dropTrim?_of_isSpace {c : Char} (h : isSpace c) (cs : List Char) :
    dropTrim? (c :: cs) = none := by
  refine dropTrim?_of_ne ?_ cs
  rintro rfl
  cases h

theorem eq_of_dropTrim? (h : dropTrim? cs = some rest) :
    cs = '-' :: rest ∧ rest.head?.any isSpace := by
  unfold dropTrim? at h
  split at h
  · split at h
    · rename_i space
      cases h
      exact ⟨rfl, space⟩
    · cases h
  · cases h

theorem getD_dropTrim?_suffix (cs : List Char) : (dropTrim? cs).getD cs <:+ cs := by
  cases found : dropTrim? cs with
  | none => exact List.suffix_rfl
  | some rest =>
    rw [(eq_of_dropTrim? found).1]
    exact List.suffix_cons '-' rest

/-- No body begins with a trim marker. -/
theorem Body.dropTrim?_eq_none (h : Body body segs) (ends : Ending ending trims)
    (rest : List Char) : dropTrim? (body ++ (ending ++ rest)) = none := by
  cases h with
  | action inside =>
    cases inside with
    | nil =>
      cases ends with
      | closes => rfl
      | trims space => exact dropTrim?_of_isSpace space _
    | space space => exact dropTrim?_of_isSpace space _
    | @token _ c cs _ kind _ token _ =>
      by_cases hyphen : c = '-'
      · subst hyphen
        obtain ⟨d, x, rfl, goesOn⟩ := token.hyphen
        refine if_neg fun space => ?_
        rw [endsToken_of_isSpace space] at goesOn
        cases goesOn
      · exact dropTrim?_of_ne hyphen _
  | @comment before ws ws' blank =>
    cases ws with
    | nil => exact dropTrim?_of_ne (by decide) _
    | cons c ws => exact dropTrim?_of_isSpace (blank c List.mem_cons_self) _

/-- The marker is found, and nothing else is taken for one. -/
theorem Marker.dropTrim? (h : Marker (body ++ ending) marker opens) (reads : Body body segs)
    (ends : Ending ending trims) (rest : List Char) :
    Template.dropTrim? (marker ++ (body ++ (ending ++ rest)))
      = if opens then some (body ++ (ending ++ rest)) else Option.none := by
  cases h with
  | none => exact reads.dropTrim?_eq_none ends rest
  | trims space =>
    rw [← List.append_assoc body]
    generalize body ++ ending = inside at space
    cases inside with
    | nil => cases space
    | cons c inside => exact if_pos space

end Marker

end MetricPath.Template
