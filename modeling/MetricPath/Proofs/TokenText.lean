import MetricPath.Proofs.Split
import MetricPath.Template.Token

/-!
# The text of a token

`Lexes` lists the tokens by their first characters, with the text that each takes; the reader of
tokens decides it (`lexToken_eq_ok_iff`).

A token leaves text of its own behind (`Lexes.suffix`).  A quoted string ends where it is closed.  A
name, a chain or a number goes on up to the first character that does not belong to it, so that it
is over before a character that belongs to none (`endsToken`), which white space, parentheses, pipes
and closing braces all are.  Every token before such a character is the same whatever stands there
instead and whatever comes after (`Lexes.before_iff`), and only a quoted string can take the
character itself (`Lexes.stops`).
-/

namespace MetricPath.Template

variable {c : Char} {cs rest : List Char}

/-! ## Quotations, chains and numbers -/

/-- A quote closes a quotation. -/
theorem readQuotation_quote (cs : List Char) : readQuotation ('"' :: cs) = .closed [] cs := by
  rw [readQuotation.eq_def]
  simp only [if_true]

/-- An escape that is known stands for a character. -/
theorem readQuotation_escape {e u : Char} (known : unescapeChar? e = some u) (cs : List Char) :
    readQuotation ('\\' :: e :: cs) = (readQuotation cs).cons u := by
  rw [readQuotation.eq_def]
  simp only [if_neg (by decide : '\\' ≠ '"'), if_true, known]

/-- Any other character but the end of a line stands for itself. -/
theorem readQuotation_verbatim (quote : c ≠ '"') (escape : c ≠ '\\') (line : c ≠ '\n')
    (cs : List Char) : readQuotation (c :: cs) = (readQuotation cs).cons c := by
  rw [readQuotation.eq_def]
  simp only [if_neg quote, if_neg escape, if_neg line]

/-- A quotation ends where it is closed. -/
theorem readQuotation_closed {value : List Char} (h : readQuotation cs = .closed value rest) :
    ∃ taken, cs = taken ++ '"' :: rest ∧
      ∀ rest, readQuotation (taken ++ '"' :: rest) = .closed value rest := by
  induction cs using readQuotation.induct generalizing value with
  | case1 => cases h
  | case2 after =>
    rw [readQuotation_quote] at h
    cases h
    exact ⟨[], rfl, readQuotation_quote⟩
  | case3 => cases h
  | case4 e after u known quote ih =>
    rw [readQuotation_escape known] at h
    obtain ⟨v, closed⟩ := Quotation.cons_eq_closed h
    obtain ⟨taken, rfl, any⟩ := ih closed
    rw [closed] at h
    cases h
    exact ⟨'\\' :: e :: taken, rfl, fun _ => by
      rw [List.cons_append, List.cons_append, readQuotation_escape known, any]; rfl⟩
  | case5 e after unknown quote =>
    rw [readQuotation.eq_def] at h
    simp only [if_neg quote, if_true, unknown] at h
    cases h
  | case6 after quote escape =>
    rw [readQuotation.eq_def] at h
    simp only [if_neg quote, if_neg escape, if_true] at h
    cases h
  | case7 c after quote escape line ih =>
    rw [readQuotation_verbatim quote escape line] at h
    obtain ⟨v, closed⟩ := Quotation.cons_eq_closed h
    obtain ⟨taken, rfl, any⟩ := ih closed
    rw [closed] at h
    cases h
    exact ⟨c :: taken, rfl, fun _ => by
      rw [List.cons_append, readQuotation_verbatim quote escape line, any]; rfl⟩

theorem readChain_suffix (cs : List Char) : (readChain cs).2 <:+ cs := by
  induction cs using readChain.induct with
  | case1 c cs start names rest read ih =>
    rw [readChain, if_pos start]
    have tail : cs <:+ '.' :: c :: cs := ⟨['.', c], rfl⟩
    exact ih.trans ((List.dropWhile_suffix _).trans tail)
  | case2 c cs start => rw [readChain, if_neg start]
  | case3 cs other => rw [readChain.eq_2 cs other]

/-- A character that belongs to no name, chain or number: a token before it is over. -/
def endsToken (s : Char) : Bool := !(isNameChar s || s = '.' || s = '+' || s = '-')

section Ends

variable {s : Char} (ends : endsToken s = true)
include ends

theorem ne_of_endsToken {d : Char} (h : endsToken d = false) : s ≠ d := by
  rintro rfl
  rw [ends] at h
  cases h

theorem isNameChar_of_endsToken : isNameChar s = false := by
  cases name : isNameChar s with
  | false => rfl
  | true =>
    rw [endsToken, name] at ends
    cases ends

theorem isNameStart_of_endsToken : isNameStart s = false := by
  have other := isNameChar_of_endsToken ends
  rw [isNameChar, Char.isAlphanum, Bool.or_eq_false_iff, Bool.or_eq_false_iff] at other
  rw [isNameStart, other.1.1, other.2]
  rfl

theorem isDigit_of_endsToken : Decimal.isDigit s = false := by
  have other := isNameChar_of_endsToken ends
  rw [isNameChar, Char.isAlphanum, Bool.or_eq_false_iff, Bool.or_eq_false_iff] at other
  exact other.1.2

/-- A chain is over before such a character. -/
theorem readChain_append_cons (cs x : List Char) :
    readChain (cs ++ s :: x) = ((readChain cs).1, (readChain cs).2 ++ s :: x) := by
  have name := isNameChar_of_endsToken ends
  induction cs using readChain.induct with
  | case1 c cs start names rest read ih =>
    rw [List.cons_append, List.cons_append, readChain, if_pos start, readChain, if_pos start,
      Text.dropWhile_append_cons name, Text.takeWhile_append_cons name, ih]
  | case2 c cs start =>
    rw [List.cons_append, List.cons_append, readChain, if_neg start, readChain, if_neg start]
    rfl
  | case3 cs other =>
    rw [readChain.eq_2 _ other]
    cases cs with
    | nil =>
      refine readChain.eq_2 _ fun c ds eq => ?_
      exact ne_of_endsToken ends (by decide) (List.cons.inj eq).1
    | cons d cs =>
      cases cs with
      | nil =>
        by_cases point : d = '.'
        · rw [point, List.singleton_append, readChain, isNameStart_of_endsToken ends]
          rfl
        · exact readChain.eq_2 _ fun c ds eq => point (List.cons.inj eq).1
      | cons e cs =>
        refine readChain.eq_2 _ fun c ds eq => ?_
        obtain ⟨rfl, -⟩ := List.cons.inj eq
        exact other _ _ rfl

end Ends

theorem takeSign_cons (c : Char) (cs : List Char) :
    takeSign (c :: cs) = if c = '-' ∨ c = '+' then ([c], cs) else ([], c :: cs) := by
  unfold takeSign
  split
  · rename_i eq
    cases eq
    rfl
  · rename_i eq
    cases eq
    rfl
  · rename_i minus plus
    refine (if_neg ?_).symm
    rintro (rfl | rfl)
    · exact minus _ rfl
    · exact plus _ rfl

theorem takeSign_suffix (cs : List Char) : (takeSign cs).2 <:+ cs := by
  cases cs with
  | nil => exact List.suffix_rfl
  | cons c cs =>
    rw [takeSign_cons]
    split
    · exact List.suffix_cons c cs
    · exact List.suffix_rfl

theorem takePart_suffix (cs : List Char) : (takePart cs).2 <:+ cs := by
  unfold takePart
  split
  · split
    · exact (List.dropWhile_suffix _).trans (List.suffix_cons _ _)
    · exact List.suffix_rfl
  · exact List.suffix_rfl

theorem takeExponent_suffix (cs : List Char) : (takeExponent cs).2 <:+ cs := by
  unfold takeExponent
  split
  · exact List.suffix_rfl
  · rename_i c cs
    dsimp only
    split
    · exact ((List.dropWhile_suffix _).trans (takeSign_suffix cs)).trans (List.suffix_cons c cs)
    · exact List.suffix_rfl

theorem takeNumber_suffix (cs : List Char) : (takeNumber cs).2 <:+ cs := by
  unfold takeNumber
  exact (takeExponent_suffix _).trans <| (takePart_suffix _).trans <|
    (List.dropWhile_suffix _).trans (takeSign_suffix cs)

theorem takePart_of_ne {c : Char} (h : c ≠ '.') (cs : List Char) :
    takePart (c :: cs) = ([], c :: cs) := by
  unfold takePart
  split
  · rename_i eq
    exact absurd (List.cons.inj eq).1 h
  · rfl

theorem takeExponent_of_ne {c : Char} (h : c ≠ 'e' ∧ c ≠ 'E') (cs : List Char) :
    takeExponent (c :: cs) = ([], c :: cs) := by
  simp [takeExponent, h]

section Ends

variable {s : Char} (ends : endsToken s = true) (cs x : List Char)
include ends

theorem takeSign_append_cons :
    takeSign (cs ++ s :: x) = ((takeSign cs).1, (takeSign cs).2 ++ s :: x) := by
  cases cs with
  | nil =>
    rw [List.nil_append, takeSign_cons, if_neg]
    · rfl
    · exact not_or_intro (ne_of_endsToken ends (by decide)) (ne_of_endsToken ends (by decide))
  | cons c cs =>
    rw [List.cons_append, takeSign_cons, takeSign_cons]
    split <;> rfl

theorem takePart_append_cons :
    takePart (cs ++ s :: x) = ((takePart cs).1, (takePart cs).2 ++ s :: x) := by
  have digit := isDigit_of_endsToken ends
  match cs with
  | [] => exact takePart_of_ne (ne_of_endsToken ends (by decide)) x
  | [c] =>
    by_cases point : c = '.'
    · rw [point, List.singleton_append, takePart, digit]
      rfl
    · rw [List.singleton_append, takePart_of_ne point, takePart_of_ne point]
      rfl
  | c :: d :: cs =>
    by_cases point : c = '.'
    · rw [point, List.cons_append, List.cons_append, takePart, takePart]
      split
      · rw [← List.cons_append, Text.takeWhile_append_cons digit, Text.dropWhile_append_cons digit]
      · rfl
    · rw [List.cons_append, takePart_of_ne point, takePart_of_ne point]
      rfl

theorem takeExponent_append_cons :
    takeExponent (cs ++ s :: x) = ((takeExponent cs).1, (takeExponent cs).2 ++ s :: x) := by
  have digit := isDigit_of_endsToken ends
  cases cs with
  | nil =>
    exact takeExponent_of_ne
      ⟨ne_of_endsToken ends (by decide), ne_of_endsToken ends (by decide)⟩ x
  | cons c cs =>
    rw [List.cons_append, takeExponent, takeExponent]
    simp only [takeSign_append_cons ends, Text.takeWhile_append_cons digit,
      Text.dropWhile_append_cons digit]
    split <;> rfl

theorem takeNumber_append_cons :
    takeNumber (cs ++ s :: x) = ((takeNumber cs).1, (takeNumber cs).2 ++ s :: x) := by
  have digit := isDigit_of_endsToken ends
  unfold takeNumber
  simp only [takeSign_append_cons ends, Text.takeWhile_append_cons digit,
    Text.dropWhile_append_cons digit, takePart_append_cons ends, takeExponent_append_cons ends]

end Ends

/-! ## Tokens -/

/-- What is left of a text after at least its first character is left of the text behind that. -/
theorem suffix_of_length_lt (h : rest <:+ c :: cs) (shorter : rest.length < (c :: cs).length) :
    rest <:+ cs := by
  refine (List.suffix_cons_iff.mp h).resolve_left ?_
  rintro rfl
  exact absurd shorter (Nat.lt_irrefl _)

/-- No name starts with a digit. -/
theorem not_isDigit_of_isNameStart (start : isNameStart c) : ¬ Decimal.isDigit c := by
  intro digit
  have le : c.val ≤ '9'.val := of_decide_eq_true (Bool.and_eq_true_iff.mp digit).2
  rcases Bool.or_eq_true_iff.mp start with alpha | underscore
  · rcases Bool.or_eq_true_iff.mp alpha with upper | lower
    · have ge : 'A'.val ≤ c.val := (of_decide_eq_true upper).1
      exact absurd (UInt32.le_trans ge le) (by decide)
    · have ge : 'a'.val ≤ c.val := of_decide_eq_true (Bool.and_eq_true_iff.mp lower).1
      exact absurd (UInt32.le_trans ge le) (by decide)
  · cases of_decide_eq_true underscore
    exact absurd digit (by decide)

/-- The tokens by their first characters, and the text left after them. -/
inductive Lexes : Char → List Char → TokenKind → List Char → Prop where
  | pipe (cs : List Char) : Lexes '|' cs .pipe cs
  | leftParen (cs : List Char) : Lexes '(' cs .leftParen cs
  | rightParen (cs : List Char) : Lexes ')' cs .rightParen cs
  | quoted {cs value rest : List Char} : readQuotation cs = .closed value rest →
      Lexes '"' cs (.literal (.string (String.ofList value))) rest
  | raw {cs value rest : List Char} : Text.cutAt? [rawQuote] cs = some (value, rest) →
      Lexes rawQuote cs (.literal (.string (String.ofList value))) rest
  | dot {cs : List Char} : (readChain ('.' :: cs)).1 = [] → Lexes '.' cs .dot cs
  | field (cs : List Char) : (readChain ('.' :: cs)).1 ≠ [] →
      Lexes '.' cs (.field (readChain ('.' :: cs)).1) (readChain ('.' :: cs)).2
  | dollar (cs : List Char) :
      Lexes '$' cs
        (.variable (String.ofList (cs.takeWhile isNameChar))
          (readChain (cs.dropWhile isNameChar)).1)
        (readChain (cs.dropWhile isNameChar)).2
  | number {c : Char} (cs : List Char) {n : Number} :
      (c = '-' || c = '+' || Decimal.isDigit c) = true →
      (takeNumber (c :: cs)).1.value = .ok n →
      Lexes c cs (.literal (.number n)) (takeNumber (c :: cs)).2
  | word {c : Char} (cs : List Char) : isNameStart c →
      Lexes c cs (.word (String.ofList (c :: cs.takeWhile isNameChar))) (cs.dropWhile isNameChar)

theorem lexToken_eq_ok_iff {total : Nat} {kind : TokenKind} :
    lexToken total c cs = .ok (kind, rest) ↔ Lexes c cs kind rest := by
  constructor
  · intro h
    unfold lexToken at h
    dsimp only at h
    split at h
    · rename_i pipe
      cases h
      exact pipe ▸ .pipe cs
    split at h
    · rename_i leftParen
      cases h
      exact leftParen ▸ .leftParen cs
    split at h
    · rename_i rightParen
      cases h
      exact rightParen ▸ .rightParen cs
    split at h
    · rename_i quote
      split at h
      · rename_i closed
        cases h
        exact quote ▸ .quoted closed
      all_goals cases h
    split at h
    · rename_i quote
      split at h
      · rename_i closed
        cases h
        exact quote ▸ .raw closed
      · cases h
    split at h
    · rename_i dot
      subst dot
      split at h
      · rename_i none
        cases h
        exact .dot (by rw [none])
      · rename_i chain after some found
        cases h
        have field := Lexes.field cs (by rw [found]; exact some)
        rw [found] at field
        exact field
    split at h
    · rename_i dollar
      cases h
      exact dollar ▸ .dollar cs
    split at h
    · rename_i number
      split at h
      · rename_i value
        cases h
        exact .number cs number value
      · cases h
    split at h
    · rename_i start
      cases h
      exact .word cs start
    · cases h
  · intro h
    unfold lexToken
    dsimp only
    cases h with
    | pipe | leftParen | rightParen | dollar => rfl
    | quoted closed => simp [closed]
    | raw closed =>
      simp only [rawQuote] at closed ⊢
      simp [closed]
    | dot none =>
      obtain ⟨found, eq⟩ : ∃ found, readChain ('.' :: cs) = found := ⟨_, rfl⟩
      rw [eq] at none ⊢
      obtain ⟨_, _⟩ := found
      cases none
      simp [rawQuote]
    | field _ some =>
      obtain ⟨found, eq⟩ : ∃ found, readChain ('.' :: cs) = found := ⟨_, rfl⟩
      rw [eq] at some ⊢
      obtain ⟨_ | ⟨name, names⟩, _⟩ := found
      · exact absurd rfl some
      · simp [rawQuote]
    | number _ first value =>
      have other (d : Char) (h : (d = '-' || d = '+' || Decimal.isDigit d) = false) : c ≠ d := by
        rintro rfl
        rw [h] at first
        cases first
      rw [if_neg (other '|' (by decide)), if_neg (other '(' (by decide)),
        if_neg (other ')' (by decide)), if_neg (other '"' (by decide)),
        if_neg (other rawQuote (by decide)), if_neg (other '.' (by decide)),
        if_neg (other '$' (by decide)), if_pos first, value]
    | word _ start =>
      have other (d : Char) (h : isNameStart d = false) : c ≠ d := by
        rintro rfl
        rw [h] at start
        cases start
      have noNumber : ¬ (c = '-' || c = '+' || Decimal.isDigit c) = true := by
        simp [other '-' (by decide), other '+' (by decide), not_isDigit_of_isNameStart start]
      rw [if_neg (other '|' (by decide)), if_neg (other '(' (by decide)),
        if_neg (other ')' (by decide)), if_neg (other '"' (by decide)),
        if_neg (other rawQuote (by decide)), if_neg (other '.' (by decide)),
        if_neg (other '$' (by decide)), if_neg noNumber, if_pos start]

/-- No token begins with white space, with a brace or as a comment does. -/
theorem Lexes.first {kind : TokenKind} (h : Lexes c cs kind rest) :
    ¬ isSpace c ∧ c ≠ '\x7b' ∧ c ≠ '\x7d' ∧ c ≠ '/' := by
  have other (d : Char) (none : ∀ found, lexToken 0 d cs ≠ .ok found) : c ≠ d := by
    rintro rfl
    exact none _ (lexToken_eq_ok_iff.mpr h)
  refine ⟨fun space => ?_, other _ nofun, other _ nofun, other _ nofun⟩
  simp only [isSpace, Bool.or_eq_true, decide_eq_true_eq] at space
  obtain ((blank | tab) | ret) | line := space
  · exact other ' ' nofun blank
  · exact other '\t' nofun tab
  · exact other '\r' nofun ret
  · exact other '\n' nofun line

/-- A hyphen alone is no token: it begins a number, which goes on. -/
theorem Lexes.hyphen {kind : TokenKind} (h : Lexes '-' cs kind rest) :
    ∃ d x, cs = d :: x ∧ endsToken d = false := by
  have read : lexToken 0 '-' cs = .ok (kind, rest) := lexToken_eq_ok_iff.mpr h
  cases cs with
  | nil => cases read
  | cons d x =>
    refine ⟨d, x, rfl, Bool.eq_false_iff.mpr fun ends => ?_⟩
    have bare := takeNumber_append_cons ends ['-'] x
    rw [List.singleton_append] at bare
    simp only [lexToken] at read
    rw [bare] at read
    cases read

/-- A token leaves text of its own behind. -/
theorem Lexes.suffix {kind : TokenKind} (h : Lexes c cs kind rest) : rest <:+ cs := by
  cases h with
  | pipe | leftParen | rightParen | dot => exact List.suffix_rfl
  | quoted closed =>
    obtain ⟨taken, rfl, -⟩ := readQuotation_closed closed
    exact (List.suffix_cons '"' rest).trans (List.suffix_append taken _)
  | @raw _ value _ closed =>
    rw [Text.eq_append_of_cutAt? closed, ← List.append_assoc]
    exact List.suffix_append _ rest
  | field _ some =>
    obtain ⟨name, names, chain⟩ := List.exists_cons_of_ne_nil some
    exact suffix_of_length_lt (readChain_suffix _) (readChain_length_lt (Prod.ext chain rfl))
  | dollar => exact (readChain_suffix _).trans (List.dropWhile_suffix _)
  | number _ _ value => exact suffix_of_length_lt (takeNumber_suffix _) (takeNumber_length_lt value)
  | word => exact List.dropWhile_suffix _

/-- Where a character stands in a text with another behind it: in the text, or in the other. -/
theorem eq_append_or_suffix {taken left x : List Char} {q : Char}
    (h : cs ++ x = taken ++ q :: left) :
    (∃ rest, left = rest ++ x ∧ cs = taken ++ q :: rest) ∨ q :: left <:+ x := by
  obtain ⟨between, rfl, eq⟩ | ⟨between, rfl, eq⟩ := List.append_eq_append_iff.mp h
  · exact .inr ⟨between, eq.symm⟩
  · cases between with
    | nil => exact .inr ⟨[], eq⟩
    | cons d between =>
      obtain ⟨rfl, rfl⟩ := List.cons.inj eq
      exact .inl ⟨between, rfl, rfl⟩

section Ends

variable {s : Char} {x left : List Char} {kind : TokenKind} (ends : endsToken s = true)
include ends

/-- A token before a character that ends it stops there, unless it is a string that is closed
later. -/
theorem Lexes.stops (h : Lexes c (cs ++ s :: x) kind left) :
    (∃ rest, left = rest ++ s :: x ∧ Lexes c cs kind rest) ∨
      ∃ q, (q = '"' ∨ q = rawQuote) ∧ q :: left <:+ s :: x := by
  have name := isNameChar_of_endsToken ends
  have chain := readChain_append_cons ends ('.' :: cs) x
  rw [List.cons_append] at chain
  generalize whole : cs ++ s :: x = text at h
  cases h with
  | pipe => exact .inl ⟨cs, whole.symm, .pipe cs⟩
  | leftParen => exact .inl ⟨cs, whole.symm, .leftParen cs⟩
  | rightParen => exact .inl ⟨cs, whole.symm, .rightParen cs⟩
  | quoted closed =>
    obtain ⟨taken, rfl, any⟩ := readQuotation_closed closed
    obtain ⟨rest, rfl, rfl⟩ | later := eq_append_or_suffix whole
    · exact .inl ⟨rest, rfl, .quoted (any rest)⟩
    · exact .inr ⟨_, .inl rfl, later⟩
  | raw closed =>
    rw [Text.eq_append_of_cutAt? closed, List.singleton_append] at whole
    obtain ⟨rest, rfl, rfl⟩ | later := eq_append_or_suffix whole
    · exact .inl ⟨rest, rfl, .raw (Text.cutAt?_of_some closed rest)⟩
    · exact .inr ⟨_, .inr rfl, later⟩
  | dot none =>
    subst whole
    rw [chain] at none
    exact .inl ⟨cs, rfl, .dot none⟩
  | field _ some =>
    subst whole
    rw [chain] at some ⊢
    exact .inl ⟨_, rfl, .field cs some⟩
  | dollar =>
    subst whole
    rw [Text.takeWhile_append_cons name, Text.dropWhile_append_cons name,
      readChain_append_cons ends]
    exact .inl ⟨_, rfl, .dollar cs⟩
  | number _ first value =>
    subst whole
    rw [← List.cons_append, takeNumber_append_cons ends] at value ⊢
    exact .inl ⟨_, rfl, .number cs first value⟩
  | word _ start =>
    subst whole
    rw [Text.takeWhile_append_cons name, Text.dropWhile_append_cons name]
    exact .inl ⟨_, rfl, .word cs start⟩

/-- A token before a character that ends it is the same without that character and all behind. -/
theorem Lexes.before_iff :
    Lexes c (cs ++ s :: x) kind (rest ++ s :: x) ↔ Lexes c cs kind rest := by
  constructor
  · intro h
    obtain ⟨_, same, lexes⟩ | ⟨q, -, later⟩ := h.stops ends
    · cases List.append_cancel_right same
      exact lexes
    · have short := later.length_le
      simp only [List.length_cons, List.length_append] at short
      omega
  · intro h
    have name := isNameChar_of_endsToken ends
    have chain := readChain_append_cons ends ('.' :: cs) x
    rw [List.cons_append] at chain
    cases h with
    | pipe => exact .pipe _
    | leftParen => exact .leftParen _
    | rightParen => exact .rightParen _
    | quoted closed =>
      obtain ⟨taken, rfl, any⟩ := readQuotation_closed closed
      refine .quoted ?_
      rw [List.append_assoc, List.cons_append, any]
    | raw closed => exact .raw (Text.cutAt?_append_of_some closed _)
    | dot none => exact .dot (by rw [chain, none])
    | field _ some =>
      have whole := Lexes.field (cs ++ s :: x) (by rw [chain]; exact some)
      rwa [chain] at whole
    | dollar =>
      have whole := Lexes.dollar (cs ++ s :: x)
      rwa [Text.takeWhile_append_cons name, Text.dropWhile_append_cons name,
        readChain_append_cons ends] at whole
    | number _ first value =>
      have read := takeNumber_append_cons ends (c :: cs) x
      rw [List.cons_append] at read
      have whole := Lexes.number (cs ++ s :: x) first (by rw [read]; exact value)
      rwa [read] at whole
    | word _ start =>
      have whole := Lexes.word (cs ++ s :: x) start
      rwa [Text.takeWhile_append_cons name, Text.dropWhile_append_cons name] at whole

end Ends

end MetricPath.Template
