import MetricPath.Template.Error
import MetricPath.Text.Split
import MetricPath.Text.Utf8
import MetricPath.Value

/-!
# Tokens of actions

An action stands between double braces.  `lexAction` reads it from the text that follows its opening
and returns its tokens, the text after its closing and whether the closing asks to trim that text.

The reader always works on the text that is left, so it can neither skip nor cut a character; the
place of an error is that of the text left when it was found.  `lexToken_length` says that a token
takes at least one character, and `lexAction_length` that an action takes at least two.
-/

namespace MetricPath.Template

/-- What a token is. -/
inductive TokenKind where
  | dot
  | field (chain : List String)
  | variable (name : String) (chain : List String)
  | word (name : String)
  | literal (v : Value)
  | pipe
  | leftParen
  | rightParen
deriving Repr

/-- A token, whether white space stands before it, and its place. -/
structure Token where
  kind : TokenKind
  spaced : Bool
  offset : Nat
deriving Repr

/-! ## Characters -/

/-- White space between tokens. -/
def isSpace (c : Char) : Bool := c = ' ' || c = '\t' || c = '\r' || c = '\n'

/-- Characters that begin a name. -/
def isNameStart (c : Char) : Bool := c.isAlpha || c = '_'

/-- Characters of a name. -/
def isNameChar (c : Char) : Bool := c.isAlphanum || c = '_'

/-- The byte at which the text left begins, in a source of `total` bytes. -/
def offsetOf (total : Nat) (left : List Char) : Nat := total - Text.byteLength left

/-! ## Literals and chains -/

/-- What reading a quoted string comes to. -/
inductive Quotation where
  | closed (value rest : List Char)
  /-- The escape of this character means nothing; `left` begins with the backslash. -/
  | unknownEscape (c : Char) (left : List Char)
  | unterminated
deriving DecidableEq

/-- Put a character in front of what a quotation holds. -/
def Quotation.cons (c : Char) : Quotation → Quotation
  | .closed value rest => .closed (c :: value) rest
  | q => q

/-- The character that an escape stands for. -/
def unescapeChar? : Char → Option Char
  | 'n' => some '\n'
  | 't' => some '\t'
  | 'r' => some '\r'
  | '0' => some (Char.ofNat 0)
  | '\\' => some '\\'
  | '"' => some '"'
  | '\'' => some '\''
  | _ => none

/-- Read a quoted string from after its opening quote. -/
def readQuotation : List Char → Quotation
  | [] => .unterminated
  | c :: cs =>
    if c = '"' then .closed [] cs
    else if c = '\\' then
      match cs with
      | [] => .unterminated
      | e :: rest =>
        match unescapeChar? e with
        | some u => (readQuotation rest).cons u
        | none => .unknownEscape e (c :: cs)
    else if c = '\n' then .unterminated
    else (readQuotation cs).cons c

/-- A chain of fields: dots, each with a name after it. -/
def readChain : List Char → List String × List Char
  | '.' :: c :: cs =>
    if isNameStart c then
      let (names, rest) := readChain (cs.dropWhile isNameChar)
      (String.ofList (c :: cs.takeWhile isNameChar) :: names, rest)
    else ([], '.' :: c :: cs)
  | cs => ([], cs)
termination_by cs => cs.length
decreasing_by
  have := Text.length_dropWhile_le isNameChar cs
  simp only [List.length_cons]; omega

/-- The parts of a number. -/
structure NumberText where
  sign : List Char
  whole : List Char
  /-- The point and the digits after it. -/
  part : List Char
  /-- The mark of the exponent and what follows it. -/
  exponent : List Char
deriving DecidableEq

/-- A sign at the beginning of a text. -/
def takeSign : List Char → List Char × List Char
  | '-' :: cs => (['-'], cs)
  | '+' :: cs => (['+'], cs)
  | cs => ([], cs)

/-- A point with at least one digit after it. -/
def takePart : List Char → List Char × List Char
  | '.' :: c :: cs =>
    if Decimal.isDigit c then
      ('.' :: (c :: cs).takeWhile Decimal.isDigit, (c :: cs).dropWhile Decimal.isDigit)
    else ([], '.' :: c :: cs)
  | cs => ([], cs)

/-- An exponent with at least one digit. -/
def takeExponent : List Char → List Char × List Char
  | [] => ([], [])
  | c :: cs =>
    let (sign, rest) := takeSign cs
    let digits := rest.takeWhile Decimal.isDigit
    if (c = 'e' || c = 'E') && !digits.isEmpty then
      (c :: (sign ++ digits), rest.dropWhile Decimal.isDigit)
    else ([], c :: cs)

/-- A number at the beginning of a text, and the text after it. -/
def takeNumber (cs : List Char) : NumberText × List Char :=
  let (sign, cs) := takeSign cs
  let whole := cs.takeWhile Decimal.isDigit
  let (part, cs) := takePart (cs.dropWhile Decimal.isDigit)
  let (exponent, cs) := takeExponent cs
  (⟨sign, whole, part, exponent⟩, cs)

/-- The least and the greatest whole number that a literal can denote. -/
def leastLiteral : Int := -9223372036854775808

def greatestLiteral : Int := 9223372036854775807

/-- The number that a literal denotes.  One without point and exponent is a whole number; neither
kind may leave its range. -/
def NumberText.value (n : NumberText) : Except ParseFault Number :=
  let sign := if n.sign = ['+'] then [] else n.sign
  let text := sign ++ n.whole ++ n.part ++ n.exponent
  let bad : Except ParseFault Number := .error (.badNumberText (String.ofList text))
  if n.whole.isEmpty && n.part.isEmpty && n.exponent.isEmpty then .error .badNumber
  else if n.part.isEmpty && n.exponent.isEmpty then
    match Decimal.intOf? text with
    | some i => if leastLiteral ≤ i && i ≤ greatestLiteral then .ok (.int i) else bad
    | none => bad
  else
    match Decimal.read? text with
    | some x => if x.isFinite then .ok (.float x) else bad
    | none => bad

/-! ## Tokens -/

/-- The quote of strings without escapes. -/
def rawQuote : Char := Char.ofNat 0x60

/-- Read the token that begins with `c`; the text after it is `cs`. -/
def lexToken (total : Nat) (c : Char) (cs : List Char) :
    Except ParseError (TokenKind × List Char) :=
  let fail (left : List Char) (fault : ParseFault) : Except ParseError (TokenKind × List Char) :=
    .error ⟨offsetOf total left, fault⟩
  if c = '|' then .ok (.pipe, cs)
  else if c = '(' then .ok (.leftParen, cs)
  else if c = ')' then .ok (.rightParen, cs)
  else if c = '"' then
    match readQuotation cs with
    | .closed value rest => .ok (.literal (.string (String.ofList value)), rest)
    | .unknownEscape e left => fail left (.unknownEscape e)
    | .unterminated => fail (c :: cs) .unterminatedString
  else if c = rawQuote then
    match Text.cutAt? [rawQuote] cs with
    | some (value, rest) => .ok (.literal (.string (String.ofList value)), rest)
    | none => fail (c :: cs) .unterminatedRawString
  else if c = '.' then
    match readChain (c :: cs) with
    | ([], _) => .ok (.dot, cs)
    | (chain, rest) => .ok (.field chain, rest)
  else if c = '$' then
    let name := cs.takeWhile isNameChar
    let (chain, rest) := readChain (cs.dropWhile isNameChar)
    .ok (.variable (String.ofList name) chain, rest)
  else if c = '-' || c = '+' || Decimal.isDigit c then
    let (text, rest) := takeNumber (c :: cs)
    match text.value with
    | .ok n => .ok (.literal (.number n), rest)
    | .error fault => fail (c :: cs) fault
  else if isNameStart c then
    .ok (.word (String.ofList (c :: cs.takeWhile isNameChar)), cs.dropWhile isNameChar)
  else fail (c :: cs) (.unexpectedChar c)

/-! ## The text left gets shorter -/

theorem Quotation.cons_eq_closed {c : Char} {q : Quotation} {value rest : List Char}
    (h : q.cons c = .closed value rest) : ∃ v, q = .closed v rest := by
  cases q <;> simp_all [Quotation.cons]

theorem readQuotation_length : ∀ (cs : List Char) {value rest : List Char},
    readQuotation cs = .closed value rest → rest.length < cs.length
  | [], _, _, h => by simp [readQuotation] at h
  | c :: cs, value, rest, h => by
    unfold readQuotation at h
    split at h
    · simp only [Quotation.closed.injEq] at h
      simp [← h.2]
    · split at h
      · cases cs with
        | nil => simp at h
        | cons e more =>
          simp only at h
          split at h
          · obtain ⟨v, h⟩ := Quotation.cons_eq_closed h
            have := readQuotation_length more h
            simp only [List.length_cons]; omega
          · simp at h
      · split at h
        · simp at h
        · obtain ⟨v, h⟩ := Quotation.cons_eq_closed h
          have := readQuotation_length cs h
          simp only [List.length_cons]; omega

theorem readChain_length (cs : List Char) : (readChain cs).2.length ≤ cs.length := by
  induction cs using readChain.induct with
  | case1 c cs start ih =>
    have := Text.length_dropWhile_le isNameChar cs
    rw [readChain, if_pos start]
    simp only [List.length_cons]; omega
  | case2 c cs start => simp [readChain, start]
  | case3 cs other => simp [readChain]

/-- A chain with at least one name takes at least its dot. -/
theorem readChain_length_lt {cs rest : List Char} {name : String} {names : List String}
    (h : readChain cs = (name :: names, rest)) : rest.length < cs.length := by
  unfold readChain at h
  split at h
  · rename_i c cs
    split at h
    · have := readChain_length (cs.dropWhile isNameChar)
      have := Text.length_dropWhile_le isNameChar cs
      simp only [Prod.mk.injEq] at h
      rw [← h.2]
      simp only [List.length_cons]; omega
    · simp at h
  · simp at h

private theorem takeSign_length (cs : List Char) :
    (takeSign cs).1.length + (takeSign cs).2.length = cs.length := by
  unfold takeSign
  split <;> simp <;> omega

private theorem takePart_length (cs : List Char) :
    (takePart cs).1.length + (takePart cs).2.length = cs.length := by
  unfold takePart
  split
  · split
    · rename_i c cs _
      have h := congrArg List.length
        (List.takeWhile_append_dropWhile (p := Decimal.isDigit) (l := c :: cs))
      simp only [List.length_append, List.length_cons] at h ⊢
      omega
    · simp
  · simp

private theorem takeExponent_length (cs : List Char) :
    (takeExponent cs).1.length + (takeExponent cs).2.length = cs.length := by
  unfold takeExponent
  split
  · simp
  · rename_i c cs
    have hs := takeSign_length cs
    simp only
    split
    · have h := congrArg List.length
        (List.takeWhile_append_dropWhile (p := Decimal.isDigit) (l := (takeSign cs).2))
      simp only [List.length_append, List.length_cons] at h ⊢
      omega
    · simp

/-- The text of a number and the text after it make up the whole. -/
theorem takeNumber_length (cs : List Char) :
    (takeNumber cs).1.sign.length + (takeNumber cs).1.whole.length + (takeNumber cs).1.part.length +
      (takeNumber cs).1.exponent.length + (takeNumber cs).2.length = cs.length := by
  unfold takeNumber
  have h1 := takeSign_length cs
  have h2 := congrArg List.length
    (List.takeWhile_append_dropWhile (p := Decimal.isDigit) (l := (takeSign cs).2))
  have h3 := takePart_length ((takeSign cs).2.dropWhile Decimal.isDigit)
  have h4 := takeExponent_length (takePart ((takeSign cs).2.dropWhile Decimal.isDigit)).2
  simp only [List.length_append] at *
  omega

/-- A number that has a value has at least one character. -/
theorem takeNumber_length_lt {cs : List Char} {n : Number}
    (h : (takeNumber cs).1.value = .ok n) : (takeNumber cs).2.length < cs.length := by
  have len := takeNumber_length cs
  unfold NumberText.value at h
  simp only at h
  split at h
  · simp at h
  · rename_i some
    simp only [Bool.and_eq_true, List.isEmpty_iff, not_and] at some
    by_cases hw : (takeNumber cs).1.whole = []
    · by_cases hp : (takeNumber cs).1.part = []
      · have := List.length_pos_iff.mpr (some ⟨hw, hp⟩)
        omega
      · have := List.length_pos_iff.mpr hp
        omega
    · have := List.length_pos_iff.mpr hw
      omega

/-- A token takes at least its first character. -/
theorem lexToken_length {total : Nat} {c : Char} {cs rest : List Char} {kind : TokenKind}
    (h : lexToken total c cs = .ok (kind, rest)) : rest.length ≤ cs.length := by
  unfold lexToken at h
  simp only at h
  repeat' split at h
  all_goals first
    | (simp only [Except.ok.injEq, Prod.mk.injEq] at h; obtain ⟨-, rfl⟩ := h)
    | simp at h
  all_goals try exact Nat.le_refl _
  · rename_i found
    exact Nat.le_of_lt (readQuotation_length cs found)
  · rename_i found
    have := Text.cutAt?_length found
    omega
  · rename_i chain rest _ found
    cases chain with
    | nil => simp_all
    | cons name names =>
      have := readChain_length_lt found
      simp only [List.length_cons] at this; omega
  · exact Nat.le_trans (readChain_length _) (Text.length_dropWhile_le _ _)
  · rename_i found
    have := takeNumber_length_lt found
    simp only [List.length_cons] at this; omega
  · exact Text.length_dropWhile_le _ _

end MetricPath.Template
