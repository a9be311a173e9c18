import MetricPath.Proofs.Positions
import MetricPath.Proofs.TokenText

/-!
# Tokens by positions

The reader of tokens works on the text that is left.  The same can be done with a position in one
source, by looking at bytes and cutting the source where a token ends; then it has to be shown that
every cut is possible.

A reader by positions is a `Run`.  A cut of it can fail, and it may call itself again without having
got further, which would go on for ever; in both cases the run is `none` and comes to no result.
`Agrees` compares it with the reader of the
text left: the run comes to a result, which is the same one, and a place at which it reports an
error is a position of the source.
-/

namespace MetricPath.Template

open Text

/-! ## Classes of bytes -/

theorem isSpace_inAscii : InAscii isSpace := by
  intro c h
  simp only [isSpace, Bool.or_eq_true, decide_eq_true_eq] at h
  rcases h with ((rfl | rfl) | rfl) | rfl <;> decide

theorem isDigit_inAscii : InAscii Decimal.isDigit := by
  intro c h
  simp only [Decimal.isDigit, Bool.and_eq_true, decide_eq_true_eq, Char.le_def,
    UInt32.le_iff_toNat_le] at h
  exact Nat.lt_of_le_of_lt h.2 (by decide)

theorem isNameChar_inAscii : InAscii isNameChar := by
  intro c h
  have below (d : Char) (ascii : d.toNat < 0x80) (le : c.val ≤ d.val) : c.toNat < 0x80 :=
    Nat.lt_of_le_of_lt (UInt32.le_iff_toNat_le.mp le) ascii
  rcases Bool.or_eq_true_iff.mp h with alphanum | underscore
  · rcases Bool.or_eq_true_iff.mp alphanum with alpha | digit
    · rcases Bool.or_eq_true_iff.mp alpha with upper | lower
      · exact below 'Z' (by decide) (of_decide_eq_true upper).2
      · exact below 'z' (by decide) (of_decide_eq_true (Bool.and_eq_true_iff.mp lower).2)
    · exact below '9' (by decide) (of_decide_eq_true (Bool.and_eq_true_iff.mp digit).2)
  · cases of_decide_eq_true underscore
    decide

theorem isNameChar_of_isNameStart {c : Char} (h : isNameStart c) : isNameChar c := by
  simp only [isNameStart, isNameChar, Char.isAlphanum, Bool.or_eq_true] at h ⊢
  exact h.imp_left Or.inl

theorem isNameStart_inAscii : InAscii isNameStart := fun c h =>
  isNameChar_inAscii c (isNameChar_of_isNameStart h)

/-- The signs of numbers and exponents. -/
def isSign (c : Char) : Bool := c = '-' || c = '+'

/-- The marks of exponents. -/
def isExponentMark (c : Char) : Bool := c = 'e' || c = 'E'

theorem isSign_inAscii : InAscii isSign := by
  intro c h
  simp only [isSign, Bool.or_eq_true, decide_eq_true_eq] at h
  rcases h with rfl | rfl <;> decide

theorem isExponentMark_inAscii : InAscii isExponentMark := by
  intro c h
  simp only [isExponentMark, Bool.or_eq_true, decide_eq_true_eq] at h
  rcases h with rfl | rfl <;> decide

/-! ## Runs -/

/-- What a reader by positions comes to: nothing if a cut fails or if it does not get further. -/
abbrev Run (α : Type) := ExceptT ParseError Option α

variable {α β γ δ : Type}

/-- A run that comes to a result. -/
def Run.done (r : Except ParseError α) : Run α := ExceptT.mk (some r)

@[simp] theorem Run.pure_eq (a : α) : (pure a : Run α) = Run.done (.ok a) := rfl

@[simp] theorem Run.throw_eq (e : ParseError) : (throw e : Run α) = Run.done (.error e) := rfl

@[simp] theorem Run.lift_bind (a : α) (f : α → Run β) : (liftM (some a) : Run α) >>= f = f a := rfl

@[simp] theorem Run.ok_bind (a : α) (f : α → Run β) : Run.done (.ok a) >>= f = f a := rfl

@[simp] theorem Run.error_bind (e : ParseError) (f : α → Run β) :
    Run.done (.error e) >>= f = Run.done (.error e) := rfl

/-- A change of what has been read last is a change of what is read. -/
theorem map_bind (x : Except ParseError α) (f : α → Except ParseError β) (g : β → γ) :
    (x >>= f).map g = x >>= fun a => (f a).map g := by
  cases x <;> rfl

theorem map_map (x : Except ParseError α) (f : α → β) (g : β → γ) :
    (x.map f).map g = x.map fun a => g (f a) := by
  cases x <;> rfl

/-- A place at which a source can be cut. -/
def IsPosition (source : List Char) (pos : Nat) : Prop := (cutFrom? source pos).isSome

theorem isPosition_of_cutFrom? {source left : List Char} {pos : Nat}
    (h : cutFrom? source pos = some left) : IsPosition source pos :=
  Option.isSome_of_eq_some h

/-- **Agreement of a run with what is read.** The run comes to the same error, which is at a
position of the source, or to a result that corresponds to the one that is read. -/
def Agrees (source : List Char) (r : α → β → Prop) (run : Run α) : Except ParseError β → Prop
  | .ok b => ∃ a, run = .done (.ok a) ∧ r a b
  | .error e => run = .done (.error e) ∧ IsPosition source e.offset

section Agreement

variable {source : List Char} {r : α → β → Prop} {run run' : Run α}
  {read read' : Except ParseError β}

theorem Agrees.ok {a : α} {b : β} (h : r a b) :
    Agrees source r (Run.done (.ok a)) (Except.ok b) :=
  ⟨a, rfl, h⟩

theorem Agrees.error {pos : Nat} (h : IsPosition source pos) (fault : ParseFault) :
    Agrees source r (Run.done (.error ⟨pos, fault⟩)) (Except.error ⟨pos, fault⟩) :=
  ⟨rfl, h⟩

/-- Both go on in the same way with results that correspond. -/
theorem Agrees.bind {s : γ → δ → Prop} {f : α → Run γ} {g : β → Except ParseError δ}
    (h : Agrees source r run read) (next : ∀ a b, r a b → Agrees source s (f a) (g b)) :
    Agrees source s (run >>= f) (read >>= g) := by
  cases read with
  | ok b =>
    obtain ⟨a, rfl, corresponds⟩ := h
    exact next a b corresponds
  | error e =>
    obtain ⟨rfl, placed⟩ := h
    exact ⟨rfl, placed⟩

/-- The results are changed in the same way. -/
theorem Agrees.map {s : γ → δ → Prop} {f : α → γ} {g : β → δ} (h : Agrees source r run read)
    (next : ∀ a b, r a b → s (f a) (g b)) :
    Agrees source s (run >>= fun a => pure (f a)) (read.map g) := by
  cases read with
  | ok b =>
    obtain ⟨a, rfl, corresponds⟩ := h
    exact .ok (next a b corresponds)
  | error e =>
    obtain ⟨rfl, placed⟩ := h
    exact ⟨rfl, placed⟩

/-- Both decide in the same way. -/
theorem Agrees.ite {P : Prop} [Decidable P] (yes : P → Agrees source r run read)
    (no : ¬ P → Agrees source r run' read') :
    Agrees source r (if P then run else run') (if P then read else read') := by
  split
  · exact yes ‹_›
  · exact no ‹_›

end Agreement

/-- A result by position corresponds to one with the text left if that stands at the position. -/
def Left (source : List Char) (a : α × Nat) (b : α × List Char) : Prop :=
  a.1 = b.1 ∧ cutFrom? source a.2 = some b.2

namespace ByPosition

variable (source : List Char)

/-! ## Chains of fields -/

/-- A chain of fields at a position, and the position after it. -/
def chainAt (pos : Nat) : Run (List String × Nat) :=
  if byteAt? source pos = some '.' ∧ (byteAt? source (pos + 1)).any isNameStart then do
    let name ← cutBetween? source (pos + 1) (skipAt isNameChar source (pos + 1))
    let next ← further? (byteLength source) pos (skipAt isNameChar source (pos + 1))
    let (names, stop) ← chainAt next
    return (String.ofList name :: names, stop)
  else return ([], pos)
termination_by byteLength source - pos
decreasing_by
  have := next.2
  omega

variable {source} {pos : Nat} {left : List Char}

theorem chainAt_eq (h : cutFrom? source pos = some left) :
    ∃ stop, chainAt source pos = .done (.ok ((readChain left).1, stop)) ∧
      cutFrom? source stop = some (readChain left).2 := by
  have begins := byteAt?_pair_iff (c := '.') (by decide) isNameStart_inAscii h
  induction left using readChain.induct generalizing pos with
  | case1 c cs start names rest read ih =>
    have after := cutFrom?_succ (by decide) h
    have inName : isNameChar c := isNameChar_of_isNameStart start
    have behind := cutFrom?_skipAt isNameChar_inAscii after
    rw [List.dropWhile_cons_of_pos inName] at behind
    have name := cutBetween?_skipAt isNameChar_inAscii after
    rw [List.takeWhile_cons_of_pos inName] at name
    obtain ⟨stop, more, leaves⟩ :=
      ih behind (byteAt?_pair_iff (by decide) isNameStart_inAscii behind)
    obtain ⟨within, further⟩ := further?_of_cutFrom? h behind <| by
      have := length_dropWhile_le isNameChar cs
      simp only [List.length_cons]
      omega
    refine ⟨stop, ?_, ?_⟩
    · rw [chainAt, if_pos (begins.mpr ⟨c, cs, rfl, start⟩), readChain, if_pos start]
      simp only [name, further, more, Run.lift_bind, Run.ok_bind, Run.pure_eq]
    · rw [readChain, if_pos start]
      exact leaves
  | case2 c cs start =>
    refine ⟨pos, ?_, ?_⟩
    · rw [chainAt, if_neg, readChain, if_neg start, Run.pure_eq]
      rw [begins]
      rintro ⟨d, ds, eq, first⟩
      cases eq
      exact start first
    · rw [readChain, if_neg start]
      exact h
  | case3 cs other =>
    refine ⟨pos, ?_, ?_⟩
    · rw [chainAt, if_neg, readChain.eq_2 cs other, Run.pure_eq]
      rw [begins]
      rintro ⟨d, ds, eq, -⟩
      exact other d ds eq
    · rw [readChain.eq_2 cs other]
      exact h

/-! ## Quoted strings -/

/-- A quoted string whose opening quote stands at `start`: what it holds and the position after it.
The characters still to read begin `idx` bytes behind the quote. -/
def quotationFrom (start idx : Nat) : List Char → Run (List Char × Nat)
  | [] => throw ⟨start, .unterminatedString⟩
  | c :: cs =>
    if c = '"' then return ([], start + 1 + idx + 1)
    else if c = '\\' then
      match cs with
      | [] => throw ⟨start, .unterminatedString⟩
      | e :: rest =>
        match unescapeChar? e with
        | some u => do
          let (value, stop) ← quotationFrom start (idx + c.utf8Size + e.utf8Size) rest
          return (u :: value, stop)
        | none => throw ⟨start + 1 + idx, .unknownEscape e⟩
    else if c = '\n' then throw ⟨start, .unterminatedString⟩
    else do
      let (value, stop) ← quotationFrom start (idx + c.utf8Size) cs
      return (c :: value, stop)

/-- The quoted string at a position. -/
def quotationAt (source : List Char) (pos : Nat) : Run (List Char × Nat) := do
  let left ← cutFrom? source (pos + 1)
  quotationFrom pos 0 left

/-- What a quotation comes to that begins at a position. -/
def ofQuotation (total start : Nat) : Quotation → Except ParseError (List Char × List Char)
  | .closed value rest => .ok (value, rest)
  | .unknownEscape e left => .error ⟨offsetOf total left, .unknownEscape e⟩
  | .unterminated => .error ⟨start, .unterminatedString⟩

theorem ofQuotation_cons (total start : Nat) (c : Char) (q : Quotation) :
    ofQuotation total start (q.cons c) = do
      let (value, rest) ← ofQuotation total start q
      return (c :: value, rest) := by
  cases q <;> rfl

theorem quotationFrom_agrees {start idx : Nat} (opened : IsPosition source start)
    (h : cutFrom? source (start + 1 + idx) = some left) :
    Agrees source (Left source) (quotationFrom start idx left)
      (ofQuotation (byteLength source) start (readQuotation left)) := by
  induction left using readQuotation.induct generalizing idx with
  | case1 => exact .error opened _
  | case2 cs =>
    rw [quotationFrom.eq_def, readQuotation.eq_def]
    simp only [if_true]
    exact .ok ⟨rfl, cutFrom?_succ (by decide) h⟩
  | case3 =>
    rw [quotationFrom.eq_def, readQuotation.eq_def]
    exact .error opened _
  | case4 e cs u known quote ih =>
    rw [quotationFrom.eq_def, readQuotation.eq_def]
    simp only [if_neg quote, if_true, known, ofQuotation_cons]
    have passed : cutFrom? source (start + 1 + idx + byteLength ['\\', e]) = some cs :=
      cutFrom?_add h
    refine (ih ?_).bind fun a b corresponds => .ok ⟨congrArg (u :: ·) corresponds.1, corresponds.2⟩
    simpa [Nat.add_assoc] using passed
  | case5 e cs unknown quote =>
    rw [quotationFrom.eq_def, readQuotation.eq_def]
    simp only [if_neg quote, if_true, unknown, ofQuotation]
    rw [offsetOf, byteLength_sub_of_cutFrom? h]
    exact .error (isPosition_of_cutFrom? h) _
  | case6 cs quote escape =>
    rw [quotationFrom.eq_def, readQuotation.eq_def]
    simp only [if_neg quote, if_neg escape, if_true]
    exact .error opened _
  | case7 c cs quote escape line ih =>
    rw [quotationFrom.eq_def, readQuotation.eq_def]
    simp only [if_neg quote, if_neg escape, if_neg line, ofQuotation_cons]
    have passed : cutFrom? source (start + 1 + idx + byteLength [c]) = some cs := cutFrom?_add h
    refine (ih ?_).bind fun a b corresponds => .ok ⟨congrArg (c :: ·) corresponds.1, corresponds.2⟩
    simpa [Nat.add_assoc] using passed

theorem quotationAt_agrees {cs : List Char} (h : cutFrom? source pos = some ('"' :: cs)) :
    Agrees source (Left source) (quotationAt source pos)
      (ofQuotation (byteLength source) pos (readQuotation cs)) := by
  have after := cutFrom?_succ (by decide) h
  rw [quotationAt, after, Run.lift_bind]
  exact quotationFrom_agrees (isPosition_of_cutFrom? h) after

/-! ## Numbers -/

section Numbers

variable (source) (pos)

/-- The position behind a sign, if one stands at the position. -/
def signAt : Nat := if (byteAt? source pos).any isSign then pos + 1 else pos

/-- Whether a point with a digit after it stands at the position, and the position behind it. -/
def partAt : Bool × Nat :=
  if byteAt? source pos = some '.' ∧ (byteAt? source (pos + 1)).any Decimal.isDigit then
    (true, skipAt Decimal.isDigit source (pos + 1))
  else (false, pos)

/-- Whether an exponent with a digit stands at the position, and the position behind it. -/
def exponentAt : Bool × Nat :=
  let digits := signAt source (pos + 1)
  if (byteAt? source pos).any isExponentMark ∧ (byteAt? source digits).any Decimal.isDigit then
    (true, skipAt Decimal.isDigit source digits)
  else (false, pos)

/-- The number that a text denotes, with a point or an exponent or as a whole number. -/
def numberOf? (isFloat : Bool) (text : List Char) : Option Number :=
  if isFloat then
    (Decimal.read? text).bind fun x => if x.isFinite then some (.float x) else none
  else
    (Decimal.intOf? text).bind fun i =>
      if leastLiteral ≤ i && i ≤ greatestLiteral then some (.int i) else none

/-- The number at a position, and the position after it. -/
def numberAt : Run (Number × Nat) :=
  let digits := signAt source pos
  let part := partAt source (skipAt Decimal.isDigit source digits)
  let exponent := exponentAt source part.2
  if exponent.2 = digits then throw ⟨pos, .badNumber⟩
  else do
    let text ← cutBetween? source pos exponent.2
    let text := text.dropWhile (· = '+')
    match numberOf? (part.1 || exponent.1) text with
    | some n => return (n, exponent.2)
    | none => throw ⟨pos, .badNumberText (String.ofList text)⟩

end Numbers

theorem cutFrom?_signAt (h : cutFrom? source pos = some left) :
    cutFrom? source (signAt source pos) = some (takeSign left).2 := by
  rw [signAt, byteAt?_any isSign_inAscii h]
  cases left with
  | nil => exact h
  | cons c cs =>
    have sign : (c :: cs).head?.any isSign ↔ c = '-' ∨ c = '+' := by simp [isSign]
    rw [takeSign_cons]
    simp only [sign]
    split_ifs with signed
    · exact cutFrom?_succ (isSign_inAscii c (by simpa [isSign] using signed)) h
    · exact h

theorem partAt_eq (h : cutFrom? source pos = some left) :
    ∃ stop, partAt source pos = (!(takePart left).1.isEmpty, stop) ∧
      cutFrom? source stop = some (takePart left).2 := by
  have begins := byteAt?_pair_iff (c := '.') (by decide) isDigit_inAscii h
  unfold takePart
  split
  · rename_i c cs
    by_cases digit : Decimal.isDigit c
    · rw [partAt, if_pos (begins.mpr ⟨c, cs, rfl, digit⟩), if_pos digit]
      exact ⟨_, rfl, cutFrom?_skipAt isDigit_inAscii (cutFrom?_succ (by decide) h)⟩
    · rw [partAt, if_neg, if_neg digit]
      · exact ⟨_, rfl, h⟩
      rw [begins]
      rintro ⟨d, ds, eq, first⟩
      cases eq
      exact digit first
  · rename_i other
    refine ⟨pos, if_neg ?_, h⟩
    rw [begins]
    rintro ⟨d, ds, eq, -⟩
    exact other d ds eq

theorem exponentAt_eq (h : cutFrom? source pos = some left) :
    ∃ stop, exponentAt source pos = (!(takeExponent left).1.isEmpty, stop) ∧
      cutFrom? source stop = some (takeExponent left).2 := by
  cases left with
  | nil =>
    refine ⟨pos, ?_, h⟩
    rw [exponentAt, byteAt?_nil h]
    exact if_neg fun both => absurd both.1 Bool.false_ne_true
  | cons c cs =>
    rw [exponentAt, byteAt?_any isExponentMark_inAscii h, takeExponent]
    by_cases mark : isExponentMark c
    · have behind := cutFrom?_signAt (cutFrom?_succ (isExponentMark_inAscii c mark) h)
      have some : ((takeSign cs).2.head?.any Decimal.isDigit)
          = !((takeSign cs).2.takeWhile Decimal.isDigit).isEmpty := by
        cases (takeSign cs).2 with
        | nil => rfl
        | cons d ds => by_cases digit : Decimal.isDigit d <;> simp [digit]
      rw [byteAt?_any isDigit_inAscii behind, some]
      have mark' : (decide (c = 'e') || decide (c = 'E')) = true := mark
      by_cases digits : (!((takeSign cs).2.takeWhile Decimal.isDigit).isEmpty) = true
      · rw [if_pos ⟨mark, digits⟩]
        simp only [mark', digits, Bool.and_self, if_true]
        exact ⟨_, rfl, cutFrom?_skipAt isDigit_inAscii behind⟩
      · rw [if_neg fun both => digits both.2]
        simp only [digits, Bool.and_false, Bool.false_eq_true, if_false]
        exact ⟨_, rfl, h⟩
    · have mark' : (decide (c = 'e') || decide (c = 'E')) = false := Bool.eq_false_iff.mpr mark
      rw [if_neg fun both => mark both.1]
      simp only [mark', Bool.false_and, Bool.false_eq_true, if_false]
      exact ⟨_, rfl, h⟩

/-- What the number at the beginning of a text comes to. -/
def ofNumber (start : Nat) (cs : List Char) : Except ParseError (Number × List Char) :=
  match (takeNumber cs).1.value with
  | .ok n => .ok (n, (takeNumber cs).2)
  | .error fault => .error ⟨start, fault⟩

/-- The text of a number behind its sign. -/
def digitsOf (n : NumberText) : List Char := n.whole ++ n.part ++ n.exponent

theorem append_takeSign (cs : List Char) : (takeSign cs).1 ++ (takeSign cs).2 = cs := by
  unfold takeSign
  split <;> rfl

/-- What a number takes behind its sign, and the text behind it. -/
theorem digitsOf_append_rest (cs : List Char) :
    digitsOf (takeNumber cs).1 ++ (takeNumber cs).2 = (takeSign cs).2 := by
  have part (cs : List Char) : (takePart cs).1 ++ (takePart cs).2 = cs := by
    unfold takePart
    split
    · split
      · rw [List.cons_append, List.takeWhile_append_dropWhile]
      · rfl
    · rfl
  have exponent (cs : List Char) : (takeExponent cs).1 ++ (takeExponent cs).2 = cs := by
    unfold takeExponent
    split
    · rfl
    · dsimp only
      split
      · rw [List.cons_append, List.append_assoc, List.takeWhile_append_dropWhile, append_takeSign]
      · rfl
  simp only [takeNumber, digitsOf, List.append_assoc, exponent, part,
    List.takeWhile_append_dropWhile]

/-- Behind the sign of a number there is no plus. -/
theorem head?_digitsOf_ne (cs : List Char) : (digitsOf (takeNumber cs).1).head? ≠ some '+' := by
  have whole (cs : List Char) : (cs.takeWhile Decimal.isDigit).head? ≠ some '+' := by
    intro head
    exact absurd (List.mem_takeWhile_imp (List.mem_of_mem_head? head)) (by decide)
  have part (cs : List Char) : (takePart cs).1.head? ≠ some '+' := by
    unfold takePart
    split
    · split <;> simp
    · simp
  have exponent (cs : List Char) : (takeExponent cs).1.head? ≠ some '+' := by
    unfold takeExponent
    split
    · simp
    · dsimp only
      split
      · rename_i marked
        intro plus
        cases plus
        simp at marked
      · simp
  intro plus
  rw [digitsOf, List.head?_append, List.head?_append, Option.or_eq_some_iff,
    Option.or_eq_some_iff] at plus
  rcases plus with (plus | ⟨-, plus⟩) | ⟨-, plus⟩
  · exact whole _ plus
  · exact part _ plus
  · exact exponent _ plus

/-- A plus is not part of the text of a number, and nothing else is dropped from it. -/
theorem dropWhile_takeNumber (cs : List Char) :
    let n := (takeNumber cs).1
    (n.sign ++ digitsOf n).dropWhile (· = '+')
      = (if n.sign = ['+'] then [] else n.sign) ++ n.whole ++ n.part ++ n.exponent := by
  have digits : (digitsOf (takeNumber cs).1).dropWhile (· = '+') = digitsOf (takeNumber cs).1 := by
    have first := head?_digitsOf_ne cs
    cases digits : digitsOf (takeNumber cs).1 with
    | nil => rfl
    | cons d ds =>
      rw [digits] at first
      exact List.dropWhile_cons_of_neg (by simpa using first)
  have sign : (takeNumber cs).1.sign = [] ∨ (takeNumber cs).1.sign = ['-'] ∨
      (takeNumber cs).1.sign = ['+'] := by
    show (takeSign cs).1 = [] ∨ (takeSign cs).1 = ['-'] ∨ (takeSign cs).1 = ['+']
    unfold takeSign
    split <;> simp
  dsimp only
  generalize takeNumber cs = n at digits sign
  have assoc (front : List Char) :
      front ++ n.1.whole ++ n.1.part ++ n.1.exponent = front ++ digitsOf n.1 := by
    simp only [digitsOf, List.append_assoc]
  rw [assoc]
  rcases sign with sign | sign | sign <;> rw [sign]
  · exact digits
  · rfl
  · exact digits

theorem value_eq (cs : List Char) : (takeNumber cs).1.value =
    let n := (takeNumber cs).1
    let text := (n.sign ++ digitsOf n).dropWhile (· = '+')
    if digitsOf n = [] then .error .badNumber
    else
      match numberOf? (!n.part.isEmpty || !n.exponent.isEmpty) text with
      | some x => .ok x
      | none => .error (.badNumberText (String.ofList text)) := by
  dsimp only
  rw [dropWhile_takeNumber, NumberText.value]
  generalize (takeNumber cs).1 = n
  have empty :
      (n.whole.isEmpty && n.part.isEmpty && n.exponent.isEmpty) = true ↔ digitsOf n = [] := by
    simp [digitsOf, and_assoc]
  generalize (if n.sign = ['+'] then [] else n.sign) ++ n.whole ++ n.part ++ n.exponent = text
  by_cases none : digitsOf n = []
  · rw [if_pos none, if_pos (empty.mpr none)]
  rw [if_neg none, if_neg (mt empty.mp none)]
  by_cases whole : (n.part.isEmpty && n.exponent.isEmpty) = true
  · have int : (!n.part.isEmpty || !n.exponent.isEmpty) = false := by
      rw [← Bool.not_and, whole, Bool.not_true]
    rw [if_pos whole, int]
    cases read : Decimal.intOf? text with
    | none => simp [numberOf?, read]
    | some i =>
      simp only [numberOf?, read, Option.bind_some, Bool.false_eq_true, if_false]
      by_cases range : (leastLiteral ≤ i && i ≤ greatestLiteral) = true
      · rw [if_pos range, if_pos range]
      · rw [if_neg range, if_neg range]
  · have float : (!n.part.isEmpty || !n.exponent.isEmpty) = true := by
      rwa [← Bool.not_and, Bool.not_eq_true', ← Bool.not_eq_true]
    rw [if_neg whole, float]
    cases read : Decimal.read? text with
    | none => simp [numberOf?, read]
    | some x => cases range : x.isFinite <;> simp [numberOf?, read, range]

theorem numberAt_agrees (h : cutFrom? source pos = some left) :
    Agrees source (Left source) (numberAt source pos) (ofNumber pos left) := by
  have signed := cutFrom?_signAt h
  obtain ⟨part, hasPart, behindPart⟩ := partAt_eq (cutFrom?_skipAt isDigit_inAscii signed)
  obtain ⟨stop, hasExponent, behind⟩ := exponentAt_eq behindPart
  have behind : cutFrom? source stop = some (takeNumber left).2 := behind
  rw [← digitsOf_append_rest] at signed
  have whole : ((takeNumber left).1.sign ++ digitsOf (takeNumber left).1) ++ (takeNumber left).2
      = left := by
    rw [List.append_assoc, digitsOf_append_rest]
    exact append_takeSign left
  have text := cutBetween?_of_cutFrom? (by rwa [whole]) behind
  rw [numberAt, hasPart, hasExponent, ofNumber, value_eq]
  dsimp only
  by_cases empty : digitsOf (takeNumber left).1 = []
  · rw [if_pos ((cutFrom?_eq_iff signed behind).mpr empty), if_pos empty]
    exact .error (isPosition_of_cutFrom? h) _
  · rw [if_neg (mt (cutFrom?_eq_iff signed behind).mp empty), if_neg empty, text, Run.lift_bind]
    show Agrees source _ (match numberOf?
      (!(takeNumber left).1.part.isEmpty || !(takeNumber left).1.exponent.isEmpty) _ with
        | some n => _ | none => _) _
    split
    · exact .ok ⟨rfl, behind⟩
    · exact .error (isPosition_of_cutFrom? h) _

/-! ## Raw strings -/

/-- The raw string whose opening quote stands at the position, and the position after it. -/
def rawStringAt (source : List Char) (pos : Nat) : Run (List Char × Nat) := do
  let left ← cutFrom? source (pos + 1)
  match find? [rawQuote] left with
  | none => throw ⟨pos, .unterminatedRawString⟩
  | some length => do
    let value ← cutBetween? source (pos + 1) (pos + 1 + length)
    return (value, pos + (length + 2))

/-- What a raw string comes to that begins at a position. -/
def ofRawString (start : Nat) (cs : List Char) : Except ParseError (List Char × List Char) :=
  match cutAt? [rawQuote] cs with
  | some found => .ok found
  | none => .error ⟨start, .unterminatedRawString⟩

theorem rawStringAt_agrees {cs : List Char} (h : cutFrom? source pos = some (rawQuote :: cs)) :
    Agrees source (Left source) (rawStringAt source pos) (ofRawString pos cs) := by
  have behind := cutFrom?_succ (by decide) h
  rw [rawStringAt, behind, Run.lift_bind, find?, ofRawString]
  cases cut : cutAt? [rawQuote] cs with
  | none => exact .error (isPosition_of_cutFrom? h) _
  | some found =>
    obtain ⟨value, rest⟩ := found
    rw [eq_append_of_cutAt? cut] at behind
    have quote := cutFrom?_add behind
    simp only [Option.map_some, cutBetween?_of_cutFrom? behind quote, Run.lift_bind, Run.pure_eq]
    have after := cutFrom?_succ (by decide) quote
    rw [show pos + 1 + byteLength value + 1 = pos + (byteLength value + 2) by omega] at after
    exact .ok ⟨rfl, after⟩

/-! ## Tokens -/

/-- The token that begins with the dot at the position, and the position after it. -/
def dotAt (source : List Char) (pos : Nat) : Run (TokenKind × Nat) :=
  if (byteAt? source (pos + 1)).any isNameStart then do
    let (chain, stop) ← chainAt source pos
    return (.field chain, stop)
  else return (.dot, pos + 1)

theorem dotAt_agrees {cs : List Char} (h : cutFrom? source pos = some ('.' :: cs)) :
    Agrees source (Left source) (dotAt source pos)
      (match readChain ('.' :: cs) with
      | ([], _) => .ok (TokenKind.dot, cs)
      | (chain, rest) => .ok (TokenKind.field chain, rest)) := by
  have behind := cutFrom?_succ (by decide) h
  obtain ⟨stop, chain, leaves⟩ := chainAt_eq h
  rw [dotAt, byteAt?_any isNameStart_inAscii behind, chain]
  by_cases first : cs.head?.any isNameStart
  · obtain ⟨c, cs, rfl, start⟩ : ∃ c ds, cs = c :: ds ∧ isNameStart c := by
      cases cs with
      | nil => cases first
      | cons c cs => exact ⟨c, cs, rfl, first⟩
    rw [readChain, if_pos start] at leaves ⊢
    rw [if_pos first]
    exact .ok ⟨rfl, leaves⟩
  · have none : readChain ('.' :: cs) = ([], '.' :: cs) := by
      cases cs with
      | nil => exact readChain.eq_2 _ fun _ _ eq => absurd eq (by simp)
      | cons c cs => rw [readChain, if_neg (show ¬ isNameStart c = true from first)]
    rw [if_neg first, none]
    exact .ok ⟨rfl, behind⟩

/-- The token at a position whose byte is `b`, and the position after it. -/
def tokenAt (source : List Char) (pos : Nat) (b : Char) : Run (TokenKind × Nat) :=
  if b = '|' then return (.pipe, pos + 1)
  else if b = '(' then return (.leftParen, pos + 1)
  else if b = ')' then return (.rightParen, pos + 1)
  else if b = '"' then do
    let (value, stop) ← quotationAt source pos
    return (.literal (.string (String.ofList value)), stop)
  else if b = rawQuote then do
    let (value, stop) ← rawStringAt source pos
    return (.literal (.string (String.ofList value)), stop)
  else if b = '.' then dotAt source pos
  else if b = '$' then do
    let stop := skipAt isNameChar source (pos + 1)
    let name ← cutBetween? source (pos + 1) stop
    let (chain, stop) ← chainAt source stop
    return (.variable (String.ofList name) chain, stop)
  else if b = '-' || b = '+' || Decimal.isDigit b then do
    let (n, stop) ← numberAt source pos
    return (.literal (.number n), stop)
  else if isNameStart b then do
    let stop := skipAt isNameChar source pos
    let name ← cutBetween? source pos stop
    return (.word (String.ofList name), stop)
  else do
    let left ← cutFrom? source pos
    throw ⟨pos, .unexpectedChar (left.headD (Char.ofNat 0))⟩

/-- No token begins with a byte that is not in ASCII. -/
theorem tokenAt_wide {b : Char} (wide : 0x80 ≤ b.toNat) : tokenAt source pos b = (do
    let left ← cutFrom? source pos
    throw ⟨pos, .unexpectedChar (left.headD (Char.ofNat 0))⟩) := by
  have ne (d : Char) (ascii : d.toNat < 0x80) : b ≠ d := by
    rintro rfl
    omega
  have outside {p : Char → Bool} (ascii : InAscii p) : ¬ p b = true := fun inside =>
    absurd (ascii b inside) (Nat.not_lt.mpr wide)
  have number : ¬ (b = '-' || b = '+' || Decimal.isDigit b) = true := by
    rw [Bool.or_eq_true]
    exact not_or_intro (outside isSign_inAscii) (outside isDigit_inAscii)
  rw [tokenAt, if_neg (ne _ (by decide)), if_neg (ne _ (by decide)), if_neg (ne _ (by decide)),
    if_neg (ne _ (by decide)), if_neg (ne _ (by decide)), if_neg (ne _ (by decide)),
    if_neg (ne _ (by decide)), if_neg number, if_neg (outside isNameStart_inAscii)]

/-- For the token the first byte of a character is as good as the character. -/
theorem tokenAt_byte {b c : Char} (narrow : c.toNat < 0x80 → b = c)
    (wide : 0x80 ≤ c.toNat → 0x80 ≤ b.toNat) : tokenAt source pos b = tokenAt source pos c := by
  by_cases ascii : c.toNat < 0x80
  · rw [narrow ascii]
  · rw [tokenAt_wide (wide (Nat.not_lt.mp ascii)), tokenAt_wide (Nat.not_lt.mp ascii)]

/-- **The token at a position is the token at the beginning of the text left.** -/
theorem tokenAt_agrees {c : Char} {cs : List Char} (h : cutFrom? source pos = some (c :: cs)) :
    Agrees source (Left source) (tokenAt source pos c) (lexToken (byteLength source) c cs) := by
  have here : offsetOf (byteLength source) (c :: cs) = pos := byteLength_sub_of_cutFrom? h
  have next (ascii : c.toNat < 0x80) : cutFrom? source (pos + 1) = some cs := cutFrom?_succ ascii h
  rw [tokenAt, lexToken]
  dsimp only
  rw [here]
  refine .ite (fun pipe => ?_) fun _ => .ite (fun left => ?_) fun _ =>
    .ite (fun right => ?_) fun _ => .ite (fun quote => ?_) fun _ => .ite (fun raw => ?_) fun _ =>
    .ite (fun dot => ?_) fun _ => .ite (fun dollar => ?_) fun _ => .ite (fun number => ?_) fun _ =>
    .ite (fun word => ?_) fun _ => ?_
  · exact .ok ⟨rfl, next (pipe ▸ by decide)⟩
  · exact .ok ⟨rfl, next (left ▸ by decide)⟩
  · exact .ok ⟨rfl, next (right ▸ by decide)⟩
  · have quoted := quotationAt_agrees (quote ▸ h)
    cases read : readQuotation cs with
    | closed value rest =>
      rw [read] at quoted
      obtain ⟨⟨_, stop⟩, run, rfl, leaves⟩ := quoted
      rw [run]
      exact .ok ⟨rfl, leaves⟩
    | unknownEscape e left | unterminated =>
      rw [read] at quoted
      rw [quoted.1]
      exact ⟨rfl, quoted.2⟩
  · have quoted := rawStringAt_agrees (raw ▸ h)
    rw [ofRawString] at quoted
    cases cut : cutAt? [rawQuote] cs with
    | some found =>
      rw [cut] at quoted
      obtain ⟨⟨_, stop⟩, run, rfl, leaves⟩ := quoted
      rw [run]
      exact .ok ⟨rfl, leaves⟩
    | none =>
      rw [cut] at quoted
      rw [quoted.1]
      exact ⟨rfl, quoted.2⟩
  · subst dot
    exact dotAt_agrees h
  · have behind := next (dollar ▸ by decide)
    obtain ⟨stop, chain, leaves⟩ := chainAt_eq (cutFrom?_skipAt isNameChar_inAscii behind)
    rw [cutBetween?_skipAt isNameChar_inAscii behind, Run.lift_bind, chain]
    exact .ok ⟨rfl, leaves⟩
  · have read := numberAt_agrees h
    rw [ofNumber] at read
    cases value : (takeNumber (c :: cs)).1.value with
    | ok n =>
      rw [value] at read
      obtain ⟨⟨_, stop⟩, run, rfl, leaves⟩ := read
      rw [run]
      dsimp only
      exact .ok ⟨rfl, leaves⟩
    | error fault =>
      rw [value] at read
      rw [read.1]
      dsimp only
      exact ⟨rfl, read.2⟩
  · have name := cutBetween?_skipAt isNameChar_inAscii h
    rw [List.takeWhile_cons_of_pos (isNameChar_of_isNameStart word)] at name
    have behind := cutFrom?_skipAt isNameChar_inAscii h
    rw [List.dropWhile_cons_of_pos (isNameChar_of_isNameStart word)] at behind
    rw [name, Run.lift_bind]
    exact .ok ⟨rfl, behind⟩
  · rw [h, Run.lift_bind]
    exact .error (isPosition_of_cutFrom? h) _

end ByPosition

end MetricPath.Template
