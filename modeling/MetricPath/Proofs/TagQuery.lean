import MetricPath.Matcher
import MetricPath.Proofs.TaggedPath

/-!
# What a tag query tells about its matchers

A tag query writes its matchers one after the other, each between quotes, and escapes nothing.  It
is read back from the front.  A name ends at its sign, because it is an identifier.  A value ends at
a quote after which the query ends or another expression begins; where no value has the beginning of
an expression in it (`OpensExpression`), that is its last one (`append_inj_of_not_opens`).

That leaves the text between the sign and the quote.  It is the value, or for a pattern the value
within an anchored group, and a value can be written like such a group: then the query says of an
equality what it would say of a pattern (`Matcher.Doubles`).
-/

namespace MetricPath

/-! ## Texts with a common beginning -/

namespace Text

/-- What does not have the character after a text in it is no longer than that text. -/
theorem begins_of_notMem {w x y z : List Char} {c : Char} (h : w ++ c :: x = y ++ z)
    (notMem : c ∉ y) : y <+: w := by
  rcases List.append_eq_append_iff.mp h with ⟨_ | ⟨d, cs⟩, within, after⟩ | ⟨cs, within, -⟩
  · rw [within, List.append_nil]
  · rw [within, (List.cons.inj after).1] at notMem
    exact absurd (List.mem_append_right w List.mem_cons_self) notMem
  · exact ⟨cs, within.symm⟩

/-- A text that goes on with itself repeats what stands before it. -/
theorem mem_of_repeated {s y z : List Char} (nonempty : s ≠ []) (x : List Char)
    (h : x ++ y = s ++ (x ++ z)) : ∀ c ∈ x, c ∈ s := by
  rcases List.append_eq_append_iff.mp h with ⟨more, rfl, -⟩ | ⟨more, rfl, again⟩
  · exact fun c mem => List.mem_append_left more mem
  · have shorter : more.length < (s ++ more).length := by
      rw [List.length_append]
      exact Nat.lt_add_of_pos_left (List.length_pos_iff.mpr nonempty)
    have inner := mem_of_repeated nonempty more (z := z) (y := y) <| by
      rw [← again, List.append_assoc]
    intro c mem
    rcases List.mem_append.mp mem with first | rest
    · exact first
    · exact inner c rest
termination_by x.length

/-- What stands in two texts together, and has no character of the second one, stands in the first
one. -/
theorem infix_of_append_left {s x y : List Char} (h : s <:+: x ++ y) (apart : ∀ c ∈ s, c ∉ y) :
    s <:+: x := by
  rcases List.infix_append_iff.mp h with within | within | ⟨front, back, rfl, ends, begins⟩
  · exact within
  · rcases s with _ | ⟨c, s⟩
    · exact List.nil_infix
    · exact absurd (within.subset List.mem_cons_self) (apart c List.mem_cons_self)
  · rcases back with _ | ⟨c, back⟩
    · rw [List.append_nil]
      exact ends.isInfix
    · have mem : c ∈ front ++ c :: back := List.mem_append_right front List.mem_cons_self
      exact absurd (begins.subset List.mem_cons_self) (apart c mem)

/-- The same for the second of two texts. -/
theorem infix_of_append_right {s x y : List Char} (h : s <:+: x ++ y) (apart : ∀ c ∈ s, c ∉ x) :
    s <:+: y := by
  rw [← List.reverse_infix] at h ⊢
  rw [List.reverse_append] at h
  refine infix_of_append_left h fun c mem => ?_
  rw [List.mem_reverse] at mem ⊢
  exact apart c mem

end Text

open LabelSet (isIdentifier)
open Text

/-! ## The parts of an expression -/

namespace TagQuery

/-- What stands before a pattern in its group. -/
def groupBegin : List Char := ['~', '^', '(']

/-- What stands after a pattern in its group. -/
def groupEnd : List Char := [')', '$']

/-- The sign before a text or a pattern. -/
def signChars (negated : Bool) : List Char := if negated then ['!', '='] else ['=']

/-- The end of an expression and the beginning of another one. -/
def opening (tag : String) (negated : Bool) : List Char :=
  '"' :: ',' :: '"' :: (tag.toList ++ signChars negated)

/-- Whether the end of an expression and the beginning of another one stand in a text. -/
def OpensExpression (cs : List Char) : Prop :=
  ∃ tag negated, isIdentifier tag ∧ opening tag negated <:+: cs

end TagQuery

open TagQuery

namespace Matcher

/-- The tag that the matcher is about. -/
def tag (m : Matcher) : String := if m.name = LabelSet.nameLabel then nameTag else m.name

/-- What is put before the value. -/
def front (beginning : String) (m : Matcher) : String :=
  if m.name = LabelSet.nameLabel then beginning else ""

/-- The value as it is written in a query. -/
def written (beginning : String) (m : Matcher) : String := m.front beginning ++ m.value

/-- Whether the matcher asks for a difference. -/
def isNegated (m : Matcher) : Bool := m.op = .notEqual || m.op = .notRegex

/-- Whether the value is a pattern. -/
def isPattern (m : Matcher) : Bool := m.op = .regex || m.op = .notRegex

/-- The text after the sign. -/
def body (beginning : String) (m : Matcher) : List Char :=
  if m.isPattern then groupBegin ++ (m.written beginning).toList ++ groupEnd
  else (m.written beginning).toList

/-- An expression without its quotes. -/
def core (beginning : String) (m : Matcher) : List Char :=
  m.tag.toList ++ (signChars m.isNegated ++ m.body beginning)

theorem tagExpression_toList (beginning : String) (m : Matcher) :
    (m.tagExpression beginning).toList = '"' :: (m.core beginning ++ ['"']) := by
  obtain ⟨name, op, value⟩ := m
  by_cases label : name = LabelSet.nameLabel <;> cases op <;>
    simp [tagExpression, core, tag, signChars, isNegated, body, isPattern, written, front, label,
      groupBegin, groupEnd]

end Matcher

/-! ## Where a value ends -/

namespace TagQuery

/-- What follows the body of an expression: the end of the query, or another expression. -/
inductive IsTail : List Char → Prop
  | last : IsTail ['"', ')']
  | more {tag : String} (identifier : isIdentifier tag) (negated : Bool) (rest : List Char) :
      IsTail (opening tag negated ++ rest)

theorem word_of_mem {tag : String} (h : isIdentifier tag) {c : Char} (mem : c ∈ tag.toList) :
    c.isAlphanum || c = '_' := by
  rw [isIdentifier] at h
  generalize tag.toList = cs at h mem
  rcases cs with _ | ⟨d, cs⟩
  · cases mem
  · rw [Bool.and_eq_true, List.all_eq_true] at h
    rcases List.mem_cons.mp mem with rfl | mem
    · refine (Bool.or_eq_true _ _).mpr (((Bool.or_eq_true _ _).mp h.1).imp_left fun alpha => ?_)
      rw [Char.isAlphanum, alpha]
      rfl
    · exact h.2 c mem

/-- An identifier and a sign consist of characters that stand in no other part of a query. -/
theorem notMem_tag_sign {tag : String} (h : isIdentifier tag) (negated : Bool) {c : Char}
    (other : (c.isAlphanum || c ∈ ['_', '!', '=']) = false) :
    c ∉ tag.toList ++ signChars negated := by
  rw [Bool.or_eq_false_iff, decide_eq_false_iff_not] at other
  rw [List.mem_append, not_or]
  constructor
  · intro mem
    have := word_of_mem h mem
    simp_all
  · cases negated <;> simp_all [signChars]

/-- A tail begins with a quote and with a character that stands neither in a tag nor in a sign. -/
theorem IsTail.begins {t : List Char} (h : IsTail t) :
    ∃ c more, t = '"' :: c :: more ∧ (c.isAlphanum || c ∈ ['_', '!', '=']) = false := by
  cases h with
  | last => exact ⟨')', [], rfl, by decide⟩
  | more => exact ⟨',', _, rfl, by decide⟩

/-- A tail does not begin within another one, unless after an opening. -/
theorem IsTail.opening_of_append {w t : List Char} (h : IsTail (w ++ t)) (h' : IsTail t)
    (nonempty : w ≠ []) : ∃ tag negated, isIdentifier tag ∧ opening tag negated <+: w := by
  obtain ⟨c, more, rfl, other⟩ := h'.begins
  generalize eq : w ++ '"' :: c :: more = t at h
  cases h with
  | last =>
    have length := congrArg List.length eq
    have := List.length_pos_iff.mpr nonempty
    simp only [List.length_append, List.length_cons, List.length_nil] at length
    omega
  | @more tag identifier negated rest =>
    rcases w with _ | ⟨a, _ | ⟨b, _ | ⟨d, w⟩⟩⟩
    · exact absurd rfl nonempty
    · cases eq
    · -- the quote would be the last one of the opening, and `c` the first character of the tag
      obtain ⟨-, -, inner⟩ : a = '"' ∧ b = ',' ∧
          c :: more = (tag.toList ++ signChars negated) ++ rest := by
        simpa [opening] using eq
      have apart := notMem_tag_sign identifier negated other
      have empty := List.prefix_nil.mp (begins_of_notMem (w := []) inner apart)
      cases negated <;> simp [signChars] at empty
    · obtain ⟨rfl, rfl, rfl, inner⟩ : a = '"' ∧ b = ',' ∧ d = '"' ∧
          w ++ '"' :: c :: more = (tag.toList ++ signChars negated) ++ rest := by
        simpa [opening] using eq
      have apart := notMem_tag_sign identifier negated (c := '"') (by decide)
      refine ⟨tag, negated, identifier, ?_⟩
      rw [opening, List.cons_prefix_cons, List.cons_prefix_cons, List.cons_prefix_cons]
      exact ⟨rfl, rfl, rfl, begins_of_notMem inner apart⟩

/-- Two values are the same if what begins with them is the same. -/
theorem append_inj_of_not_opens {u v t t' : List Char} (hu : ¬ OpensExpression u)
    (hv : ¬ OpensExpression v) (ht : IsTail t) (ht' : IsTail t') (h : u ++ t = v ++ t') :
    u = v ∧ t = t' := by
  have opens {u w t : List Char} (ht : IsTail (w ++ t)) (ht' : IsTail t)
      (closed : ¬ OpensExpression (u ++ w)) : w = [] := by
    by_contra nonempty
    obtain ⟨tag, negated, identifier, begins⟩ := ht.opening_of_append ht' nonempty
    exact closed ⟨tag, negated, identifier, begins.isInfix.trans (List.suffix_append u w).isInfix⟩
  rcases List.append_eq_append_iff.mp h with ⟨w, rfl, rfl⟩ | ⟨w, rfl, rfl⟩
  · rw [opens ht ht' hv, List.append_nil]
    exact ⟨rfl, rfl⟩
  · rw [opens ht' ht hu, List.append_nil]
    exact ⟨rfl, rfl⟩

/-- A tag ends at its sign. -/
theorem tag_sign_inj {tag tag' : String} (h : isIdentifier tag) (h' : isIdentifier tag')
    {negated negated' : Bool} {u v : List Char}
    (eq : tag.toList ++ (signChars negated ++ u) = tag'.toList ++ (signChars negated' ++ v)) :
    tag = tag' ∧ negated = negated' ∧ u = v := by
  have sign (negated : Bool) (u : List Char) :
      ∃ c cs, signChars negated ++ u = c :: cs ∧ c ∈ ['!', '='] := by
    cases negated
    · exact ⟨_, _, rfl, by decide⟩
    · exact ⟨_, _, rfl, by decide⟩
  have notMem {tag : String} (h : isIdentifier tag) {c : Char} (mem : c ∈ ['!', '=']) :
      c ∉ tag.toList := by
    intro within
    have word := word_of_mem h within
    simp only [List.mem_cons, List.not_mem_nil, or_false] at mem
    rcases mem with rfl | rfl <;> exact absurd word (by decide)
  have tags : tag.toList = tag'.toList := by
    obtain ⟨c, cs, first, mem⟩ := sign negated u
    obtain ⟨c', cs', first', mem'⟩ := sign negated' v
    rw [first, first'] at eq
    have shorter := begins_of_notMem eq (notMem h' mem)
    have longer := begins_of_notMem eq.symm (notMem h mem')
    exact longer.eq_of_length_le shorter.length_le
  rw [tags, List.append_cancel_left_eq] at eq
  refine ⟨String.toList_inj.mp tags, ?_⟩
  cases negated <;> cases negated' <;> simp_all [signChars]

theorem not_opens_of_notInfix {cs : List Char} (h : ¬ ['"', ',', '"'] <:+: cs) :
    ¬ OpensExpression cs := by
  rintro ⟨tag, negated, -, within⟩
  have begins : ['"', ',', '"'] <+: opening tag negated := ⟨_, rfl⟩
  exact h (begins.isInfix.trans within)

/-- A value can be put between characters that stand in no opening. -/
theorem not_opens_between {u v w : List Char} (h : ¬ OpensExpression v)
    (hu : ∀ c ∈ u, c ∈ groupBegin ++ groupEnd) (hw : ∀ c ∈ w, c ∈ groupBegin ++ groupEnd) :
    ¬ OpensExpression (u ++ v ++ w) := by
  rintro ⟨tag, negated, identifier, within⟩
  have outside : ∀ c ∈ groupBegin ++ groupEnd, c ∉ opening tag negated := by
    intro c mem
    have other : ∀ c ∈ groupBegin ++ groupEnd,
        (c.isAlphanum || c ∈ ['_', '!', '=']) = false ∧ c ∉ ['"', ','] := by
      simp [groupBegin, groupEnd]
    have := notMem_tag_sign identifier negated (other c mem).1
    have := (other c mem).2
    simp_all [opening]
  have left := infix_of_append_left within fun c mem mem' => outside c (hw c mem') mem
  have inner := infix_of_append_right left fun c mem mem' => outside c (hu c mem') mem
  exact h ⟨tag, negated, identifier, inner⟩

end TagQuery

/-! ## One expression -/

namespace Matcher

variable {beginning : String} {x y : Matcher}

/-- A matcher with an identifier for its name, other than the tag of the metric name, and a value
that has no beginning of an expression in it. -/
structure IsOrdinary (m : Matcher) : Prop where
  identifier : isIdentifier m.name
  other : m.name ≠ nameTag
  closed : ¬ OpensExpression m.value.toList

/-- The first matcher compares with a text, and the second one has a pattern that is written like
that text in a query. -/
structure Doubles (beginning : String) (x y : Matcher) : Prop where
  name : x.name = y.name
  negated : x.isNegated = y.isNegated
  text : x.isPattern = false
  pattern : y.isPattern = true
  written : x.written beginning = "~^(" ++ y.written beginning ++ ")$"

/-- Whether the matcher compares with a text that is written like some pattern in a query. -/
def LooksLikePattern (beginning : String) (m : Matcher) : Prop :=
  m.isPattern = false ∧ ∃ inner, m.written beginning = "~^(" ++ inner ++ ")$"

theorem Doubles.looksLikePattern (h : x.Doubles beginning y) : x.LooksLikePattern beginning :=
  ⟨h.text, _, h.written⟩

/-- A query says the same of the two matchers. -/
def ReadsAlike (beginning : String) (x y : Matcher) : Prop :=
  x = y ∨ x.Doubles beginning y ∨ y.Doubles beginning x

theorem op_eq (negated : x.isNegated = y.isNegated) (pattern : x.isPattern = y.isPattern) :
    x.op = y.op := by
  rw [isNegated, isNegated] at negated
  rw [isPattern, isPattern] at pattern
  cases opx : x.op <;> cases opy : y.op <;> simp_all

theorem tag_isIdentifier (h : x.IsOrdinary) : isIdentifier x.tag := by
  rw [tag]
  split
  · rfl
  · exact h.identifier

theorem name_eq_of_tag (hx : x.name ≠ nameTag) (hy : y.name ≠ nameTag) (h : x.tag = y.tag) :
    x.name = y.name := by
  rw [tag, tag] at h
  split_ifs at h with labelx labely labely
  · exact labelx.trans labely.symm
  · exact absurd h.symm hy
  · exact absurd h hx
  · exact h

theorem body_eq_of_doubles (h : x.Doubles beginning y) : x.body beginning = y.body beginning := by
  rw [body, body, h.text, h.pattern, h.written, String.toList_append, String.toList_append]
  rfl

/-- Matchers that read alike have the same expression. -/
theorem core_eq_of_readsAlike (h : x.ReadsAlike beginning y) :
    x.core beginning = y.core beginning := by
  have doubled {x y : Matcher} (h : x.Doubles beginning y) :
      x.core beginning = y.core beginning := by
    rw [core, core, tag, tag, h.name, h.negated, body_eq_of_doubles h]
  rcases h with rfl | h | h
  · rfl
  · exact doubled h
  · exact (doubled h).symm

theorem written_toList (beginning : String) (m : Matcher) :
    (m.written beginning).toList = (m.front beginning).toList ++ m.value.toList :=
  String.toList_append

theorem front_congr (name : x.name = y.name) : x.front beginning = y.front beginning := by
  rw [front, front, name]

/-- A text that goes on like a pattern is written like it. -/
theorem written_eq_of_body {t t' : List Char} (hx : x.IsOrdinary) (hy : y.IsOrdinary)
    (name : x.name = y.name) (ht : IsTail t) (ht' : IsTail t')
    (h : (x.written beginning).toList ++ t =
      groupBegin ++ (y.written beginning).toList ++ groupEnd ++ t') :
    x.written beginning = "~^(" ++ y.written beginning ++ ")$" ∧ t = t' := by
  have front : x.front beginning = y.front beginning := front_congr name
  rw [written_toList, written_toList, front] at h
  -- what is put before both values is repeated, so it has no quote in it
  have repeated : ∀ c ∈ (y.front beginning).toList, c ∈ groupBegin := by
    refine mem_of_repeated (by decide) _ (y := x.value.toList ++ t)
      (z := y.value.toList ++ groupEnd ++ t') ?_
    simpa using h
  have text : ¬ OpensExpression ((y.front beginning).toList ++ x.value.toList ++ []) :=
    not_opens_between hx.closed (fun c mem => List.mem_append_left _ (repeated c mem)) nofun
  have pattern : ¬ OpensExpression
      ((groupBegin ++ (y.front beginning).toList) ++ y.value.toList ++ groupEnd) := by
    refine not_opens_between hy.closed (fun c mem => ?_) fun c => List.mem_append_right _
    exact List.mem_append_left _ ((List.mem_append.mp mem).elim id (repeated c))
  rw [List.append_nil] at text
  rw [← List.append_assoc groupBegin] at h
  obtain ⟨same, tails⟩ := append_inj_of_not_opens text pattern ht ht' h
  refine ⟨String.toList_inj.mp ?_, tails⟩
  rw [String.toList_append, String.toList_append, written_toList, written_toList, front, same,
    ← List.append_assoc]
  rfl

/-- The text after a sign tells the matcher, up to what reads alike. -/
theorem body_inj {t t' : List Char} (hx : x.IsOrdinary) (hy : y.IsOrdinary) (name : x.name = y.name)
    (negated : x.isNegated = y.isNegated) (ht : IsTail t) (ht' : IsTail t')
    (h : x.body beginning ++ t = y.body beginning ++ t') :
    x.ReadsAlike beginning y ∧ t = t' := by
  have front : x.front beginning = y.front beginning := front_congr name
  have same (pattern : x.isPattern = y.isPattern) (value : x.value.toList = y.value.toList) :
      x = y := by
    have op := op_eq negated pattern
    obtain ⟨_, _, _⟩ := x
    obtain ⟨_, _, _⟩ := y
    simp_all [String.toList_inj]
  rw [body, body] at h
  cases patternx : x.isPattern <;> cases patterny : y.isPattern <;>
    simp only [patternx, patterny, if_true, if_false, Bool.false_eq_true] at h
  · rw [written_toList, written_toList, front, List.append_assoc, List.append_assoc,
      List.append_cancel_left_eq] at h
    obtain ⟨value, tails⟩ := append_inj_of_not_opens hx.closed hy.closed ht ht' h
    exact ⟨.inl (same (patternx.trans patterny.symm) value), tails⟩
  · obtain ⟨written, tails⟩ := written_eq_of_body hx hy name ht ht' h
    exact ⟨.inr (.inl ⟨name, negated, patternx, patterny, written⟩), tails⟩
  · obtain ⟨written, tails⟩ := written_eq_of_body hy hx name.symm ht' ht h.symm
    exact ⟨.inr (.inr ⟨name.symm, negated.symm, patterny, patternx, written⟩), tails.symm⟩
  · rw [written_toList, written_toList, front] at h
    simp only [List.append_assoc, List.append_cancel_left_eq] at h
    rw [← List.append_assoc, ← List.append_assoc] at h
    have closed {m : Matcher} (ordinary : m.IsOrdinary) :
        ¬ OpensExpression (m.value.toList ++ groupEnd) :=
      not_opens_between (u := []) ordinary.closed nofun fun c => List.mem_append_right _
    obtain ⟨values, tails⟩ := append_inj_of_not_opens (closed hx) (closed hy) ht ht' h
    exact ⟨.inl (same (patternx.trans patterny.symm) (List.append_cancel_right values)), tails⟩

theorem core_inj {t t' : List Char} (hx : x.IsOrdinary) (hy : y.IsOrdinary) (ht : IsTail t)
    (ht' : IsTail t') (h : x.core beginning ++ t = y.core beginning ++ t') :
    x.ReadsAlike beginning y ∧ t = t' := by
  rw [core, core, List.append_assoc, List.append_assoc, List.append_assoc, List.append_assoc] at h
  obtain ⟨tag, negated, bodies⟩ := tag_sign_inj (tag_isIdentifier hx) (tag_isIdentifier hy) h
  exact body_inj hx hy (name_eq_of_tag hx.other hy.other tag) negated ht ht' bodies

end Matcher

/-! ## All expressions -/

namespace TagQuery

/-- What follows the body of an expression in a query. -/
def queryTail (beginning : String) : List Matcher → List Char
  | [] => ['"', ')']
  | m :: ms => ['"', ',', '"'] ++ m.core beginning ++ queryTail beginning ms

theorem isTail_queryTail {beginning : String} {ms : List Matcher} (h : ∀ m ∈ ms, m.IsOrdinary) :
    IsTail (queryTail beginning ms) := by
  rcases ms with _ | ⟨m, ms⟩
  · exact .last
  · have next := IsTail.more (Matcher.tag_isIdentifier (h m List.mem_cons_self)) m.isNegated
      (m.body beginning ++ queryTail beginning ms)
    rw [queryTail, Matcher.core]
    simpa [opening] using next

theorem seriesByTagQuery_cons (m : Matcher) (ms : List Matcher) (beginning : String) :
    (seriesByTagQuery (m :: ms) beginning).toList =
      "seriesByTag(\"".toList ++ (m.core beginning ++ queryTail beginning ms) := by
  have joined (m : Matcher) :
      [','].intercalate (((m :: ms).map (Matcher.tagExpression beginning)).map String.toList) ++
        [')'] = '"' :: (m.core beginning ++ queryTail beginning ms) := by
    induction ms generalizing m with
    | nil => simp [Matcher.tagExpression_toList, queryTail]
    | cons n ms ih =>
      rw [List.map_cons, List.map_cons, List.map_cons, List.map_cons, List.intercalate_cons_cons,
        ← List.map_cons, ← List.map_cons, List.append_assoc, ih n, Matcher.tagExpression_toList]
      simp [queryTail]
  rw [seriesByTagQuery, String.toList_append, String.toList_append, String.toList_intercalate,
    List.append_assoc]
  exact congrArg _ (joined m)

theorem queryTail_inj {beginning : String} {xs ys : List Matcher} (hx : ∀ m ∈ xs, m.IsOrdinary)
    (hy : ∀ m ∈ ys, m.IsOrdinary) (h : queryTail beginning xs = queryTail beginning ys) :
    List.Forall₂ (Matcher.ReadsAlike beginning) xs ys := by
  induction xs generalizing ys with
  | nil =>
    rcases ys with _ | ⟨y, ys⟩
    · exact .nil
    · cases h
  | cons x xs ih =>
    rcases ys with _ | ⟨y, ys⟩
    · cases h
    · obtain ⟨ordinary, hx⟩ := List.forall_mem_cons.mp hx
      obtain ⟨ordinary', hy⟩ := List.forall_mem_cons.mp hy
      rw [queryTail, queryTail, List.append_assoc, List.append_assoc,
        List.append_cancel_left_eq] at h
      obtain ⟨alike, rest⟩ :=
        Matcher.core_inj ordinary ordinary' (isTail_queryTail hx) (isTail_queryTail hy) h
      exact .cons alike (ih hx hy rest)

theorem queryTail_congr {beginning : String} {xs ys : List Matcher}
    (h : List.Forall₂ (Matcher.ReadsAlike beginning) xs ys) :
    queryTail beginning xs = queryTail beginning ys := by
  induction h with
  | nil => rfl
  | cons alike _ ih => rw [queryTail, queryTail, Matcher.core_eq_of_readsAlike alike, ih]

/-- Queries are the same if what follows an expression is. -/
theorem seriesByTagQuery_eq_iff_tail {beginning : String} {xs ys : List Matcher} :
    seriesByTagQuery xs beginning = seriesByTagQuery ys beginning ↔
      queryTail beginning xs = queryTail beginning ys := by
  have empty : (seriesByTagQuery [] beginning).toList = "seriesByTag(".toList ++ [')'] := by
    rw [seriesByTagQuery, String.toList_append, String.toList_append]
    rfl
  rw [← String.toList_inj]
  rcases xs with _ | ⟨x, xs⟩ <;> rcases ys with _ | ⟨y, ys⟩
  · exact iff_of_true rfl rfl
  · rw [seriesByTagQuery_cons, empty]
    exact iff_of_false nofun nofun
  · rw [seriesByTagQuery_cons, empty]
    exact iff_of_false nofun nofun
  · rw [seriesByTagQuery_cons, seriesByTagQuery_cons, List.append_cancel_left_eq, queryTail,
      queryTail, List.append_assoc, List.append_assoc, List.append_cancel_left_eq]

end TagQuery

/-- Lists that read alike are the same if no text in them looks like a pattern. -/
theorem eq_of_readsAlike {beginning : String} {xs ys : List Matcher}
    (h : List.Forall₂ (Matcher.ReadsAlike beginning) xs ys)
    (hx : ∀ m ∈ xs, ¬ m.LooksLikePattern beginning)
    (hy : ∀ m ∈ ys, ¬ m.LooksLikePattern beginning) : xs = ys := by
  induction h with
  | nil => rfl
  | cons alike _ ih =>
    rw [List.forall_mem_cons] at hx hy
    rcases alike with rfl | doubles | doubles
    · rw [ih hx.2 hy.2]
    · exact absurd doubles.looksLikePattern hx.1
    · exact absurd doubles.looksLikePattern hy.1

/-- A query tells its matchers, up to texts that look like patterns.  Let the names be identifiers
other than the tag of the metric name, and let no value have the end of an expression and the
beginning of another one in it.  Then two lists of matchers have the same query exactly if they are
equally long and agree one by one: the matchers are the same, or they have the same name and both or
neither ask for a difference, and one of them compares with a text that is written like the pattern
of the other one, with its anchors and brackets.  So lists without such texts have the same query
only if they are the same. -/
theorem seriesByTagQuery_eq_iff {beginning : String} {xs ys : List Matcher}
    (hx : ∀ m ∈ xs, m.IsOrdinary) (hy : ∀ m ∈ ys, m.IsOrdinary) :
    (seriesByTagQuery xs beginning = seriesByTagQuery ys beginning ↔
      List.Forall₂ (Matcher.ReadsAlike beginning) xs ys) ∧
    ((∀ m ∈ xs ++ ys, ¬ m.LooksLikePattern beginning) →
      (seriesByTagQuery xs beginning = seriesByTagQuery ys beginning ↔ xs = ys)) := by
  have alike : seriesByTagQuery xs beginning = seriesByTagQuery ys beginning ↔
      List.Forall₂ (Matcher.ReadsAlike beginning) xs ys := by
    rw [seriesByTagQuery_eq_iff_tail]
    exact ⟨queryTail_inj hx hy, queryTail_congr⟩
  refine ⟨alike, fun plain => ⟨fun same => ?_, fun same => same ▸ rfl⟩⟩
  obtain ⟨plain, plain'⟩ := List.forall_mem_append.mp plain
  exact eq_of_readsAlike (alike.mp same) plain plain'

/-- A quote and a comma at the end of a value are harmless, and so is a quote in a pattern.  All that
the first two queries do not tell is whether `x` is a pattern. -/
theorem seriesByTagQuery_eq_iff_quotes :
    let name : Matcher := ⟨"__name__", .regex, "up|\"down"⟩
    let env : Matcher := ⟨"env", .equal, "a\","⟩
    let xs : List Matcher := [name, env, ⟨"job", .notEqual, "~^(x)$"⟩]
    let ys : List Matcher := [name, env, ⟨"job", .notRegex, "x"⟩]
    (∀ m ∈ xs, m.IsOrdinary) ∧ (∀ m ∈ ys, m.IsOrdinary) ∧
      seriesByTagQuery xs "prod." = seriesByTagQuery ys "prod." ∧
      (∀ m ∈ [name, env] ++ [env, name], ¬ m.LooksLikePattern "prod.") ∧
      seriesByTagQuery [name, env] "prod." ≠ seriesByTagQuery [env, name] "prod." := by
  intro name env xs ys
  have ordinary (m : Matcher) (h : isIdentifier m.name ∧ m.name ≠ nameTag ∧
      ¬ ['"', ',', '"'] <:+: m.value.toList) : m.IsOrdinary :=
    ⟨h.1, h.2.1, not_opens_of_notInfix h.2.2⟩
  have hx : ∀ m ∈ xs, m.IsOrdinary := fun m mem => ordinary m (by revert m; decide)
  have hy : ∀ m ∈ ys, m.IsOrdinary := fun m mem => ordinary m (by revert m; decide)
  have swapped : ∀ m ∈ [env, name], m.IsOrdinary := fun m mem => ordinary m (by revert m; decide)
  have plain : ∀ m ∈ [name, env] ++ [env, name], ¬ m.LooksLikePattern "prod." := by
    have first : ∀ m ∈ [name, env] ++ [env, name], m.isPattern = false →
        (m.written "prod.").toList.head? ≠ some '~' := by decide
    rintro m mem ⟨text, inner, written⟩
    refine first m mem text ?_
    rw [written, String.toList_append, String.toList_append]
    rfl
  refine ⟨hx, hy, ?_, plain, ?_⟩
  · refine (seriesByTagQuery_eq_iff hx hy).1.mpr ?_
    exact .cons (.inl rfl) (.cons (.inl rfl) (.cons (.inr (.inl ⟨rfl, rfl, rfl, rfl, rfl⟩)) .nil))
  · have short : ∀ m ∈ [name, env], m.IsOrdinary := fun m mem => ordinary m (by revert m; decide)
    exact mt ((seriesByTagQuery_eq_iff short swapped).2 plain).mp (by decide)

/-- An equality with a text in the form of a pattern and the pattern itself have the same query, and
so have a value with the beginning of an expression in it and the two expressions. -/
theorem seriesByTagQuery_ambiguous :
    let text : Matcher := ⟨"env", .equal, "~^(x)$"⟩
    let pattern : Matcher := ⟨"env", .regex, "x"⟩
    let injected : Matcher := ⟨"env", .equal, "a\",\"job=b"⟩
    let apart : List Matcher := [⟨"env", .equal, "a"⟩, ⟨"job", .equal, "b"⟩]
    isIdentifier "env" ∧ isIdentifier "job" ∧
      seriesByTagQuery [text] "" = seriesByTagQuery [pattern] "" ∧ [text] ≠ [pattern] ∧
      seriesByTagQuery [injected] "" = seriesByTagQuery apart "" ∧ [injected] ≠ apart := by
  intro text pattern injected apart
  exact ⟨rfl, rfl, by cbv, by decide, by cbv, by decide⟩

end MetricPath
