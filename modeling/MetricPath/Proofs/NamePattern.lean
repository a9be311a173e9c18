import MetricPath.Proofs.Anchoring
import MetricPath.Proofs.PatternFront

/-!
# The pattern of a metric name in a tag query

A backend with tags stores a name behind the configured beginning, and a tag query puts the
beginning in front of the text of a pattern and both into one group.  So the backend reads the
beginning as a part of the pattern: what its pattern takes is what the joined text denotes
(`isMatch_queried`).

A beginning without special characters takes itself, but it goes with the first alternative of the
pattern only (`ways_behind`).  So the query finds the stored forms of the names that the pattern
takes if there is one alternative and it does not look at what stands before it
(`Expr.matchesBehind_iff`); a second alternative is found without the beginning.
-/

namespace MetricPath

namespace Pattern

open MetricPath.Unicode (CharSet)

variable {r : Reader} {p p' q : Place} {cs : List Char} {n : Nat}

/-! ## Looking behind -/

/-- Whether an assertion is about the character before the place. -/
def Assertion.looksBehind : Assertion → Bool
  | .textEnd | .lineEnd | .notBeforeWord _ => false
  | _ => true

/-- Whether an expression can take the empty text. -/
def Expr.mayTakeNothing : Expr → Bool
  | .empty | .assert _ => true
  | .set _ => false
  | .seq a b => a.mayTakeNothing && b.mayTakeNothing
  | .alt a b => a.mayTakeNothing || b.mayTakeNothing
  | .rounds least _ _ e => least == 0 || e.mayTakeNothing
  | .group _ e => e.mayTakeNothing

/-- Whether what an expression takes can depend on the character before the place. -/
def Expr.looksBehind : Expr → Bool
  | .empty | .set _ => false
  | .assert a => a.looksBehind
  | .seq a b => a.looksBehind || a.mayTakeNothing && b.looksBehind
  | .alt a b => a.looksBehind || b.looksBehind
  | .rounds _ _ _ e => e.looksBehind
  | .group _ e => e.looksBehind

/-- A way goes alike from two places with the same text after them, if the character before them is
the same or the way is `free` of it.  Where it ends, the character before is again the same, unless
`nothing` has been taken from places where it was not. -/
def GoesAlike (w : Way) (free nothing : Prop) : Prop :=
  ∀ p q p' : Place, w p q → p'.rest = p.rest → (p'.before = p.before ∨ free) →
    ∃ q', w p' q' ∧ q'.rest = q.rest ∧
      (q'.before = q.before ∨ p'.before ≠ p.before ∧ nothing)

namespace GoesAlike

variable {v w : Way} {free free' nothing nothing' : Prop}

theorem mono (h : GoesAlike w free nothing) (imp : free' → free) (imp' : nothing → nothing') :
    GoesAlike w free' nothing' := by
  intro p q p' way rest same
  obtain ⟨q', way', rest', same'⟩ := h p q p' way rest (same.imp_right imp)
  exact ⟨q', way', rest', same'.imp_right (And.imp_right imp')⟩

/-- What stays at its place. -/
theorem stay {holds : Place → Prop}
    (h : ∀ p p' : Place, holds p → p'.rest = p.rest → (p'.before = p.before ∨ free) → holds p') :
    GoesAlike (fun p q => holds p ∧ p = q) free True := by
  rintro p _ p' ⟨here, rfl⟩ rest same
  refine ⟨p', ⟨h p p' here rest same, rfl⟩, rest, ?_⟩
  exact (Decidable.em _).imp_right fun other => ⟨other, trivial⟩

theorem still : GoesAlike Eq free True := by
  have eq : (Eq : Way) = fun p q => True ∧ p = q := by
    funext p q
    exact (true_and _).symm
  exact eq ▸ stay fun _ _ _ _ _ => trivial

theorem comp (h : GoesAlike v free nothing) (h' : GoesAlike w free' nothing') :
    GoesAlike (Relation.Comp v w) (free ∧ (nothing → free')) (nothing ∧ nothing') := by
  rintro p q p' ⟨m, front, back⟩ rest same
  obtain ⟨m', front', rest', same'⟩ := h p m p' front rest (same.imp_right And.left)
  have inner : m'.before = m.before ∨ free' :=
    same'.imp_right fun ⟨other, idle⟩ => (same.resolve_left other).2 idle
  obtain ⟨q', back', rest'', same''⟩ := h' m q m' back rest' inner
  refine ⟨q', ⟨m', front', back'⟩, rest'', same''.imp_right ?_⟩
  rintro ⟨other, idle'⟩
  obtain ⟨other, idle⟩ := same'.resolve_left other
  exact ⟨other, idle, idle'⟩

theorem times (h : GoesAlike w free nothing) (n : Nat) :
    GoesAlike (Times w n) free (n = 0 ∨ nothing) := by
  induction n with
  | zero => exact still.mono id fun _ => .inl rfl
  | succ n ih => exact (h.comp ih).mono (fun f => ⟨f, fun _ => f⟩) fun idle => .inr idle.1

end GoesAlike

/-- Whether an assertion is true depends on the text after the place, and on the character before it
only if the assertion looks behind. -/
theorem Assertion.holds_alike {a : Assertion} (holds : a.holds p) (rest : p'.rest = p.rest)
    (same : p'.before = p.before ∨ a.looksBehind = false) : a.holds p' := by
  rcases same with before | free
  · obtain ⟨index, _, _⟩ := p
    obtain ⟨index', _, _⟩ := p'
    subst rest before
    exact holds
  · cases a with
    | textEnd | lineEnd | notBeforeWord =>
      rw [Assertion.holds, rest]
      exact holds
    | _ => cases free

/-- What an expression takes does not depend on the character before, unless it looks behind. -/
theorem Expr.goesAlike (e : Expr) :
    GoesAlike e.Matches (e.looksBehind = false) (e.mayTakeNothing = true) := by
  induction e with
  | empty => exact GoesAlike.still.mono id fun _ => rfl
  | set s =>
    rintro p q p' ⟨next, member⟩ rest -
    rw [Place.next?] at next
    split at next
    · cases next
    · rename_i c cs after
      cases next
      refine ⟨⟨p'.index + 1, some c, cs⟩, ⟨?_, rest ▸ member⟩, rfl, .inl rfl⟩
      rw [Place.next?, rest, after]
  | assert a =>
    have stays : GoesAlike (fun p q => a.holds p ∧ p = q) (a.looksBehind = false) True :=
      .stay fun _ _ => Assertion.holds_alike
    exact stays.mono id fun _ => rfl
  | seq a b iha ihb =>
    refine (iha.comp ihb).mono ?_ ?_
    · intro free
      rw [looksBehind, Bool.or_eq_false_iff, Bool.and_eq_false_imp] at free
      exact free
    · rintro ⟨first, second⟩
      rw [mayTakeNothing, first, second]
      rfl
  | alt a b iha ihb =>
    rintro p q p' way rest same
    rw [looksBehind, Bool.or_eq_false_iff] at same
    rw [mayTakeNothing, Bool.or_eq_true]
    rcases way with way | way
    · obtain ⟨q', way, rest, same⟩ := iha p q p' way rest (same.imp_right And.left)
      exact ⟨q', .inl way, rest, same.imp_right (And.imp_right .inl)⟩
    · obtain ⟨q', way, rest, same⟩ := ihb p q p' way rest (same.imp_right And.right)
      exact ⟨q', .inr way, rest, same.imp_right (And.imp_right .inr)⟩
  | rounds least most greedy e ih =>
    rintro p q p' ⟨more, limit, rounds⟩ rest same
    obtain ⟨q', rounds, rest, same⟩ := ih.times (least + more) p q p' rounds rest same
    refine ⟨q', ⟨more, limit, rounds⟩, rest, same.imp_right (And.imp_right ?_)⟩
    rw [mayTakeNothing, Bool.or_eq_true, beq_iff_eq]
    exact Or.imp_left fun sum => (Nat.add_eq_zero_iff.mp sum).1
  | group number e ih => exact ih

/-- Whether an expression can take a whole text that has another one in front of it. -/
def Expr.MatchesBehind (e : Expr) (front text : List Char) : Prop :=
  ∃ q, q.rest = [] ∧ e.Matches ⟨front.length, front.getLast?, text⟩ q

/-- What is in front makes no difference if the expression does not look behind. -/
theorem Expr.matchesBehind_iff {e : Expr} (free : e.looksBehind = false)
    (front text : List Char) : e.MatchesBehind front text ↔ e.MatchesWhole text := by
  constructor
  · rintro ⟨q, atEnd, found⟩
    obtain ⟨q', found, rest, -⟩ := e.goesAlike _ q (Place.start text) found rfl (.inr free)
    exact ⟨q', rest.trans atEnd, found⟩
  · rintro ⟨q, atEnd, found⟩
    obtain ⟨q', found, rest, -⟩ :=
      e.goesAlike _ q ⟨front.length, front.getLast?, text⟩ found rfl (.inr free)
    exact ⟨q', rest.trans atEnd, found⟩

/-! ## A beginning without special characters -/

/-- The characters that mean more than themselves in a pattern.  The dot is not among them, because
it takes itself. -/
def special : List Char := ['\\', '+', '*', '?', '(', ')', '|', '[', '\x7b', '^', '$']

/-- What a character that is not special is read as. -/
def bare (c : Char) : Expr :=
  .set (if c = '.' then (CharSet.single 0xA).complement else CharSet.single c.toNat)

theorem bare_matches (i : Nat) (before : Option Char) (c : Char) (cs : List Char) (q : Place) :
    (bare c).Matches ⟨i, before, c :: cs⟩ q ↔ q = ⟨i + 1, some c, cs⟩ := by
  have member : (if c = '.' then (CharSet.single 0xA).complement
      else CharSet.single c.toNat).contains c := by
    split
    · rename_i dot
      have gaps : (CharSet.single 0xA).complement.ranges = [(0, 9), (11, CharSet.greatest)] := by
        rw [CharSet.complement, CharSet.normalize, CharSet.single, List.mergeSort_singleton]
        rfl
      rw [dot, CharSet.contains, CharSet.hasPoint, gaps]
      rfl
    · simp [CharSet.contains, CharSet.hasPoint, CharSet.single]
  constructor
  · rintro ⟨next, -⟩
    exact (Option.some.inj next).symm
  · rintro rfl
    exact ⟨rfl, c, rfl, member⟩

/-- A beginning takes itself. -/
theorem through_bare (i : Nat) (before : Option Char) (front cs : List Char) (q : Place) :
    through (front.map fun c => (bare c).Matches) ⟨i, before, front ++ cs⟩ q ↔
      q = ⟨i + front.length, front.getLast?.or before, cs⟩ := by
  induction front generalizing i before with
  | nil => exact eq_comm
  | cons c front ih =>
    have last : (c :: front).getLast?.or before = front.getLast?.or (some c) := by
      rw [List.getLast?_cons]
      rcases front.getLast? with _ | d <;> rfl
    have length : i + (c :: front).length = i + 1 + front.length := by
      rw [List.length_cons]
      omega
    rw [last, length, ← ih]
    constructor
    · rintro ⟨m, first, others⟩
      rw [List.cons_append, bare_matches] at first
      exact first ▸ others
    · intro others
      exact ⟨_, (bare_matches i before c (front ++ cs) _).mpr rfl, others⟩

/-- What comes after a beginning is taken behind it. -/
theorem exists_comp_bare_iff (e : Expr) (front text : List Char) :
    (∃ q, q.rest = [] ∧ Relation.Comp (through (front.map fun c => (bare c).Matches)) e.Matches
      (Place.start (front ++ text)) q) ↔ e.MatchesBehind front text := by
  have behind (m : Place) : through (front.map fun c => (bare c).Matches)
      (Place.start (front ++ text)) m ↔ m = ⟨front.length, front.getLast?, text⟩ := by
    rw [Place.start, through_bare, Nat.zero_add, Option.or_none]
  simp only [Relation.Comp, behind, exists_eq_left]
  rfl

/-- The reader after characters that are not special. -/
def Reader.readBare (r : Reader) (front : List Char) : Reader :=
  front.foldl (fun r c => r.push (bare c) 0) r

theorem Reader.step_bare (plain : r.flags = {}) {c : Char} (h : c ∉ special) (cs : List Char) :
    r.step c cs = .ok (r.push (bare c) 0, cs) := by
  by_cases dot : c = '.'
  · subst dot
    unfold step
    rw [plain]
    rfl
  · unfold step
    rw [plain, bare, if_neg dot]
    split
    case h_10 => exact absurd rfl dot
    case h_13 => rfl
    all_goals exact absurd (by decide) h

theorem Reader.readAll_bare (plain : r.flags = {}) {front : List Char}
    (h : ∀ c ∈ front, c ∉ special) (n : Nat) (cs : List Char) :
    r.readAll (front.length + n) (front ++ cs) = (r.readBare front).readAll n cs := by
  induction front generalizing r with
  | nil =>
    rw [List.length_nil, Nat.zero_add]
    rfl
  | cons c front ih =>
    have unskipped : r.flags.skip (c :: (front ++ cs)) = c :: (front ++ cs) := by
      rw [plain]
      rfl
    rw [List.forall_mem_cons] at h
    rw [List.length_cons, Nat.succ_add, List.cons_append, readAll_cons unskipped,
      step_bare plain h.1]
    exact ih (r := r.push (bare c) 0) plain h.2

theorem Reader.items_readBare (r : Reader) (front : List Char) :
    r.readBare front = { r with current := { r.current with
      items := (front.map fun c => ⟨some (bare c), 0⟩).reverse ++ r.current.items } } := by
  induction front generalizing r with
  | nil => rfl
  | cons c front ih =>
    rw [readBare, List.foldl_cons]
    refine (ih (r.push (bare c) 0)).trans ?_
    rw [List.map_cons, List.reverse_cons, List.append_assoc]
    rfl

/-- The items of a beginning are in front of all others. -/
theorem Reader.behind_readBare (front : List Char) :
    Reader.start.Behind (front.map fun c => (bare c).Matches) (Reader.start.readBare front) := by
  rw [items_readBare]
  refine ⟨rfl, rfl, .bottom (.reading rfl rfl rfl ?_)⟩
  show List.map Item.way ((front.map fun c => ⟨some (bare c), 0⟩).reverse ++ []) = _
  rw [List.append_nil, List.map_reverse, List.map_reverse, List.map_map, List.map_map]
  rfl

/-! ## Alternatives -/

/-- The alternatives of the pattern that a text denotes, in their order. -/
def alternatives (source : String) : Except Fault (List Expr) := do
  let r ← Reader.start.readAll (source.toList.length + 1) source.toList
  return r.current.alternatives

/-- Reading comes to an end outside of all groups. -/
theorem read_ok {cs : List Char} {e : Expr} {names : List (String × Nat)}
    (h : read cs = .ok (e, names)) :
    ∃ r, Reader.start.readAll (cs.length + 1) cs = .ok r ∧ r.outer = [] ∧
      e = r.current.finish.expr.getD .empty := by
  rw [read] at h
  rcases run : Reader.start.readAll (cs.length + 1) cs with _ | r <;> rw [run] at h
  · cases h
  have result : r.result = .ok (e, names) := h
  rw [Reader.result] at result
  split at result
  · cases result
  rename_i grouped
  dsimp only at result
  split at result
  · cases result
  · cases result
    exact ⟨r, rfl, by simpa using grouped, rfl⟩

theorem compile_ok {source : String} {t : Pattern} (h : compile source = .ok t) :
    ∃ r, Reader.start.readAll (source.toList.length + 1) source.toList = .ok r ∧ r.outer = [] ∧
      t.expr = r.current.finish.expr.getD .empty := by
  rw [compile] at h
  rcases run : read source.toList with _ | ⟨e, names⟩ <;> rw [run] at h
  · cases h
  have small : (if sizeLimit < e.size then .error .tooLarge else .ok ⟨source, e, names⟩ :
    Except Fault Pattern) = .ok t := h
  split at small
  · cases small
  · cases small
    exact read_ok run

/-- With a beginning in front, the text of a pattern has the same alternatives, except that the
first one comes behind the beginning. -/
theorem ways_behind {front : List Char} {s : Reader} (plain : ∀ c ∈ front, c ∉ special)
    (alone : Reader.start.readAll (cs.length + 1) cs = .ok s) (out : s.outer = []) :
    ∃ s' first others, Reader.start.readAll ((front ++ cs).length + 1) (front ++ cs) = .ok s' ∧
      s.current.ways = first :: others ∧
      s'.current.ways =
        Relation.Comp (through (front.map fun c => (bare c).Matches)) first :: others := by
  obtain ⟨s', run, behind⟩ := (Reader.behind_readBare front).readAll _ _ s alone
  obtain ⟨-, levels⟩ := behind.outermost out
  obtain ⟨first, others, ways, ways'⟩ := levels.ways
  refine ⟨s', first, others, ?_, ways, ways'⟩
  rw [List.length_append, Nat.add_assoc, Reader.readAll_bare rfl plain, run]

/-! ## The group of a queried pattern -/

/-- The text of the pattern that a query has for the name. -/
def queried (source : String) : String := "^(" ++ source ++ ")$"

/-- The reader inside the group. -/
def opened : Reader := (Reader.start.push (.assert .textStart) 0).enterNumbered

theorem Reader.openGroup_numbered (plain : r.flags = {}) (h : cs.head? ≠ some '?') :
    r.openGroup cs = .ok (r.enterNumbered, cs) := by
  have other (start : List Char) : Text.dropBeginning? ('?' :: start) cs = none := by
    rcases cs with _ | ⟨c, cs⟩
    · rfl
    · exact if_neg fun mark => h (congrArg some mark.symm)
  have unskipped : r.flags.skip cs = cs := by
    rw [plain]
    rfl
  rw [openGroup, unskipped]
  simp only [looksAround, nameStart?, Text.beginsWith, List.any_cons, List.any_nil, other]
  rfl

theorem readAll_opened (h : cs.head? ≠ some '?') (n : Nat) :
    Reader.start.readAll (n + 2) ('^' :: '(' :: cs) = opened.readAll n cs := by
  show (Reader.start.push (.assert .textStart) 0).readAll (n + 1) ('(' :: cs) = _
  rw [Reader.readAll_cons (show Flags.skip {} ('(' :: cs) = '(' :: cs from rfl)]
  show (Reader.openGroup _ cs >>= _) = _
  rw [Reader.openGroup_numbered rfl h]
  rfl

/-- A pattern does not begin with a question mark. -/
theorem Reader.head?_ne_of_readAll {s : Reader}
    (run : Reader.start.readAll (cs.length + 1) cs = .ok s) : cs.head? ≠ some '?' := by
  rcases cs with _ | ⟨c, cs⟩
  · exact nofun
  · intro mark
    cases mark
    cases run

/-- The group of a queried pattern has a number and that of an anchored one has none, which makes no
difference to what is read in it. -/
theorem behind_opened : opened.Behind [] (Reader.start.within anchoredLevel) :=
  ⟨rfl, rfl, .inner (.reading rfl rfl rfl rfl) (.bottom (.reading rfl rfl rfl rfl))⟩

theorem queried_toList (source : String) :
    (queried source).toList = '^' :: '(' :: (source.toList ++ [')', '$']) := by
  rw [queried, String.toList_append, String.toList_append]
  rfl

/-- A queried pattern matches what the text that was put into it takes as a whole. -/
theorem isMatch_queried {source : String} {s : Reader} {q : Pattern}
    (alone : Reader.start.readAll (source.toList.length + 1) source.toList = .ok s)
    (h : compile (queried source) = .ok q) (value : String) :
    q.isMatch value ↔ ∃ e ∈ s.current.alternatives, e.MatchesWhole value.toList := by
  obtain ⟨r, run, out, expr⟩ := compile_ok h
  have mark : (source.toList ++ [')', '$']).head? ≠ some '?' := by
    have mark := Reader.head?_ne_of_readAll alone
    rw [List.head?_append]
    generalize source.toList.head? = first at mark
    rcases first with _ | c
    · decide
    · exact mark
  rw [queried_toList, List.length_cons, List.length_cons] at run
  have run : opened.readAll _ (source.toList ++ [')', '$']) = .ok r := readAll_opened mark _ ▸ run
  obtain ⟨r', run', behind⟩ := behind_opened.readAll _ _ r run
  obtain ⟨out', levels⟩ := behind.outermost out
  have longer : (source.toList ++ [')', '$']).length <
      (source.toList ++ [')', '$']).length + 1 := Nat.lt_succ_self _
  obtain unopened | ⟨s', m, alone', bottom, enough, ending⟩ :=
    Reader.readAll_within anchoredLevel (extended_ending _) (Nat.lt_succ_self _) longer run' out'
  · rw [alone] at unopened
    cases unopened
  · cases alone.symm.trans alone'
    obtain ⟨-, -, expr', -⟩ := readAll_ending enough bottom ending out'
    have same : q.expr.Matches = (s.current.finish.expr.getD .empty).anchored.Matches := by
      rw [expr, ← levels.finish, expr']
      rfl
    rw [isMatch, Expr.isMatch_congr same, Expr.anchored, Expr.isMatch_anchored,
      Level.matchesWhole_finish]

end Pattern

open Pattern in
/-- What a tag query asks for with a pattern for the metric name.  Its own pattern has the beginning
and the pattern's text in one group, and it matches what the two denote as one text.  A beginning
without special characters goes with the first alternative: a stored name is matched if that takes
the name behind the beginning, or if another alternative takes the beginning and the name together,
while the pattern matches a name if one of its alternatives takes it.  The two agree if there is no
beginning, or if there are no other alternatives and the first one does not look behind. -/
theorem tagExpression_finds_names {beginning source : String} {t a q : Pattern}
    (valid : compile source = .ok t) (anchored : Pattern.anchored source = .ok a)
    (written : compile (queried (beginning ++ source)) = .ok q) :
    Matcher.tagExpression beginning ⟨LabelSet.nameLabel, .regex, source⟩ =
        "\"name=~" ++ queried (beginning ++ source) ++ "\"" ∧
      (∀ joined, compile (beginning ++ source) = .ok joined →
        ∀ stored, q.isMatch stored ↔ joined.expr.MatchesWhole stored.toList) ∧
      ((∀ c ∈ beginning.toList, c ∉ special) →
        ∃ first others, alternatives source = .ok (first :: others) ∧
          (∀ name,
            (a.isMatch name ↔ first.MatchesWhole name.toList ∨
              ∃ e ∈ others, e.MatchesWhole name.toList) ∧
            (q.isMatch (beginning ++ name) ↔ first.MatchesBehind beginning.toList name.toList ∨
              ∃ e ∈ others, e.MatchesWhole (beginning ++ name).toList)) ∧
          (beginning = "" ∨ others = [] ∧ first.looksBehind = false →
            ∀ name, q.isMatch (beginning ++ name) ↔ a.isMatch name)) := by
  refine ⟨?_, fun joined compiled stored => ?_, fun plain => ?_⟩
  · rw [Matcher.tagExpression, queried, ← String.toList_inj]
    simp only [if_true, String.toList_append, List.append_assoc]
    rfl
  · obtain ⟨s, run, -, expr⟩ := compile_ok compiled
    rw [isMatch_queried run written, expr, Level.matchesWhole_finish]
  · obtain ⟨s, run, out, expr⟩ := compile_ok valid
    obtain ⟨s', way, ways, run', eq, eq'⟩ := ways_behind plain run out
    obtain ⟨first, others, alts, rfl, rfl⟩ := List.map_eq_cons_iff.mp eq
    have names (name : String) : a.isMatch name ↔ first.MatchesWhole name.toList ∨
        ∃ e ∈ others, e.MatchesWhole name.toList := by
      have opened : compile source ≠ .error .unopenedGroup := by
        rw [valid]
        rintro ⟨⟩
      rw [isMatch_anchored_iff anchored opened, takesWhole_iff valid, expr,
        Level.matchesWhole_finish, alts, List.exists_mem_cons_iff]
    have stored (name : String) : q.isMatch (beginning ++ name) ↔
        first.MatchesBehind beginning.toList name.toList ∨
          ∃ e ∈ others, e.MatchesWhole (beginning ++ name).toList := by
      rw [← String.toList_append] at run'
      rw [isMatch_queried run' written, ← exists_way_iff, ← Level.ways, eq',
        List.exists_mem_cons_iff, exists_way_iff, String.toList_append, exists_comp_bare_iff]
    refine ⟨first, others, ?_, fun name => ⟨names name, stored name⟩, ?_⟩
    · rw [alternatives, run]
      exact congrArg Except.ok alts
    · rintro (rfl | ⟨rfl, free⟩) name
      · rw [stored, names, String.empty_append]
        rfl
      · rw [stored, names, Expr.matchesBehind_iff free]
        simp

open Pattern in
/-- One alternative, with others inside of it only: the stored names that the query finds are those
of the names that the pattern takes. -/
theorem tagExpression_finds_names_group :
    ∃ t a q, compile "up(_a|_b)*" = .ok t ∧ Pattern.anchored "up(_a|_b)*" = .ok a ∧
      compile (queried ("prod." ++ "up(_a|_b)*")) = .ok q ∧
      (∀ name, q.isMatch ("prod." ++ name) ↔ a.isMatch name) ∧ q.isMatch "prod.up_a" := by
  obtain ⟨t, valid⟩ : ∃ t, compile "up(_a|_b)*" = .ok t := ⟨_, rfl⟩
  obtain ⟨a, anchored⟩ : ∃ a, Pattern.anchored "up(_a|_b)*" = .ok a := ⟨_, rfl⟩
  obtain ⟨e, one, free⟩ : ∃ e, alternatives "up(_a|_b)*" = .ok [e] ∧ e.looksBehind = false :=
    ⟨_, rfl, rfl⟩
  have found : (compile (queried ("prod." ++ "up(_a|_b)*"))).map (·.isMatch "prod.up_a") =
      .ok true := by decide +kernel
  rcases written : compile (queried ("prod." ++ "up(_a|_b)*")) with _ | q <;> rw [written] at found
  · cases found
  obtain ⟨-, -, names⟩ := tagExpression_finds_names valid anchored written
  obtain ⟨first, others, all, -, agree⟩ := names (by simp [special])
  cases one.symm.trans all
  exact ⟨t, a, q, valid, anchored, rfl, agree (.inr ⟨rfl, free⟩), Except.ok.inj found⟩

open Pattern in
/-- With two alternatives the beginning goes with the first one: the pattern takes `down`, but the
query does not find `prod.down`.  And a beginning with a special character does not take itself: the
pattern takes `up`, but the query does not find `a+.up`. -/
theorem tagExpression_misses_names :
    Matcher.tagExpression "prod." ⟨LabelSet.nameLabel, .regex, "up|down"⟩ =
        "\"name=~^(prod.up|down)$\"" ∧
      (Pattern.anchored "up|down").map (·.isMatch "down") = .ok true ∧
      (compile "^(prod.up|down)$").map (·.isMatch "prod.down") = .ok false ∧
      Matcher.tagExpression "a+." ⟨LabelSet.nameLabel, .regex, "up"⟩ = "\"name=~^(a+.up)$\"" ∧
      (Pattern.anchored "up").map (·.isMatch "up") = .ok true ∧
      (compile "^(a+.up)$").map (·.isMatch "a+.up") = .ok false :=
  ⟨rfl, rfl, by decide +kernel, rfl, rfl, by decide +kernel⟩

end MetricPath
