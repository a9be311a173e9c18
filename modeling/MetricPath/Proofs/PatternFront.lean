import MetricPath.Pattern.Parser
import MetricPath.Proofs.PatternMatching

/-!
# Text in front of a pattern

What the reader does with a text depends on what the items before it take, and not on how they are
written or which numbers their groups have.  So two readers of one text go on in lockstep if what
they have read takes the same (`Reader.Behind.readAll` with nothing in front).

The same holds if one of them has read more at the beginning.  What it has read in front belongs to
the first alternative of the whole and to no other one: `Level.Behind` says so of the outermost
level, and at the end of the text the first alternative is the one way after the other, while the
others are as they were (`Level.Behind.ways`).
-/

namespace MetricPath.Pattern

/-! ## Ways -/

/-- Which places lead to which. -/
abbrev Way := Place → Place → Prop

/-- Some ways, one after the other. -/
def through (ws : List Way) : Way := ws.foldr Relation.Comp Eq

theorem through_append (front back : List Way) :
    through (front ++ back) = Relation.Comp (through front) (through back) := by
  induction front with
  | nil => exact Relation.eq_comp.symm
  | cons w front ih =>
    show Relation.Comp w (through (front ++ back)) = _
    rw [ih]
    exact Relation.comp_assoc.symm

theorem through_singleton (w : Way) : through [w] = w := Relation.comp_eq

theorem Expr.matches_seqAll (es : List Expr) :
    (seqAll es).Matches = through (es.map Expr.Matches) := by
  induction es with
  | nil => rfl
  | cons e es ih =>
    rcases es with _ | ⟨d, es⟩
    · exact (through_singleton e.Matches).symm
    · show Relation.Comp e.Matches (seqAll (d :: es)).Matches = _
      rw [ih]
      rfl

theorem Expr.matches_altAll {es : List Expr} (nonempty : es ≠ []) :
    (altAll es).Matches = fun p q => ∃ w ∈ es.map Expr.Matches, w p q := by
  induction es with
  | nil => exact absurd rfl nonempty
  | cons e es ih =>
    funext p q
    rcases es with _ | ⟨d, es⟩
    · simp [altAll]
    · show (e.Matches p q ∨ (altAll (d :: es)).Matches p q) = _
      rw [ih (List.cons_ne_nil d es)]
      simp

/-- Searching depends on what an expression takes only. -/
theorem Expr.isMatch_congr {e e' : Expr} (same : e.Matches = e'.Matches) {text : List Char} :
    e.isMatch text ↔ e'.isMatch text := by
  rw [isMatch_iff, isMatch_iff, same]

theorem exists_way_iff (es : List Expr) (text : List Char) :
    (∃ w ∈ es.map Expr.Matches, ∃ q, q.rest = [] ∧ w (Place.start text) q) ↔
      ∃ e ∈ es, e.MatchesWhole text := by
  constructor
  · rintro ⟨w, among, whole⟩
    obtain ⟨e, mem, rfl⟩ := List.mem_map.mp among
    exact ⟨e, mem, whole⟩
  · rintro ⟨e, mem, whole⟩
    exact ⟨e.Matches, List.mem_map_of_mem mem, whole⟩

theorem Expr.matches_getD (x : Option Expr) :
    (x.getD .empty).Matches = (x.map Expr.Matches).getD Eq := by
  rcases x <;> rfl

/-! ## What a level takes -/

/-- What an item takes, if it is more than a change of flags. -/
def Item.way (i : Item) : Option Way := i.expr.map Expr.Matches

namespace Level

variable {l l' : Level} {i i' : Item} {front : List Way}

theorem filterMap_way (items : List Item) :
    items.filterMap Item.way = (items.filterMap Item.expr).map Expr.Matches := by
  rw [List.map_filterMap]
  rfl

/-- What the items of a branch take, one after the other; the list begins with the latest. -/
def taken (items : List (Option Way)) : Way := through (items.reverse.filterMap id)

theorem taken_append (items : List (Option Way)) (front : List Way) :
    taken (items ++ front.reverse.map some) = Relation.Comp (through front) (taken items) := by
  have front : (front.reverse.map some).reverse.filterMap id = front := by
    rw [← List.map_reverse, List.reverse_reverse, List.filterMap_map]
    exact List.filterMap_some
  rw [taken, List.reverse_append, List.filterMap_append, front, through_append]
  rfl

theorem branch_way (l : Level) : l.branch.way = some (taken (l.items.map Item.way)) := by
  have all : taken (l.items.map Item.way) = through (l.items.reverse.filterMap Item.way) := by
    rw [taken, ← List.map_reverse, List.filterMap_map]
    rfl
  rw [all, branch]
  split
  · rename_i none
    rw [none]
    rfl
  · rename_i i one
    obtain ⟨_ | e, depth⟩ := i
    · rw [one]
      rfl
    · rw [one]
      exact congrArg some (through_singleton e.Matches).symm
  · rw [filterMap_way, ← Expr.matches_seqAll]
    rfl

/-- The branches of a level, the first one first. -/
def alternatives (l : Level) : List Expr := (l.branch :: l.branches).reverse.filterMap Item.expr

/-- What the branches of a level take. -/
def ways (l : Level) : List Way := l.alternatives.map Expr.Matches

theorem ways_eq (l : Level) :
    l.ways = (l.branches.map Item.way).reverse.filterMap id ++ [taken (l.items.map Item.way)] := by
  rw [ways, alternatives, ← filterMap_way, List.reverse_cons, List.filterMap_append,
    List.filterMap_cons_some l.branch_way, ← List.map_reverse, List.filterMap_map]
  rfl

/-- A group takes what one of its branches takes. -/
theorem finish_way (l : Level) : l.finish.way = some fun p q => ∃ w ∈ l.ways, w p q := by
  rw [finish]
  split
  · rename_i none
    rw [ways_eq, none, branch_way]
    simp
  · rw [ways, ← Expr.matches_altAll]
    · rfl
    · intro none
      have empty : l.ways = [] := congrArg (List.map Expr.Matches) none
      rw [ways_eq] at empty
      exact List.append_ne_nil_of_right_ne_nil _ (List.cons_ne_nil _ _) empty

theorem matches_finish (l : Level) :
    (l.finish.expr.getD .empty).Matches = fun p q => ∃ w ∈ l.ways, w p q := by
  rw [Expr.matches_getD]
  exact congrArg (Option.getD · Eq) l.finish_way

/-- A group takes a whole text if one of its branches does. -/
theorem matchesWhole_finish (l : Level) (text : List Char) :
    (l.finish.expr.getD .empty).MatchesWhole text ↔ ∃ e ∈ l.alternatives, e.MatchesWhole text := by
  rw [Expr.MatchesWhole, l.matches_finish, ← exists_way_iff, ← ways]
  constructor
  · rintro ⟨q, atEnd, w, among, found⟩
    exact ⟨w, among, q, atEnd, found⟩
  · rintro ⟨w, among, q, atEnd, found⟩
    exact ⟨q, atEnd, w, among, found⟩

/-! ## More at the beginning of a level -/

/-- The second level takes what the first one takes, with some ways in front of its first branch:
that is the branch being read, or the oldest of those that are finished. -/
inductive Behind (front : List Way) (l l' : Level) : Prop
  | reading (outside : l'.outside = l.outside)
      (branches : l.branches = []) (branches' : l'.branches = [])
      (items : l'.items.map Item.way = l.items.map Item.way ++ front.reverse.map some)
  | finished (outside : l'.outside = l.outside) (later : List (Option Way)) (first : Way)
      (branches : l.branches.map Item.way = later ++ [some first])
      (branches' : l'.branches.map Item.way =
        later ++ [some (Relation.Comp (through front) first)])
      (items : l'.items.map Item.way = l.items.map Item.way)

namespace Behind

theorem outside (h : Behind front l l') : l'.outside = l.outside := by
  cases h with
  | reading outside => exact outside
  | finished outside => exact outside

theorem add (h : Behind front l l') (same : i'.way = i.way) :
    Behind front { l with items := i :: l.items } { l' with items := i' :: l'.items } := by
  cases h with
  | reading outside branches branches' items =>
    refine .reading outside branches branches' ?_
    rw [List.map_cons, List.map_cons, items, same]
    rfl
  | finished outside later first branches branches' items =>
    refine .finished outside later first branches branches' ?_
    rw [List.map_cons, List.map_cons, items, same]

/-- A branch is finished. -/
theorem bar (h : Behind front l l') :
    Behind front { l with branches := l.branch :: l.branches, items := [] }
      { l' with branches := l'.branch :: l'.branches, items := [] } := by
  cases h with
  | reading outside branches branches' items =>
    refine .finished outside [] (taken (l.items.map Item.way)) ?_ ?_ rfl
    · rw [List.map_cons, branch_way, branches]
      rfl
    · rw [List.map_cons, branch_way, branches', items, taken_append]
      rfl
  | finished outside later first branches branches' items =>
    refine .finished outside (l.branch.way :: later) first ?_ ?_ rfl
    · rw [List.map_cons, branches, List.cons_append]
    · rw [List.map_cons, branches', branch_way, branch_way, items, List.cons_append]

/-- The last item can be replaced. -/
theorem last {e : Expr} {depth : Nat} {items : List Item} (h : Behind front l l')
    (last : l.items = ⟨some e, depth⟩ :: items) :
    ∃ e' depth' items', l'.items = ⟨some e', depth'⟩ :: items' ∧ e'.Matches = e.Matches ∧
      ∀ i i' : Item, i'.way = i.way →
        Behind front { l with items := i :: items } { l' with items := i' :: items' } := by
  have split {back : List (Option Way)} (ways : l'.items.map Item.way = some e.Matches :: back) :
      ∃ e' depth' items', l'.items = ⟨some e', depth'⟩ :: items' ∧ e'.Matches = e.Matches ∧
        items'.map Item.way = back := by
    obtain ⟨⟨x, depth'⟩, items', eq, way, back⟩ := List.map_eq_cons_iff.mp ways
    obtain ⟨e', rfl, same⟩ := Option.map_eq_some_iff.mp way
    exact ⟨e', depth', items', eq, same, back⟩
  cases h with
  | reading outside branches branches' ways =>
    rw [last] at ways
    obtain ⟨e', depth', items', eq, same, back⟩ := split ways
    have before : Behind front { l with items } { l' with items := items' } :=
      .reading outside branches branches' back
    exact ⟨e', depth', items', eq, same, fun _ _ way => before.add way⟩
  | finished outside later first branches branches' ways =>
    rw [last] at ways
    obtain ⟨e', depth', items', eq, same, back⟩ := split ways
    have before : Behind front { l with items } { l' with items := items' } :=
      .finished outside later first branches branches' back
    exact ⟨e', depth', items', eq, same, fun _ _ way => before.add way⟩

/-- The first branch has the ways in front, and the others are the same. -/
theorem ways (h : Behind front l l') :
    ∃ first others, l.ways = first :: others ∧
      l'.ways = Relation.Comp (through front) first :: others := by
  cases h with
  | reading outside branches branches' items =>
    refine ⟨taken (l.items.map Item.way), [], ?_, ?_⟩
    · rw [ways_eq, branches]
      rfl
    · rw [ways_eq, branches', items, taken_append]
      rfl
  | finished outside later first branches branches' items =>
    refine ⟨first, later.reverse.filterMap id ++ [taken (l.items.map Item.way)], ?_, ?_⟩
    · rw [ways_eq, branches, List.reverse_append]
      rfl
    · rw [ways_eq, branches', items, List.reverse_append]
      rfl

/-- With nothing in front, a group takes the same. -/
theorem finish (h : Behind [] l l') :
    (l'.finish.expr.getD .empty).Matches = (l.finish.expr.getD .empty).Matches := by
  obtain ⟨first, others, eq, eq'⟩ := h.ways
  have same : Relation.Comp (through []) first = first := Relation.eq_comp
  rw [matches_finish, matches_finish, eq, eq', same]

end Behind

end Level

/-! ## Readers in lockstep -/

/-- The levels of two readers take the same, except that at the bottom the second one has some ways
in front. -/
inductive Stacked (front : List Way) : List Level → List Level → Prop
  | bottom {l l' : Level} (h : l.Behind front l') : Stacked front [l] [l']
  | inner {l l' : Level} {below below' : List Level} (h : l.Behind [] l')
      (others : Stacked front below below') : Stacked front (l :: below) (l' :: below')

/-- The second reader has read what the first one has, with some ways in front at the beginning. -/
structure Reader.Behind (front : List Way) (r r' : Reader) : Prop where
  flags : r'.flags = r.flags
  names : r'.names.map Prod.fst = r.names.map Prod.fst
  levels : Stacked front (r.current :: r.outer) (r'.current :: r'.outer)

/-- If the first computation succeeds, then so does the second one, and the results are related. -/
def Carries {α β : Type} (R : α → β → Prop) (x : Except Fault α) (y : Except Fault β) : Prop :=
  ∀ a, x = .ok a → ∃ b, y = .ok b ∧ R a b

namespace Carries

variable {α β γ δ : Type} {R : α → β → Prop} {S : γ → δ → Prop} {x : Except Fault α}
  {y : Except Fault β}

theorem error (e : Fault) (y : Except Fault β) : Carries R (.error e) y := fun _ h => by cases h

theorem ok {a : α} {b : β} (h : R a b) : Carries R (.ok a) (.ok b) := fun _ eq => by
  cases eq
  exact ⟨b, rfl, h⟩

theorem bind {k : α → Except Fault γ} {k' : β → Except Fault δ} (h : Carries R x y)
    (each : ∀ a b, R a b → Carries S (k a) (k' b)) : Carries S (x >>= k) (y >>= k') := by
  rcases x with e | a
  · exact error e _
  · obtain ⟨b, rfl, related⟩ := h a rfl
    exact each a b related

/-- Both computations begin with the same one. -/
theorem after (x : Except Fault α) {k : α → Except Fault γ} {k' : α → Except Fault δ}
    (each : ∀ a, Carries S (k a) (k' a)) : Carries S (x >>= k) (x >>= k') := by
  rcases x with e | a
  · exact error e _
  · exact each a

end Carries

/-- Two readers that go on with the same text. -/
def Lockstep (front : List Way) (p p' : Reader × List Char) : Prop :=
  p'.2 = p.2 ∧ p.1.Behind front p'.1

namespace Reader

variable {front : List Way} {r r' : Reader}

namespace Behind

/-- The innermost levels can be replaced by others that take the same. -/
theorem current (h : Behind front r r') :
    ∃ own : List Way, r.current.Behind own r'.current ∧
      ∀ l l' : Level, l.Behind own l' → Stacked front (l :: r.outer) (l' :: r'.outer) := by
  obtain ⟨-, -, levels⟩ := h
  generalize r.outer = outer at levels
  generalize r'.outer = outer' at levels
  cases levels with
  | bottom h => exact ⟨front, h, fun _ _ => .bottom⟩
  | inner h others => exact ⟨[], h, fun _ _ h => .inner h others⟩

/-- Outside of all groups, the first alternative has the ways in front. -/
theorem outermost (h : Behind front r r') (out : r.outer = []) :
    r'.outer = [] ∧ r.current.Behind front r'.current := by
  obtain ⟨-, -, levels⟩ := h
  rw [out] at levels
  generalize r'.outer = outer' at levels
  cases levels with
  | bottom h => exact ⟨rfl, h⟩
  | inner h others => cases others

/-- Readers read on. -/
theorem read {e e' : Expr} (h : Behind front r r') (same : e'.Matches = e.Matches)
    (depth depth' : Nat) : Behind front (r.push e depth) (r'.push e' depth') := by
  obtain ⟨own, levels, replaced⟩ := h.current
  exact ⟨h.flags, h.names, replaced _ _ (levels.add (congrArg some same))⟩

theorem push (h : Behind front r r') (e : Expr) (depth : Nat) :
    Behind front (r.push e depth) (r'.push e depth) := h.read rfl depth depth

theorem enterNumbered (h : Behind front r r') :
    Behind front r.enterNumbered r'.enterNumbered where
  flags := h.flags
  names := h.names
  levels := .inner (.reading h.flags rfl rfl rfl) h.levels

theorem enter (h : Behind front r r') (inside : Flags) (number number' : Option Nat) :
    Behind front (r.enter inside number) (r'.enter inside number') where
  flags := rfl
  names := h.names
  levels := .inner (.reading h.flags rfl rfl rfl) h.levels

theorem leave (h : Behind front r r') : Carries (Behind front) r.leave r'.leave := by
  obtain ⟨-, names, levels⟩ := h
  rw [Reader.leave, Reader.leave]
  generalize r.outer = outer at levels
  generalize r'.outer = outer' at levels
  cases levels with
  | bottom => exact .error _ _
  | inner h others =>
    rcases outer with _ | ⟨level, outer⟩
    · cases others
    rcases outer' with _ | ⟨level', outer'⟩
    · cases others
    have below : Behind front { r with flags := r.current.outside, current := level, outer }
      { r' with flags := r'.current.outside, current := level', outer := outer' } :=
      ⟨h.outside, names, others⟩
    have same := h.finish
    refine .ok (below.read ?_ _ _)
    -- whether a group has a number makes no difference to what it takes
    rcases r.current.number with _ | _ <;> rcases r'.current.number with _ | _ <;> exact same

theorem enterNamed (h : Behind front r r') (name : String) :
    Carries (Behind front) (r.enterNamed name) (r'.enterNamed name) := by
  have same : (r'.names.any fun n => n.1 = name) = r.names.any fun n => n.1 = name := by
    have any (names : List (String × Nat)) :
        (names.any fun n => n.1 = name) = (names.map Prod.fst).any (· = name) := by
      rw [List.any_map]
      rfl
    rw [any, any, h.names]
  rw [Reader.enterNamed, Reader.enterNamed, same]
  split_ifs
  · exact .error _ _
  · refine .ok ⟨h.flags, ?_, h.enterNumbered.levels⟩
    rw [List.map_append, List.map_append, h.names]
    rfl

theorem setFlags (h : Behind front r r') (flags : Flags) (used : List Char) (colon : Bool) :
    Carries (Behind front) (r.setFlags flags used colon) (r'.setFlags flags used colon) := by
  rw [Reader.setFlags, Reader.setFlags]
  split_ifs
  · exact .ok (h.enter flags none none)
  · exact .error _ _
  · obtain ⟨own, levels, replaced⟩ := h.current
    exact .ok ⟨rfl, h.names, replaced _ _ (levels.add rfl)⟩

theorem openGroup (h : Behind front r r') (cs : List Char) :
    Carries (Lockstep front) (r.openGroup cs) (r'.openGroup cs) := by
  rw [Reader.openGroup, Reader.openGroup, h.flags]
  dsimp only
  split_ifs
  · exact .error _ _
  · split
    · exact .after _ fun p => (h.enterNamed p.1).bind fun _ _ h => .ok ⟨rfl, h⟩
    · split
      · exact .after _ fun p => (h.setFlags _ _ _).bind fun _ _ h => .ok ⟨rfl, h⟩
      · exact .ok ⟨rfl, h.enterNumbered⟩

theorem rounds (h : Behind front r r') (least : Nat) (most : Option Nat) (marked : Bool) :
    Carries (Behind front) (r.rounds least most marked) (r'.rounds least most marked) := by
  obtain ⟨own, levels, replaced⟩ := h.current
  rw [Reader.rounds, Reader.rounds]
  split
  · rename_i e depth items last
    obtain ⟨e', depth', items', last', same, levels⟩ := levels.last last
    rw [last', h.flags]
    refine .ok ⟨rfl, h.names, replaced _ _ (levels _ _ (congrArg some ?_))⟩
    split
    · rfl
    · exact same
    · funext p q
      rw [Expr.Matches, Expr.Matches, same]
  · exact .error _ _

theorem repeated (h : Behind front r r') (least : Nat) (most : Option Nat) (cs : List Char) :
    Carries (Lockstep front) (r.repeated least most cs) (r'.repeated least most cs) :=
  (h.rounds least most _).bind fun _ _ h => .ok ⟨rfl, h⟩

theorem pushAtom (h : Behind front r r') (a : Atom) :
    Behind front (r.pushAtom a) (r'.pushAtom a) := by
  rcases a with c | s | a
  · rw [Reader.pushAtom, Reader.pushAtom, h.flags]
    exact h.push _ 0
  · exact h.push _ 0
  · exact h.push _ 0

/-- Readers take a step together. -/
theorem step (h : Behind front r r') (c : Char) (cs : List Char) :
    Carries (Lockstep front) (r.step c cs) (r'.step c cs) := by
  unfold Reader.step
  rw [h.flags]
  split
  · exact h.openGroup cs
  · exact h.leave.bind fun _ _ h => .ok ⟨rfl, h⟩
  · obtain ⟨own, levels, replaced⟩ := h.current
    exact .ok ⟨rfl, rfl, h.names, replaced _ _ levels.bar⟩
  · exact .after _ fun p => .ok ⟨rfl, h.push _ 2⟩
  · exact h.repeated _ _ cs
  · exact h.repeated _ _ cs
  · exact h.repeated _ _ cs
  · split
    · rename_i e depth items last
      obtain ⟨own, levels, -⟩ := h.current
      obtain ⟨e', depth', items', last', -, -⟩ := levels.last last
      rw [last']
      exact .after _ fun p => h.repeated p.1.1 p.1.2 _
    · exact .error _ _
  · exact .after _ fun p => .ok ⟨rfl, h.pushAtom p.1⟩
  · exact .after _ fun e => .ok ⟨rfl, h.push e 0⟩
  · exact .ok ⟨rfl, h.push _ 0⟩
  · exact .ok ⟨rfl, h.push _ 0⟩
  · exact .ok ⟨rfl, h.push _ 0⟩

/-- Readers go through a text together. -/
theorem readAll (h : Behind front r r') (n : Nat) (cs : List Char) :
    Carries (Behind front) (r.readAll n cs) (r'.readAll n cs) := by
  induction n generalizing r r' cs with
  | zero => exact .ok h
  | succ n ih =>
    rw [Reader.readAll, Reader.readAll, h.flags]
    split
    · exact .ok h
    · refine (h.step _ _).bind ?_
      rintro ⟨s, rest⟩ ⟨s', rest'⟩ ⟨rfl, h⟩
      exact ih h rest'

end Behind

end Reader

end MetricPath.Pattern
