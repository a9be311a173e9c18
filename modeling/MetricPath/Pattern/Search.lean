import MetricPath.Pattern.Expr

/-!
# Searching

`Expr.run` lists the ways in which an expression can take a part of the text from a given place on,
the preferred one first.  What follows an expression depends only on where it ends, so of several
ways that end in one place only the first is kept; that bounds the list by the length of the text.

A match of an expression in a text is the first way from the leftmost place that has one.
-/

namespace MetricPath.Pattern

/-- A way through a part of the text: where it has got to, and the extents of the groups it has
closed, latest first. -/
structure Thread where
  place : Place
  groups : List (Nat × Nat × Nat)
deriving DecidableEq, Repr

/-- The list without threads that end where an earlier one, or one of `seen`, ends. -/
def firstArrivals (seen : List Nat) : List Thread → List Thread
  | [] => []
  | t :: ts =>
    if t.place.index ∈ seen then firstArrivals seen ts
    else t :: firstArrivals (t.place.index :: seen) ts

/-- Further rounds of `step` from the threads `ends` of one round.  A thread that ends where an
earlier one ended is dropped, one that has taken nothing since `origin` goes no further, and any
other begins another round.  Returned are the threads in order of preference and the places seen.
The number bounds the depth; every further round takes a character. -/
def moreRounds (step : Thread → List Thread) (greedy : Bool) :
    Nat → (origin : Nat) → (seen : List Nat) → (ends : List Thread) → List Thread × List Nat
  | 0, _, seen, _ => ([], seen)
  | depth + 1, origin, seen, ends =>
    ends.foldl
      (fun (out, seen) t =>
        if t.place.index ∈ seen then (out, seen)
        else
          let seen := t.place.index :: seen
          if t.place.index ≤ origin then (out ++ [t], seen)
          else
            let (more, seen) := moreRounds step greedy depth t.place.index seen (step t)
            (out ++ (if greedy then more ++ [t] else t :: more), seen))
      ([], seen)

/-- At least one round. -/
def oneOrMore (step : Thread → List Thread) (greedy : Bool) (t : Thread) : List Thread :=
  (moreRounds step greedy (t.place.rest.length + 1) t.place.index [] (step t)).1

/-- Any number of rounds. -/
def zeroOrMore (step : Thread → List Thread) (greedy : Bool) (t : Thread) : List Thread :=
  firstArrivals [] <|
    if greedy then oneOrMore step greedy t ++ [t] else t :: oneOrMore step greedy t

/-- At most as many rounds as the number says.  A thread that ends a round where an earlier one
ended it with as many rounds left is dropped: `seen` lists those pairs.  Returned are the threads in
order of preference and the pairs seen. -/
def upTo (step : Thread → List Thread) (greedy : Bool) :
    Nat → (seen : List (Nat × Nat)) → Thread → List Thread × List (Nat × Nat)
  | 0, seen, t => ([t], seen)
  | n + 1, seen, t =>
    if (n, t.place.index) ∈ seen then ([], seen)
    else
      let (more, seen) :=
        (step t).foldl
          (fun (out, seen) u =>
            let (more, seen) := upTo step greedy n seen u
            (out ++ more, seen))
          ([], (n, t.place.index) :: seen)
      (if greedy then more ++ [t] else t :: more, seen)

/-- At most `n` rounds. -/
def atMost (step : Thread → List Thread) (greedy : Bool) (n : Nat) (t : Thread) : List Thread :=
  (upTo step greedy n [] t).1

/-- Exactly `n` rounds from each of the threads. -/
def exactly (step : Thread → List Thread) : Nat → List Thread → List Thread
  | 0, ts => ts
  | n + 1, ts =>
    if ts.isEmpty then [] else exactly step n (firstArrivals [] (ts.flatMap step))

/-- The rounds of a repetition. -/
def repeated (step : Thread → List Thread) (least : Nat) (most : Option Nat) (greedy : Bool)
    (t : Thread) : List Thread :=
  match most with
  | some m => firstArrivals [] ((exactly step least [t]).flatMap (atMost step greedy (m - least)))
  | none =>
    match least with
    | 0 => zeroOrMore step greedy t
    | n + 1 => firstArrivals [] ((exactly step n [t]).flatMap (oneOrMore step greedy))

/-- The ways in which an expression can go on from a thread, the preferred one first. -/
def Expr.run : Expr → Thread → List Thread
  | .empty, t => [t]
  | .set s, t =>
    match t.place.rest with
    | [] => []
    | c :: cs =>
      if s.contains c then [{ t with place := ⟨t.place.index + 1, some c, cs⟩ }] else []
  | .assert a, t => if a.holds t.place then [t] else []
  | .seq a b, t => firstArrivals [] ((a.run t).flatMap b.run)
  | .alt a b, t => firstArrivals [] (a.run t ++ b.run t)
  | .rounds least most greedy e, t => repeated e.run least most greedy t
  | .group number e, t =>
    (e.run t).map fun u =>
      { u with groups := (number, t.place.index, u.place.index) :: u.groups }

/-! ## Matches -/

/-- A match: where it begins and ends, and the extents of its groups. -/
structure Match where
  start : Nat
  place : Place
  groups : List (Nat × Nat × Nat)
deriving DecidableEq, Repr

/-- The preferred way from a place, as a match. -/
def Expr.matchAt? (e : Expr) (p : Place) : Option Match :=
  (e.run ⟨p, []⟩).head?.map fun t => ⟨p.index, t.place, t.groups⟩

/-- The leftmost match from a place on; `rest` is the text after `before`. -/
def Expr.findFrom? (e : Expr) (index : Nat) (before : Option Char) :
    (rest : List Char) → Option Match
  | [] => e.matchAt? ⟨index, before, []⟩
  | c :: cs =>
    match e.matchAt? ⟨index, before, c :: cs⟩ with
    | some m => some m
    | none => e.findFrom? (index + 1) (some c) cs

/-- The leftmost match from a place on. -/
def Expr.find? (e : Expr) (p : Place) : Option Match := e.findFrom? p.index p.before p.rest

/-- Whether an expression matches somewhere in a text. -/
def Expr.isMatch (e : Expr) (text : List Char) : Bool := (e.find? (Place.start text)).isSome

/-- The matches from a place on, from left to right without overlap.  An empty match right after the
one before does not count.  The number bounds the search; every second match takes a character. -/
def Expr.findAll (e : Expr) : Nat → (last : Option Nat) → Place → List Match
  | 0, _, _ => []
  | bound + 1, last, p =>
    match e.find? p with
    | none => []
    | some m =>
      if m.start = m.place.index && last = some m.place.index then
        match p.next? with
        | none => []
        | some q => e.findAll bound last q
      else m :: e.findAll bound (some m.place.index) m.place

/-- All matches in a text. -/
def Expr.matchesIn (e : Expr) (text : List Char) : List Match :=
  e.findAll (2 * text.length + 2) none (Place.start text)

end MetricPath.Pattern
