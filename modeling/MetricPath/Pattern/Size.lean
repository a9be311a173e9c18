import MetricPath.Pattern.Parser

/-!
# The size of a pattern

A pattern is held to a limit on the size of the machine that a repetition by copying would need.
The size is that of the machine's states, which take as much room as `stateSize` says, and of the
transitions that a state with several ones lists.

The machine itself is not built, so its size is an estimate.  A set is priced by its ranges, without
the states that their encodings may share, and a copy of a part counts even where the part takes no
characters and one copy would do.  Of a pattern that comes near the limit of ten megabytes this does
not decide whether it is too large; one of ordinary size is far below.
-/

namespace MetricPath.Pattern

open MetricPath.Unicode (CharSet)

/-- The room that a state takes. -/
def stateSize : Nat := 32

/-- The room that a transition in a list takes. -/
def transitionSize : Nat := 8

/-- The size of the states that take one character of a set, byte by byte. -/
def setSize (s : CharSet) : Nat :=
  match s.ranges with
  | [(a, b)] =>
    if b < 0x80 then stateSize
    else if a = b then stateSize * (if a < 0x800 then 2 else if a < 0x10000 then 3 else 4)
    else 8 * stateSize
  | ranges =>
    let wide := (ranges.filter fun r => 0x7F < r.2).length
    stateSize + transitionSize * ranges.length + 2 * stateSize * wide

/-- The size of the states of an expression, repetitions written out. -/
def Expr.size : Expr → Nat
  | .empty => stateSize
  | .set s => setSize s
  | .assert _ => stateSize
  | .seq a b => a.size + b.size
  | .alt a b => a.size + b.size + 2 * stateSize + transitionSize
  | .rounds least most _ e =>
    let step := stateSize + transitionSize
    match most with
    | none => max least 1 * e.size + step
    | some m => least * e.size + (m - least) * (e.size + step) + stateSize
  | .group _ e => e.size + 2 * stateSize

end MetricPath.Pattern
