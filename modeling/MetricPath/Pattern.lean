import MetricPath.Pattern.Replacement
import MetricPath.Pattern.Size

/-!
# Patterns

A pattern is a regular expression together with the text it was read from.  Conditions on labels use
`Pattern.anchored`, which has to match the whole of a value; replacements in templates use the
pattern as it is written.

The notation has groups, names and flags, classes with their operations, greedy and lazy
repetitions, and anchors and word boundaries, over the characters of Unicode 16.  There are no
look-around and no backreferences.  Three things are covered in part:

* A class may ask for general categories, scripts and the binary properties of `Unicode.property?`.
  A text that asks for any other property is not taken for a pattern.
* A pattern matches text, never bytes.  Where the flag `u` is cleared, what could match a part of a
  character (the dot, complements, bytes outside ASCII) is an error, and sets are sets of ASCII.
* The limit on the size is held against an estimate (`Expr.size`).
-/

namespace MetricPath

/-- A regular expression that has been read. -/
structure Pattern where
  source : String
  expr : Pattern.Expr
  /-- The named groups and their numbers. -/
  names : List (String × Nat)
deriving DecidableEq, Repr

namespace Pattern

/-- The pattern that a text denotes. -/
def compile (source : String) : Except Fault Pattern := do
  let (expr, names) ← read source.toList
  if sizeLimit < expr.size then .error .tooLarge else .ok ⟨source, expr, names⟩

/-- The text of a pattern that must match a whole value. -/
def anchor (source : String) : String := "^(?:" ++ source ++ ")$"

/-- The pattern that must match a whole value. -/
def anchored (source : String) : Except Fault Pattern := compile (anchor source)

/-- Whether the pattern matches somewhere in a text. -/
def isMatch (p : Pattern) (s : String) : Bool := p.expr.isMatch s.toList

/-- The text with every match replaced. -/
def replaceAll (p : Pattern) (s replacement : String) : String :=
  let text := s.toList
  let pieces := pieces replacement.toList
  let expand (m : Match) : List Char := pieces.flatMap fun piece => piece.expand p.names text m
  String.ofList (replaceMatches expand text 0 (p.expr.matchesIn text))

end Pattern

end MetricPath
