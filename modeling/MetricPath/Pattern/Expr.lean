import MetricPath.Unicode.Property

/-!
# Regular expressions

`Expr` is the tree of a regular expression in which flags have been applied: a set says which
characters it takes, an assertion says which definition of a line or a word it uses, and a
repetition says whether it prefers more or fewer rounds.

A `Place` is a position in a text, with the character before it and the text after it; assertions
are facts about a place.
-/

namespace MetricPath.Pattern

open MetricPath.Unicode (CharSet)

/-- A position in a text. -/
structure Place where
  /-- How many characters come before. -/
  index : Nat
  /-- The last of them. -/
  before : Option Char
  /-- The characters that come after. -/
  rest : List Char
deriving DecidableEq, Repr

namespace Place

/-- The beginning of a text. -/
def start (text : List Char) : Place := ⟨0, none, text⟩

/-- The place after the next character, if there is one. -/
def next? (p : Place) : Option Place :=
  match p.rest with
  | [] => none
  | c :: cs => some ⟨p.index + 1, some c, cs⟩

end Place

/-- Which characters make words. -/
inductive WordKind where
  | unicode
  | ascii
deriving DecidableEq, Repr

/-- Word characters among ASCII. -/
def asciiWord : CharSet := CharSet.read "30-39 41-5A 5F 61-7A"

/-- Whether there is a character and it belongs to words. -/
def WordKind.has (k : WordKind) : Option Char → Bool
  | none => false
  | some c =>
    if c.toNat < 0x80 then asciiWord.contains c
    else match k with
      | .unicode => Unicode.word.contains c
      | .ascii => false

/-- Facts about a place that take no character. -/
inductive Assertion where
  | textStart
  | textEnd
  | lineStart
  | lineEnd
  /-- Line ends are a carriage return, a newline, or both together. -/
  | lineStartEither
  | lineEndEither
  | wordBoundary (k : WordKind)
  | noWordBoundary (k : WordKind)
  | wordStart (k : WordKind)
  | wordEnd (k : WordKind)
  | notAfterWord (k : WordKind)
  | notBeforeWord (k : WordKind)
deriving DecidableEq, Repr

/-- Whether an assertion is true of a place. -/
def Assertion.holds (a : Assertion) (p : Place) : Bool :=
  let after := p.rest.head?
  match a with
  | .textStart => p.before.isNone
  | .textEnd => after.isNone
  | .lineStart => p.before.isNone || p.before = some '\n'
  | .lineEnd => after.isNone || after = some '\n'
  | .lineStartEither =>
    p.before.isNone || p.before = some '\n' || (p.before = some '\r' && after ≠ some '\n')
  | .lineEndEither =>
    after.isNone || after = some '\r' || (after = some '\n' && p.before ≠ some '\r')
  | .wordBoundary k => k.has p.before != k.has after
  | .noWordBoundary k => k.has p.before == k.has after
  | .wordStart k => !k.has p.before && k.has after
  | .wordEnd k => k.has p.before && !k.has after
  | .notAfterWord k => !k.has p.before
  | .notBeforeWord k => !k.has after

/-- A regular expression. -/
inductive Expr where
  /-- The empty text. -/
  | empty
  /-- One character of a set. -/
  | set (s : CharSet)
  /-- The empty text at a place where the assertion holds. -/
  | assert (a : Assertion)
  /-- One after the other. -/
  | seq (a b : Expr)
  /-- The first, or else the second. -/
  | alt (a b : Expr)
  /-- At least `least` and, if it is given, at most `most` rounds; a greedy repetition prefers
  more. -/
  | rounds (least : Nat) (most : Option Nat) (greedy : Bool) (e : Expr)
  /-- A numbered group, whose extent is recorded. -/
  | group (number : Nat) (e : Expr)
deriving DecidableEq, Repr

namespace Expr

/-- One after the other, for any number of expressions. -/
def seqAll : List Expr → Expr
  | [] => .empty
  | [e] => e
  | e :: es => .seq e (seqAll es)

/-- The first, or else the next, for any number of expressions. -/
def altAll : List Expr → Expr
  | [] => .empty
  | [e] => e
  | e :: es => .alt e (altAll es)

end Expr

end MetricPath.Pattern
