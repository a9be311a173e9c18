import MetricPath.Pattern.Search
import MetricPath.Number.Decimal

/-!
# Replacements

The text that replaces a match may refer to groups: `$1` or `$name`, where the name is as long as it
can be, and `${name}`, where the name is all that stands between the braces.  `$$` is a dollar sign,
and so is a dollar sign that begins no reference.  A group that took no part stands for nothing.
-/

namespace MetricPath.Pattern

/-- A piece of a replacement. -/
inductive Piece where
  | char (c : Char)
  /-- A group by its name or number. -/
  | reference (name : List Char)
deriving DecidableEq, Repr

/-- Characters of a name without braces. -/
def isReferenceChar (c : Char) : Bool := c.isAlphanum || c = '_'

/-- The pieces of a replacement.  `skip` characters belong to a reference that has been read. -/
def piecesFrom : (skip : Nat) → List Char → List Piece
  | _, [] => []
  | skip + 1, _ :: cs => piecesFrom skip cs
  | 0, c :: cs =>
    if c ≠ '$' then .char c :: piecesFrom 0 cs
    else
      match cs with
      | '$' :: _ => .char '$' :: piecesFrom 1 cs
      | '\x7b' :: more =>
        match Text.cutAt? ['\x7d'] more with
        | some (name, _) => .reference name :: piecesFrom (name.length + 2) cs
        | none => .char '$' :: piecesFrom 0 cs
      | _ =>
        let name := cs.takeWhile isReferenceChar
        if name.isEmpty then .char '$' :: piecesFrom 0 cs
        else .reference name :: piecesFrom name.length cs

/-- The pieces of a replacement. -/
def pieces (cs : List Char) : List Piece := piecesFrom 0 cs

/-- The number that a reference denotes; a plus sign may stand before it. -/
def referenceNumber? (name : List Char) : Option Nat :=
  match name with
  | '+' :: digits => Decimal.natOf? digits
  | digits => Decimal.natOf? digits

/-- The extent of a group in a match; the group with number zero is the match. -/
def Match.extent? (m : Match) (number : Nat) : Option (Nat × Nat) :=
  if number = 0 then some (m.start, m.place.index)
  else m.groups.lookup number

/-- The part of a text from one place up to another. -/
def slice (text : List Char) (first last : Nat) : List Char := (text.drop first).take (last - first)

/-- The text that one piece stands for. -/
def Piece.expand (names : List (String × Nat)) (text : List Char) (m : Match) :
    Piece → List Char
  | .char c => [c]
  | .reference name =>
    let number? : Option Nat :=
      match referenceNumber? name with
      | some n => some n
      | none => names.lookup (String.ofList name)
    match number?.bind m.extent? with
    | some (first, last) => slice text first last
    | none => []

/-- The text with its matches replaced; `start` is where the part that is still to be copied
begins. -/
def replaceMatches (expand : Match → List Char) (text : List Char) : (start : Nat) →
    List Match → List Char
  | start, [] => text.drop start
  | start, m :: ms =>
    slice text start m.start ++ expand m ++ replaceMatches expand text m.place.index ms

end MetricPath.Pattern
