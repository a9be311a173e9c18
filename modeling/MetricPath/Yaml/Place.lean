/-!
# Places in a YAML text

Indentation has a meaning in YAML, so a reader knows at each character in which line and column it
is.  A `Cursor` is a place together with the text from there on.

A text is normalised before it is read: all line endings but the two Unicode separators become
newlines, a byte order mark at the beginning is dropped, and a text with control characters is
refused.
-/

namespace MetricPath.Yaml

/-! ## Characters -/

def isBlank (c : Char) : Bool := c = ' ' || c = '\t'

/-- Line breaks of a normalised text. -/
def isBreak (c : Char) : Bool := c = '\n' || c.toNat = 0x2028 || c.toNat = 0x2029

/-- Whether a text is at its end, at a blank or at a line break. -/
def atGap : List Char → Bool
  | [] => true
  | c :: _ => isBlank c || isBreak c

/-- Characters of anchors and tag handles. -/
def isNameChar (c : Char) : Bool := c.isAlphanum || c = '_' || c = '-'

/-- Whether a text may contain a character. -/
def isAllowed (c : Char) : Bool :=
  let n := c.toNat
  n = 0x9 || n = 0xA || n = 0xD || (0x20 ≤ n && n ≤ 0x7E) || n = 0x85 ||
    (0xA0 ≤ n && n ≤ 0xFFFD) || 0x10000 ≤ n

/-- A text with every line ending but the Unicode separators turned into a newline. -/
def normalizeBreaks : List Char → List Char
  | [] => []
  | '\r' :: '\n' :: cs => '\n' :: normalizeBreaks cs
  | c :: cs => (if c = '\r' || c.toNat = 0x85 then '\n' else c) :: normalizeBreaks cs

/-- The normal form of a text; a text with a character that is not allowed has none. -/
def normalize? (cs : List Char) : Option (List Char) :=
  let cs := match cs with
    | c :: rest => if c.toNat = 0xFEFF then rest else c :: rest
    | [] => []
  if cs.all isAllowed then some (normalizeBreaks cs) else none

/-- Whether a text, taken from the beginning of a line, begins with `---` or `...` as a word. -/
def beginsDocumentMark : List Char → Bool
  | a :: b :: c :: rest => a = b && b = c && (a = '-' || a = '.') && atGap rest
  | _ => false

/-! ## Cursors -/

/-- How far a place is from the beginning, and its line and column. -/
structure Place where
  index : Nat
  line : Nat
  column : Nat
deriving DecidableEq, Repr

/-- The beginning of a text. -/
def Place.start : Place := ⟨0, 0, 0⟩

/-- The place after a character. -/
def Place.next (p : Place) (c : Char) : Place :=
  if isBreak c then ⟨p.index + 1, p.line + 1, 0⟩ else ⟨p.index + 1, p.line, p.column + 1⟩

/-- A place, and the text from there on. -/
structure Cursor where
  place : Place
  rest : List Char

namespace Cursor

/-- Pass over characters of a class, starting at a place. -/
def passWhile (p : Char → Bool) (place : Place) : List Char → Cursor
  | [] => ⟨place, []⟩
  | c :: cs => if p c then passWhile p (place.next c) cs else ⟨place, c :: cs⟩

/-- The cursor after the characters of a class. -/
def skipWhile (p : Char → Bool) (c : Cursor) : Cursor := passWhile p c.place c.rest

/-- Pass over a number of characters, starting at a place. -/
def pass : (count : Nat) → Place → List Char → Cursor
  | count + 1, place, c :: cs => pass count (place.next c) cs
  | _, place, cs => ⟨place, cs⟩

/-- The cursor after a number of characters. -/
def skip (count : Nat) (c : Cursor) : Cursor := pass count c.place c.rest

/-- The column of the cursor. -/
def column (c : Cursor) : Nat := c.place.column

/-- The characters of a class at the cursor. -/
def takeWhile (p : Char → Bool) (c : Cursor) : List Char := c.rest.takeWhile p

end Cursor

end MetricPath.Yaml
