import MetricPath.Unicode.CharSet
import MetricPath.Yaml.Place

/-!
# The text of YAML scalars

Scalars are written between quotes, plainly, or as blocks of lines.  Lines of the first two are
folded: a line break between two words stands for a space, and further breaks stand for
themselves.  A block keeps its line breaks or folds them, as its header says.
-/

namespace MetricPath.Yaml

/-- What a run of blanks and line breaks between two words stands for. -/
def foldGap (run : List Char) : List Char :=
  match run.filter isBreak with
  | [] => run
  | ['\n'] => [' ']
  | '\n' :: more => more
  | breaks => breaks

/-! ## Between quotes -/

/-- Where the reader of a quoted text is. -/
inductive QuotedMode where
  | text
  /-- Within a run of blanks and breaks, the latest first. -/
  | gap (run : List Char)
  /-- Within such a run after an escaped line break, which stands for nothing. -/
  | joined (run : List Char)
  /-- After a single quote, which closes the text unless another follows. -/
  | quote
  | escape
  /-- Before so many hexadecimal digits of a code point. -/
  | digits (count : Nat) (point : Nat)
deriving DecidableEq, Repr

/-- The text read so far, latest first, once a run of white space has ended. -/
def QuotedMode.flush (m : QuotedMode) (text : List Char) : List Char :=
  match m with
  | .gap run => (foldGap run.reverse).reverse ++ text
  | .joined run => run.filter isBreak ++ text
  | _ => text

/-- The mode after white space. -/
def QuotedMode.widen (m : QuotedMode) (c : Char) : QuotedMode :=
  match m with
  | .gap run => .gap (c :: run)
  | .joined run => .joined (c :: run)
  | _ => .gap [c]

/-- The code point of an escape of one character. -/
def shortEscape? (c : Char) : Option Nat :=
  match c with
  | '0' => some 0
  | 'a' => some 7
  | 'b' => some 8
  | 't' | '\t' => some 9
  | 'n' => some 10
  | 'v' => some 11
  | 'f' => some 12
  | 'r' => some 13
  | 'e' => some 27
  | ' ' => some 32
  | '"' => some 34
  | '/' => some 47
  | '\\' => some 92
  | 'N' => some 0x85
  | '_' => some 0xA0
  | 'L' => some 0x2028
  | 'P' => some 0x2029
  | _ => none

/-- How many hexadecimal digits follow the letter of an escape. -/
def digitCount? (c : Char) : Option Nat :=
  match c with
  | 'x' => some 2
  | 'u' => some 4
  | 'U' => some 8
  | _ => none

/-- The character of a code point, if there is one. -/
def charOf? (n : Nat) : Option Char := if n.isValidChar then some (Char.ofNat n) else none

/-- Read a quoted text, of which `text` has been read, latest first, up to its closing quote. -/
def quotedFrom (double : Bool) (mode : QuotedMode) (text : List Char) (p : Place) :
    List Char → Option (List Char × Cursor)
  | [] => if mode = .quote then some (text.reverse, ⟨p, []⟩) else none
  | c :: cs =>
    match mode with
    | .quote =>
      if c = '\'' then quotedFrom double .text ('\'' :: text) (p.next c) cs
      else some (text.reverse, ⟨p, c :: cs⟩)
    | .escape =>
      if isBreak c then quotedFrom double (.joined []) text (p.next c) cs
      else
        match shortEscape? c, digitCount? c with
        | some n, _ => quotedFrom double .text (Char.ofNat n :: text) (p.next c) cs
        | none, some count => quotedFrom double (.digits count 0) text (p.next c) cs
        | none, none => none
    | .digits count point =>
      match Unicode.CharSet.hexValue? c with
      | none => none
      | some digit =>
        let point := 16 * point + digit
        if 1 < count then quotedFrom double (.digits (count - 1) point) text (p.next c) cs
        else
          match charOf? point with
          | some d => quotedFrom double .text (d :: text) (p.next c) cs
          | none => none
    | mode =>
      if isBlank c || isBreak c then quotedFrom double (mode.widen c) text (p.next c) cs
      else if p.column = 0 && beginsDocumentMark (c :: cs) then none
      else
        let text := mode.flush text
        if double then
          if c = '"' then some (text.reverse, ⟨p.next c, cs⟩)
          else if c = '\\' then quotedFrom double .escape text (p.next c) cs
          else quotedFrom double .text (c :: text) (p.next c) cs
        else if c = '\'' then quotedFrom double .quote text (p.next c) cs
        else quotedFrom double .text (c :: text) (p.next c) cs

/-! ## Plain -/

/-- A plain scalar that has been read. -/
structure PlainText where
  text : List Char
  /-- Whether line breaks follow it. -/
  endsLine : Bool
  /-- The place after the white space that follows it. -/
  after : Cursor

/-- Indicators of flow collections. -/
def isFlowIndicator (c : Char) : Bool := c ∈ [',', '[', ']', '\x7b', '\x7d']

/-- Whether a plain text ends at a character that stands after another or a gap; `cs` follows it. -/
def endsPlain (flow : Bool) (c : Char) (cs : List Char) : Bool :=
  (c = ':' && atGap cs) || (flow && isFlowIndicator c)

/-- Read a plain text, of which `text` has been read, latest first, and after it the white space
`run`.  Its lines are indented by at least `indent`, unless it stands in a flow collection. -/
def plainFrom (flow : Bool) (indent : Nat) (run text : List Char) (p : Place) :
    List Char → Option PlainText
  | [] => some ⟨text.reverse, run.any isBreak, ⟨p, []⟩⟩
  | c :: cs =>
    if isBreak c then plainFrom flow indent (c :: run) text (p.next c) cs
    else if isBlank c then
      if c = '\t' && run.any isBreak && p.column < indent then none
      else plainFrom flow indent (c :: run) text (p.next c) cs
    else if !run.isEmpty && ((!flow && p.column < indent) || c = '#' ||
        (p.column = 0 && beginsDocumentMark (c :: cs))) then
      some ⟨text.reverse, run.any isBreak, ⟨p, c :: cs⟩⟩
    else if flow && c = ':' && cs.head?.any (fun d => isFlowIndicator d || d = '?') then none
    else if endsPlain flow c cs then some ⟨text.reverse, run.any isBreak, ⟨p, c :: cs⟩⟩
    else plainFrom flow indent [] (c :: ((foldGap run.reverse).reverse ++ text)) (p.next c) cs

/-! ## Blocks -/

/-- What becomes of the line breaks at the end of a block. -/
inductive Chomping where
  | strip
  | clip
  | keep
deriving DecidableEq, Repr

/-- The header of a block. -/
structure BlockHeader where
  folded : Bool
  chomping : Chomping
  /-- How much deeper than its parent the block is indented, if the header says so. -/
  increment? : Option Nat
deriving DecidableEq, Repr

/-- The chomping that a character asks for. -/
def Chomping.ofChar? (c : Char) : Option Chomping :=
  match c with
  | '-' => some .strip
  | '+' => some .keep
  | _ => none

/-- The indentation that a character asks for; zero is none. -/
def increment? (c : Char) : Option Nat :=
  if '1' ≤ c && c ≤ '9' then some (c.toNat - '0'.toNat) else none

/-- Read the two optional characters of a header, in either order. -/
def readHeader (folded : Bool) : List Char → BlockHeader × Nat
  | c :: cs =>
    match Chomping.ofChar? c, increment? c with
    | some chomping, _ =>
      match cs.head?.bind increment? with
      | some n => (⟨folded, chomping, some n⟩, 2)
      | none => (⟨folded, chomping, none⟩, 1)
    | none, some n =>
      match cs.head?.bind Chomping.ofChar? with
      | some chomping => (⟨folded, chomping, some n⟩, 2)
      | none => (⟨folded, .clip, some n⟩, 1)
    | none, none => (⟨folded, .clip, none⟩, 0)
  | [] => (⟨folded, .clip, none⟩, 0)

/-- A block that is being read. -/
structure BlockText where
  header : BlockHeader
  /-- The indentation of its lines, once it is known. -/
  indent? : Option Nat
  /-- The least indentation that is found out from the lines. -/
  least : Nat
  /-- The widest indentation of the empty lines at its beginning. -/
  widest : Nat
  /-- The text, latest first. -/
  text : List Char
  /-- The break after the last line. -/
  ending : List Char
  /-- The breaks of the empty lines after it. -/
  empties : List Char
  /-- Whether the last line begins with a blank. -/
  indented : Bool

namespace BlockText

/-- Whether a column is still within the indentation. -/
def isWithinIndent (b : BlockText) (column : Nat) : Bool :=
  match b.indent? with
  | some n => column < n
  | none => true

/-- The indentation, which the first line that is not empty decides if the header does not. -/
def settledIndent (b : BlockText) : Nat := b.indent?.getD (max b.widest b.least)

/-- Begin a line with a character.  In a folded block, a single break between two lines that do not
begin with blanks is a space. -/
def beginLine (b : BlockText) (c : Char) : BlockText :=
  let folds := b.header.folded && b.ending = ['\n'] && !b.indented && !isBlank c
  let joint := if folds then if b.empties.isEmpty then [' '] else [] else b.ending
  { b with
    indent? := some b.settledIndent
    text := c :: (b.empties ++ joint ++ b.text)
    ending := []
    empties := []
    indented := isBlank c }

/-- The text of the block. -/
def result (b : BlockText) : List Char :=
  let breaks := match b.header.chomping with
    | .strip => []
    | .clip => b.ending
    | .keep => b.empties ++ b.ending
  (breaks ++ b.text).reverse

/-- Read the lines of a block; `inLine` says whether the place is within one of them. -/
def linesFrom (inLine : Bool) (b : BlockText) (p : Place) : List Char → Option (BlockText × Cursor)
  | [] => some (b, ⟨p, []⟩)
  | c :: cs =>
    if inLine then
      if isBreak c then linesFrom false { b with ending := [c] } (p.next c) cs
      else linesFrom true { b with text := c :: b.text } (p.next c) cs
    else if c = ' ' && b.isWithinIndent p.column then
      linesFrom false { b with widest := max b.widest (p.column + 1) } (p.next c) cs
    else if c = '\t' && b.isWithinIndent p.column then none
    else if isBreak c then linesFrom false { b with empties := c :: b.empties } (p.next c) cs
    else if p.column = b.settledIndent then linesFrom true (b.beginLine c) (p.next c) cs
    else some (b, ⟨p, c :: cs⟩)

end BlockText

/-- Read a block scalar after its indicator; the collection around it is indented by `outer`, or by
nothing if there is none. -/
def readBlock (folded : Bool) (outer? : Option Nat) (at' : Cursor) :
    Option (List Char × Cursor) := do
  let (header, width) := readHeader folded at'.rest
  let c := (at'.skip width).skipWhile isBlank
  let c := if c.rest.head? = some '#' then c.skipWhile fun d => !isBreak d else c
  let c ← match c.rest with
    | [] => some c
    | d :: _ => if isBreak d then some (c.skip 1) else none
  let least := match outer? with
    | some n => n + 1
    | none => 1
  let indent? := header.increment?.map fun n => n + outer?.getD 0
  let start : BlockText := ⟨header, indent?, least, 0, [], [], [], false⟩
  let (b, c) ← start.linesFrom false c.place c.rest
  return (b.result, c)

end MetricPath.Yaml
