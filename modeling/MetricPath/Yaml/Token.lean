import MetricPath.Yaml.ScalarText

/-!
# YAML tokens

Tokens say where collections begin and end, also the ones that only indentation shows.

A mapping key that stands on its own line is only known to be one when the colon after it is
reached.  So the scanner notes where a key may have begun, one place for each level of flow
collections, and puts the key token there afterwards.
-/

namespace MetricPath.Yaml

/-- A token. -/
inductive Token where
  | blockSequence
  | blockMapping
  | blockEnd
  | flowSequence
  | flowSequenceEnd
  | flowMapping
  | flowMappingEnd
  /-- The dash of a block sequence. -/
  | entry
  /-- The comma of a flow collection. -/
  | separator
  | key
  | value
  | anchor (name : List Char)
  | alias (name : List Char)
  | tag (handle suffix : List Char)
  | scalar (plain : Bool) (text : List Char)
  | version (major minor : Nat)
  | tagPrefix (handle content : List Char)
  | documentStart
  | documentEnd
deriving DecidableEq, Repr

/-- A place where a key may have begun. -/
structure PossibleKey where
  /-- How many tokens there are before it. -/
  position : Nat
  place : Place
  /-- Whether there is an error if no key has begun there. -/
  required : Bool

/-- A text that is being cut into tokens. -/
structure Scanner where
  cursor : Cursor
  tokens : Array Token
  /-- How many flow collections are open. -/
  depth : Nat
  /-- The indentation of the block collection around, if there is one. -/
  indent? : Option Nat
  /-- The indentations of the block collections around that one. -/
  outer : List (Option Nat)
  /-- Whether a key may begin here. -/
  keyAllowed : Bool
  /-- The place where the key of each level may have begun, the innermost level first. -/
  keys : List (Option PossibleKey)

namespace Scanner

/-- The beginning of a text. -/
def start (cs : List Char) : Scanner :=
  ⟨⟨Place.start, cs⟩, #[], 0, none, [], true, [none]⟩

def inFlow (s : Scanner) : Bool := 0 < s.depth

/-- Whether the indentation of the block collection around is less than a column. -/
def isIndentedLess (s : Scanner) (column : Nat) : Bool :=
  match s.indent? with
  | some n => n < column
  | none => true

/-- Add a token. -/
def emit (s : Scanner) (t : Token) : Scanner := { s with tokens := s.tokens.push t }

/-- Pass over characters. -/
def skip (s : Scanner) (count : Nat) : Scanner := { s with cursor := s.cursor.skip count }

/-! ## White space -/

/-- Pass over white space and comments.  A line break allows a key outside of flow collections;
where a key is allowed, a tab is no white space. -/
def gapFrom (flow keyAllowed inComment : Bool) (p : Place) : List Char → Bool × Cursor
  | [] => (keyAllowed, ⟨p, []⟩)
  | c :: cs =>
    if isBreak c then gapFrom flow (keyAllowed || !flow) false (p.next c) cs
    else if inComment then gapFrom flow keyAllowed true (p.next c) cs
    else if c = ' ' || (c = '\t' && (flow || !keyAllowed)) then
      gapFrom flow keyAllowed false (p.next c) cs
    else if c = '#' then gapFrom flow keyAllowed true (p.next c) cs
    else (keyAllowed, ⟨p, c :: cs⟩)

/-- The scanner at the next token. -/
def skipGap (s : Scanner) : Scanner :=
  let (keyAllowed, cursor) := gapFrom s.inFlow s.keyAllowed false s.cursor.place s.cursor.rest
  { s with keyAllowed, cursor }

/-! ## Possible keys -/

/-- How long a key may be. -/
def longestKey : Nat := 1024

/-- Whether a key that begins at one place may end at another. -/
def PossibleKey.reaches (k : PossibleKey) (p : Place) : Bool :=
  k.place.line = p.line && p.index ≤ k.place.index + longestKey

/-- Forget the keys that have become too long; none of them may have been required. -/
def dropLongKeys (s : Scanner) : Option Scanner := do
  let keys ← s.keys.mapM fun key? =>
    match key? with
    | some k =>
      if PossibleKey.reaches k s.cursor.place then some (some k)
      else if k.required then none
      else some none
    | none => some none
  return { s with keys }

/-- Forget the key of the innermost level; it may not have been required. -/
def dropKey (s : Scanner) : Option Scanner :=
  match s.keys with
  | some k :: keys => if k.required then none else some { s with keys := none :: keys }
  | _ => some s

/-- Note that a key may begin here, if one is allowed. -/
def noteKey (s : Scanner) : Option Scanner :=
  if !s.keyAllowed then some s
  else do
    let s ← s.dropKey
    let required := !s.inFlow && s.indent? = some s.cursor.column
    return { s with keys := some ⟨s.tokens.size, s.cursor.place, required⟩ :: s.keys.tail }

/-! ## Indentation -/

/-- Begin a block collection at a column, if it is deeper than the one around; its token is put at a
position of the tokens. -/
def openBlock (s : Scanner) (column position : Nat) (t : Token) : Scanner :=
  if s.inFlow || !s.isIndentedLess column then s
  else
    { s with
      indent? := some column
      outer := s.indent? :: s.outer
      tokens := s.tokens.insertIdxIfInBounds position t }

/-- End the block collections that `closes` by their indentation, from the inside. -/
def closeFrom (closes : Nat → Bool) (tokens : Array Token) :
    Option Nat → List (Option Nat) → Array Token × Option Nat × List (Option Nat)
  | some n, next :: outer =>
    if closes n then closeFrom closes (tokens.push .blockEnd) next outer
    else (tokens, some n, next :: outer)
  | indent?, outer => (tokens, indent?, outer)

/-- End the block collections whose indentation tells so. -/
def closeBlocks (s : Scanner) (closes : Nat → Bool) : Scanner :=
  if s.inFlow then s
  else
    let (tokens, indent?, outer) := closeFrom closes s.tokens s.indent? s.outer
    { s with tokens, indent?, outer }

/-- End all block collections. -/
def closeAll (s : Scanner) : Scanner := s.closeBlocks fun _ => true

/-! ## Directives -/

/-- The cursor after the rest of a line that holds nothing but a comment. -/
def restOfLine? (c : Cursor) : Option Cursor :=
  let c := c.skipWhile isBlank
  let c := if c.rest.head? = some '#' then c.skipWhile fun d => !isBreak d else c
  match c.rest with
  | [] => some c
  | d :: _ => if isBreak d then some (c.skip 1) else none

/-- Characters of tags. -/
def isTagChar (verbatim : Bool) (c : Char) : Bool :=
  isNameChar c || c ∈ ";/?:@&=+$.%!~*'()".toList || (verbatim && c ∈ [',', '[', ']'])

/-- The text of a tag: a percent sign and two digits stand for the character of their code. -/
def percentDecoded : List Char → Option (List Char)
  | [] => some []
  | '%' :: a :: b :: cs => do
    let high ← Unicode.CharSet.hexValue? a
    let low ← Unicode.CharSet.hexValue? b
    return Char.ofNat (16 * high + low) :: (← percentDecoded cs)
  | '%' :: _ => none
  | c :: cs => do return c :: (← percentDecoded cs)

/-- The handle of a tag, such as `!`, `!!` or `!name!`. -/
def tagHandle? (c : Cursor) : Option (List Char × Cursor) :=
  match c.rest with
  | '!' :: rest =>
    let name := rest.takeWhile isNameChar
    match rest.dropWhile isNameChar with
    | '!' :: _ => some ('!' :: (name ++ ['!']), c.skip (name.length + 2))
    | _ => some ('!' :: name, c.skip (name.length + 1))
  | _ => none

/-- The tokens of a directive line. -/
def directive? (c : Cursor) : Option (Token × Cursor) := do
  let c := c.skip 1
  let name := c.takeWhile isNameChar
  let c := (c.skip name.length).skipWhile isBlank
  if name = "YAML".toList then
    let major := c.takeWhile Char.isDigit
    let c := c.skip major.length
    if c.rest.head? ≠ some '.' then none
    else
      let minor := (c.skip 1).takeWhile Char.isDigit
      let c := c.skip (minor.length + 1)
      let number? (ds : List Char) : Option Nat :=
        if ds.isEmpty || 9 < ds.length then none
        else some (ds.foldl (fun n d => 10 * n + (d.toNat - 48)) 0)
      return (.version (← number? major) (← number? minor), ← restOfLine? c)
  else if name = "TAG".toList then
    let (handle, c) ← tagHandle? c
    if handle ≠ ['!'] && (handle.getLast? ≠ some '!') then none
    else if !(c.rest.head?.any isBlank) then none
    else
      let c := c.skipWhile isBlank
      let content := c.takeWhile (isTagChar true)
      let c := c.skip content.length
      if content.isEmpty || !atGap c.rest then none
      else return (.tagPrefix handle (← percentDecoded content), ← restOfLine? c)
  else none

/-! ## Tokens of several characters -/

/-- An anchor or an alias, after its indicator. -/
def anchorName? (c : Cursor) : Option (List Char × Cursor) :=
  let name := c.takeWhile isNameChar
  let after := c.skip name.length
  let ends := match after.rest with
    | [] => true
    | d :: _ =>
      isBlank d || isBreak d || d ∈ ['?', ':', ',', ']', '\x7d', '%', '@', Char.ofNat 0x60]
  if name.isEmpty || !ends then none else some (name, after)

/-- Whether a tag may end before a text. -/
def endsTag (flow : Bool) (cs : List Char) : Bool := atGap cs || (flow && cs.head? = some ',')

/-- A tag: a handle and a suffix. -/
def tag? (flow : Bool) (c : Cursor) : Option (Token × Cursor) := do
  match c.rest with
  | '!' :: '<' :: _ =>
    let c := c.skip 2
    let content := c.takeWhile (isTagChar true)
    let c := c.skip content.length
    if content.isEmpty || c.rest.head? ≠ some '>' then none
    else
      let c := c.skip 1
      if endsTag flow c.rest then return (.tag [] (← percentDecoded content), c) else none
  | _ =>
    let (handle, after) ← tagHandle? c
    let isHandle := 2 ≤ handle.length && handle.getLast? = some '!'
    -- what looks like a handle is the suffix of the primary one, unless a mark closes it
    let c := if isHandle then after else c.skip 1
    let handle := if isHandle then handle else ['!']
    let content := c.takeWhile (isTagChar false)
    let c := c.skip content.length
    if !endsTag flow c.rest then none
    else if content.isEmpty then if isHandle then none else return (.tag [] ['!'], c)
    else return (.tag handle (← percentDecoded content), c)

/-! ## Single tokens -/

/-- A token that begins or ends a document. -/
def documentMark (s : Scanner) (t : Token) : Option Scanner := do
  let s ← s.closeAll.dropKey
  return ({ s with keyAllowed := false }.emit t).skip 3

/-- A directive line. -/
def directiveLine (s : Scanner) : Option Scanner := do
  let s ← s.closeAll.dropKey
  let (t, cursor) ← directive? s.cursor
  return { s with keyAllowed := false, cursor }.emit t

/-- The beginning of a flow collection, which may be a key as a whole. -/
def openFlow (s : Scanner) (t : Token) : Option Scanner := do
  let s ← s.noteKey
  return ({ s with depth := s.depth + 1, keys := none :: s.keys, keyAllowed := true }.emit t).skip 1

/-- The end of a flow collection. -/
def closeFlow (s : Scanner) (t : Token) : Option Scanner := do
  let s ← s.dropKey
  let s := if s.inFlow then { s with depth := s.depth - 1, keys := s.keys.tail } else s
  return ({ s with keyAllowed := false }.emit t).skip 1

/-- The comma of a flow collection. -/
def flowSeparator (s : Scanner) : Option Scanner := do
  let s ← s.dropKey
  return ({ s with keyAllowed := true }.emit .separator).skip 1

/-- The dash of a block sequence. -/
def blockEntry (s : Scanner) : Option Scanner := do
  if !s.inFlow && !s.keyAllowed then none
  else
    let s ← (s.openBlock s.cursor.column s.tokens.size .blockSequence).dropKey
    return ({ s with keyAllowed := true }.emit .entry).skip 1

/-- The question mark before a key. -/
def explicitKey (s : Scanner) : Option Scanner := do
  if !s.inFlow && !s.keyAllowed then none
  else
    let s ← (s.openBlock s.cursor.column s.tokens.size .blockMapping).dropKey
    return ({ s with keyAllowed := !s.inFlow }.emit .key).skip 1

/-- The colon before a value.  If a key may have begun on this level, it has. -/
def valueMark (s : Scanner) : Option Scanner :=
  match s.keys with
  | some k :: keys =>
    let s := { s with tokens := s.tokens.insertIdxIfInBounds k.position .key, keys := none :: keys }
    let s := s.openBlock k.place.column k.position .blockMapping
    some (({ s with keyAllowed := false }.emit .value).skip 1)
  | _ =>
    if s.inFlow then some (({ s with keyAllowed := false }.emit .value).skip 1)
    else if !s.keyAllowed then none
    else
      let s := s.openBlock s.cursor.column s.tokens.size .blockMapping
      some (({ s with keyAllowed := true }.emit .value).skip 1)

/-- A token that is the name of a node. -/
def nodeName (s : Scanner) (make : List Char → Token) : Option Scanner := do
  let s ← s.noteKey
  let (name, cursor) ← anchorName? (s.cursor.skip 1)
  return { s with keyAllowed := false, cursor }.emit (make name)

/-- A tag. -/
def nodeTag (s : Scanner) : Option Scanner := do
  let s ← s.noteKey
  let (t, cursor) ← tag? s.inFlow s.cursor
  return { s with keyAllowed := false, cursor }.emit t

/-- A scalar written as a block of lines. -/
def blockScalar (s : Scanner) (folded : Bool) : Option Scanner := do
  let s ← s.dropKey
  let (text, cursor) ← readBlock folded s.indent? (s.cursor.skip 1)
  return { s with keyAllowed := true, cursor }.emit (.scalar false text)

/-- A scalar between quotes. -/
def quotedScalar (s : Scanner) (double : Bool) : Option Scanner := do
  let s ← s.noteKey
  let c := s.cursor.skip 1
  let (text, cursor) ← quotedFrom double .text [] c.place c.rest
  return { s with keyAllowed := false, cursor }.emit (.scalar false text)

/-- A plain scalar. -/
def plainScalar (s : Scanner) : Option Scanner := do
  let s ← s.noteKey
  let indent := match s.indent? with
    | some n => n + 1
    | none => 0
  let t ← plainFrom s.inFlow indent [] [] s.cursor.place s.cursor.rest
  return { s with keyAllowed := t.endsLine, cursor := t.after }.emit (.scalar true t.text)

/-- Characters that do not begin plain scalars. -/
def isIndicator (c : Char) : Bool :=
  c ∈ ['-', '?', ':', ',', '[', ']', '\x7b', '\x7d', '#', '&', '*', '!', '|', '>', '\'', '"', '%',
    '@', Char.ofNat 0x60]

/-- Whether a plain scalar begins with a character, which `cs` follows. -/
def beginsPlain (flow : Bool) (c : Char) (cs : List Char) : Bool :=
  !(isBlank c || isBreak c || isIndicator c) || (c = '-' && !(cs.head?.any isBlank)) ||
    (!flow && (c = '?' || c = ':') && !atGap cs)

/-- Read the token that begins with a character, which `cs` follows. -/
def token (s : Scanner) (c : Char) (cs : List Char) : Option Scanner :=
  let flow := s.inFlow
  if s.cursor.column = 0 && c = '%' then s.directiveLine
  else if s.cursor.column = 0 && beginsDocumentMark (c :: cs) then
    s.documentMark (if c = '-' then .documentStart else .documentEnd)
  else if c = '[' then s.openFlow .flowSequence
  else if c = '\x7b' then s.openFlow .flowMapping
  else if c = ']' then s.closeFlow .flowSequenceEnd
  else if c = '\x7d' then s.closeFlow .flowMappingEnd
  else if c = ',' then s.flowSeparator
  else if c = '-' && atGap cs then s.blockEntry
  else if c = '?' && (flow || atGap cs) then s.explicitKey
  else if c = ':' && (flow || atGap cs) then s.valueMark
  else if c = '*' then s.nodeName .alias
  else if c = '&' then s.nodeName .anchor
  else if c = '!' then s.nodeTag
  else if c = '|' && !flow then s.blockScalar false
  else if c = '>' && !flow then s.blockScalar true
  else if c = '\'' then s.quotedScalar false
  else if c = '"' then s.quotedScalar true
  else if beginsPlain flow c cs then s.plainScalar
  else none

/-- The tokens of the rest of a text, of which at most `bound` are left. -/
def finish : (bound : Nat) → Scanner → Option (List Token)
  | 0, _ => none
  | bound + 1, s => do
    let s ← s.skipGap.dropLongKeys
    let column := s.cursor.column
    let s := s.closeBlocks fun n => column < n
    match s.cursor.rest with
    | [] => do
      let s ← s.closeAll.dropKey
      return s.tokens.toList
    | c :: cs => finish bound (← s.token c cs)

end Scanner

/-- The tokens of a normalised text. -/
def Token.scan (cs : List Char) : Option (List Token) :=
  (Scanner.start cs).finish (cs.length + 1)

end MetricPath.Yaml
