import MetricPath.Text.Utf8

/-!
# Escaping of path nodes

Names and values become nodes of a path, so the characters that structure a path must not stand in
them bare.  `.`, `%`, `/` and `=` and everything that is not graphic ASCII are written as `%` and
two hexadecimal digits for each byte; the remaining reserved symbols get a backslash.

Reading undoes the two in turn: first the percent signs, on bytes, and then the backslashes, on
the characters that the bytes encode.
-/

namespace MetricPath.Escape

/-- Symbols that are reserved in paths. -/
def isSymbol (c : Char) : Bool :=
  c ∈ ['(', ')', '{', '}', ',', '=', '.', '\'', '"', '\\']

/-- Characters written by their bytes although they are graphic. -/
def isSeparator (c : Char) : Bool := c ∈ ['.', '%', '/', '=']

/-- Graphic ASCII: what prints, the space excepted. -/
def isGraphic (c : Char) : Bool := '!' ≤ c && c ≤ '~'

/-- The upper-case hexadecimal digit of a number below sixteen. -/
def hexDigit (n : Nat) : Char :=
  if n < 10 then Char.ofNat ('0'.toNat + n) else Char.ofNat ('A'.toNat + (n - 10))

/-- A byte as a percent sign and two digits. -/
def percentByte (b : UInt8) : List Char :=
  ['%', hexDigit (b.toNat / 16), hexDigit (b.toNat % 16)]

/-- The escaped form of one character. -/
def escapeChar (c : Char) : List Char :=
  if isSeparator c then (Text.charBytes c).flatMap percentByte
  else if isSymbol c then ['\\', c]
  else if isGraphic c then [c]
  else (Text.charBytes c).flatMap percentByte

/-- The escaped form of a text, as characters. -/
def escapeChars (cs : List Char) : List Char := cs.flatMap escapeChar

/-- The value of a hexadecimal digit byte. -/
def hexByte? (b : UInt8) : Option UInt8 :=
  if 0x30 ≤ b ∧ b ≤ 0x39 then some (b - 0x30)
  else if 0x41 ≤ b ∧ b ≤ 0x46 then some (b - 0x37)
  else if 0x61 ≤ b ∧ b ≤ 0x66 then some (b - 0x57)
  else none

/-- Bytes with every percent sign that two hexadecimal digits follow, and those digits, replaced by
the byte they denote. -/
def percentDecode : List UInt8 → List UInt8
  | b :: h :: l :: rest =>
    if b = 0x25 then
      match hexByte? h, hexByte? l with
      | some high, some low => (high * 16 + low) :: percentDecode rest
      | _, _ => b :: percentDecode (h :: l :: rest)
    else b :: percentDecode (h :: l :: rest)
  | bs => bs

/-- Drop each backslash that stands before a reserved symbol, and keep the symbol. -/
def dropBackslashes : List Char → List Char
  | '\\' :: c :: cs =>
    if isSymbol c then c :: dropBackslashes cs else '\\' :: dropBackslashes (c :: cs)
  | c :: cs => c :: dropBackslashes cs
  | [] => []

/-- The text that an escaped text stands for, as characters. -/
def unescapeChars (cs : List Char) : List Char :=
  dropBackslashes (Text.decodeLossy (percentDecode (Text.bytes cs)))

/-- The escaped form of a text. -/
def escape (s : String) : String := String.ofList (escapeChars s.toList)

/-- The text that an escaped text stands for. -/
def unescape (s : String) : String := String.ofList (unescapeChars s.toList)

end MetricPath.Escape
