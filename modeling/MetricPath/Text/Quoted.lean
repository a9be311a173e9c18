import MetricPath.Unicode.Property

/-!
# Quoted text

Texts in messages stand between double quotes and single characters between single quotes.  The
quote of its own kind and the backslash are escaped, four controls have a letter each, and every
other character that would not be seen as itself is written by its code point.
-/

namespace MetricPath.Text

/-- A whole number in lower-case hexadecimal digits. -/
def hexText (n : Nat) : List Char := Nat.toDigits 16 n

/-- Whether a character is shown as itself.  A character that is drawn with the one before is not.
-/
def isShown (c : Char) : Bool :=
  if c.toNat < 0x80 then 0x20 ≤ c.toNat && c.toNat ≠ 0x7F
  else Unicode.printable.contains c && !Unicode.graphemeExtend.contains c

/-- A character within quotes of the given kind. -/
def quoteChar (quote c : Char) : List Char :=
  if c = Char.ofNat 0 then ['\\', '0']
  else if c = '\t' then ['\\', 't']
  else if c = '\n' then ['\\', 'n']
  else if c = '\r' then ['\\', 'r']
  else if c = '\\' || c = quote then ['\\', c]
  else if isShown c then [c]
  else '\\' :: 'u' :: '\x7b' :: (hexText c.toNat ++ ['\x7d'])

/-- A text between double quotes. -/
def quoted (s : String) : String :=
  String.ofList ('"' :: (s.toList.flatMap (quoteChar '"') ++ ['"']))

/-- A character between single quotes. -/
def quotedChar (c : Char) : String := String.ofList ('\'' :: (quoteChar '\'' c ++ ['\'']))

end MetricPath.Text
