/-!
# UTF-8

Offsets, limits and escapes are counted in the bytes of UTF-8, so a text is seen here in two ways:
as its characters and as the bytes that encode them.  Reading bytes back is total: every maximal
ill-formed piece becomes one replacement character.

The reader is a machine with one state, the part of a character read so far, and takes one step per
byte.  That makes it a structural recursion on the bytes, and a proof about it an induction on them.
-/

namespace MetricPath.Text

/-- The bytes that encode one character. -/
def charBytes (c : Char) : List UInt8 := String.utf8EncodeChar c

/-- The bytes that encode a text. -/
def bytes (cs : List Char) : List UInt8 := cs.flatMap charBytes

/-- The length of a text in bytes. -/
def byteLength : List Char → Nat
  | [] => 0
  | c :: cs => c.utf8Size + byteLength cs

@[simp] theorem byteLength_nil : byteLength [] = 0 := rfl

@[simp] theorem byteLength_cons (c : Char) (cs : List Char) :
    byteLength (c :: cs) = c.utf8Size + byteLength cs := rfl

@[simp] theorem byteLength_append (xs ys : List Char) :
    byteLength (xs ++ ys) = byteLength xs + byteLength ys := by
  induction xs with
  | nil => simp
  | cons x xs ih => simp [ih, Nat.add_assoc]

/-! ## Reading bytes -/

/-- The character that stands for an ill-formed piece. -/
def replacement : Char := Char.ofNat 0xFFFD

/-- A character of which some bytes are still to come: how many, the range in which the next one
must lie, and the value of the bits read so far. -/
structure Pending where
  needed : Nat
  lower : UInt8
  upper : UInt8
  point : Nat
deriving DecidableEq, Repr

/-- What a byte means at the start of a character. -/
inductive Lead where
  /-- It is a character by itself. -/
  | whole (c : Char)
  /-- It announces further bytes. -/
  | opens (p : Pending)
  /-- No character begins with it. -/
  | stray
deriving DecidableEq, Repr

/-- The meaning of a leading byte.  The narrowed ranges exclude overlong forms, surrogates and
values above the last code point. -/
def Lead.ofByte (b : UInt8) : Lead :=
  if b < 0x80 then .whole (Char.ofNat b.toNat)
  else if b < 0xC2 then .stray
  else if b < 0xE0 then .opens ⟨1, 0x80, 0xBF, b.toNat - 0xC0⟩
  else if b = 0xE0 then .opens ⟨2, 0xA0, 0xBF, 0⟩
  else if b = 0xED then .opens ⟨2, 0x80, 0x9F, 0xD⟩
  else if b < 0xF0 then .opens ⟨2, 0x80, 0xBF, b.toNat - 0xE0⟩
  else if b = 0xF0 then .opens ⟨3, 0x90, 0xBF, 0⟩
  else if b < 0xF4 then .opens ⟨3, 0x80, 0xBF, b.toNat - 0xF0⟩
  else if b = 0xF4 then .opens ⟨3, 0x80, 0x8F, 4⟩
  else .stray

/-- Whether a byte may come next. -/
def Pending.accepts (p : Pending) (b : UInt8) : Bool := p.lower ≤ b && b ≤ p.upper

/-- The value of the bits after an accepted byte. -/
def Pending.extend (p : Pending) (b : UInt8) : Nat := p.point * 64 + (b.toNat - 0x80)

/-- Read bytes, starting inside a character or between two. -/
def decodeFrom : Option Pending → List UInt8 → List Char
  | none, [] => []
  | some _, [] => [replacement]
  | none, b :: bs =>
    match Lead.ofByte b with
    | .whole c => c :: decodeFrom none bs
    | .opens p => decodeFrom (some p) bs
    | .stray => replacement :: decodeFrom none bs
  | some p, b :: bs =>
    if p.accepts b then
      if p.needed ≤ 1 then Char.ofNat (p.extend b) :: decodeFrom none bs
      else decodeFrom (some ⟨p.needed - 1, 0x80, 0xBF, p.extend b⟩) bs
    else
      replacement ::
        match Lead.ofByte b with
        | .whole c => c :: decodeFrom none bs
        | .opens q => decodeFrom (some q) bs
        | .stray => replacement :: decodeFrom none bs

/-- The text that bytes encode, with a replacement character for each ill-formed piece. -/
def decodeLossy (bs : List UInt8) : List Char := decodeFrom none bs

end MetricPath.Text
