import Mathlib.Tactic.SplitIfs
import MetricPath.Text.Utf8

/-!
# UTF-8 reads back

Reading the bytes of a text gives the text (`decodeLossy_bytes`).  The machine `decodeFrom` is
followed through the bytes of one character at a time: a leading byte opens the character
(`Lead.ofByte_ofNat` says in numbers what it announces), and every later byte adds six bits to the
value read so far (`decodeFrom_more`, `decodeFrom_last`).  The narrowed ranges for the second byte
are where a code point that is no surrogate and not above the last one is used.

So different texts have different bytes (`bytes_inj`), and some bytes stand in no text
(`toNat_lt_of_mem_bytes`).
-/

namespace MetricPath.Text

/-- The meaning of a leading byte, in numbers. -/
theorem Lead.ofByte_ofNat {n : Nat} (h : n < 256) :
    Lead.ofByte (UInt8.ofNat n) =
      if n < 0x80 then .whole (Char.ofNat n)
      else if n < 0xC2 then .stray
      else if n < 0xE0 then .opens ⟨1, 0x80, 0xBF, n - 0xC0⟩
      else if n = 0xE0 then .opens ⟨2, 0xA0, 0xBF, 0⟩
      else if n = 0xED then .opens ⟨2, 0x80, 0x9F, 0xD⟩
      else if n < 0xF0 then .opens ⟨2, 0x80, 0xBF, n - 0xE0⟩
      else if n = 0xF0 then .opens ⟨3, 0x90, 0xBF, 0⟩
      else if n < 0xF4 then .opens ⟨3, 0x80, 0xBF, n - 0xF0⟩
      else if n = 0xF4 then .opens ⟨3, 0x80, 0x8F, 4⟩
      else .stray := by
  have value : (UInt8.ofNat n).toNat = n := UInt8.toNat_ofNat_of_lt' h
  simp only [Lead.ofByte, UInt8.lt_iff_toNat_lt, ← UInt8.toNat_inj, value, UInt8.reduceToNat]

/-- Whether a byte may come next, in numbers. -/
theorem Pending.accepts_ofNat {p : Pending} {n : Nat} (low : p.lower.toNat ≤ n)
    (high : n ≤ p.upper.toNat) : p.accepts (UInt8.ofNat n) = true := by
  have value : (UInt8.ofNat n).toNat = n :=
    UInt8.toNat_ofNat_of_lt' (Nat.lt_of_le_of_lt high p.upper.toNat_lt)
  simp only [Pending.accepts, UInt8.le_iff_toNat_le, value, low, high, decide_true, Bool.and_self]

/-- The value of the bits after a byte, in numbers. -/
theorem Pending.extend_ofNat {p : Pending} {n : Nat} (h : n < 256) :
    p.extend (UInt8.ofNat n) = p.point * 64 + (n - 0x80) := by
  have value : (UInt8.ofNat n).toNat = n := UInt8.toNat_ofNat_of_lt' h
  unfold Pending.extend
  rw [value]

/-- A byte that opens a character is read on with what it announces. -/
theorem decodeFrom_opens {b : UInt8} {p : Pending} (bs : List UInt8)
    (h : Lead.ofByte b = .opens p) : decodeFrom none (b :: bs) = decodeFrom (some p) bs := by
  rw [decodeFrom, h]

/-- An accepted byte that is not the last of its character adds its bits. -/
theorem decodeFrom_more {p : Pending} {n : Nat} (bs : List UInt8) (more : 1 < p.needed)
    (low : p.lower.toNat ≤ n) (high : n ≤ p.upper.toNat) :
    decodeFrom (some p) (UInt8.ofNat n :: bs) =
      decodeFrom (some ⟨p.needed - 1, 0x80, 0xBF, p.point * 64 + (n - 0x80)⟩) bs := by
  rw [decodeFrom, if_pos (Pending.accepts_ofNat low high), if_neg (Nat.not_le.mpr more),
    Pending.extend_ofNat (Nat.lt_of_le_of_lt high p.upper.toNat_lt)]

/-- An accepted byte that is the last of its character completes it. -/
theorem decodeFrom_last {p : Pending} {n : Nat} (bs : List UInt8) (last : p.needed = 1)
    (low : p.lower.toNat ≤ n) (high : n ≤ p.upper.toNat) :
    decodeFrom (some p) (UInt8.ofNat n :: bs) =
      Char.ofNat (p.point * 64 + (n - 0x80)) :: decodeFrom none bs := by
  rw [decodeFrom, if_pos (Pending.accepts_ofNat low high), if_pos (Nat.le_of_eq last),
    Pending.extend_ofNat (Nat.lt_of_le_of_lt high p.upper.toNat_lt)]

/-- A last byte of six bits completes a character. -/
theorem decodeFrom_tail {point v : Nat} (bs : List UInt8) :
    decodeFrom (some ⟨1, 0x80, 0xBF, point⟩) (UInt8.ofNat (v % 64 + 128) :: bs) =
      Char.ofNat (point * 64 + v % 64) :: decodeFrom none bs := by
  rw [decodeFrom_last bs rfl (Nat.le_add_left 128 _) (by show v % 64 + 128 ≤ 191; omega),
    Nat.add_sub_cancel]

/-- The last two bytes of a character. -/
theorem decodeFrom_tails {p : Pending} {v : Nat} (bs : List UInt8) (two : p.needed = 2)
    (low : p.lower.toNat ≤ v / 64 % 64 + 128) (high : v / 64 % 64 + 128 ≤ p.upper.toNat) :
    decodeFrom (some p) (UInt8.ofNat (v / 64 % 64 + 128) :: UInt8.ofNat (v % 64 + 128) :: bs) =
      Char.ofNat ((p.point * 64 + v / 64 % 64) * 64 + v % 64) :: decodeFrom none bs := by
  rw [decodeFrom_more _ (by omega) low high, two, decodeFrom_tail, Nat.add_sub_cancel]

/-- The leading byte of a character of three bytes. -/
theorem Lead.ofByte_three {v : Nat} (low : 0x7FF < v) (high : v ≤ 0xFFFF) :
    ∃ lower upper, Lead.ofByte (UInt8.ofNat (v / 4096 % 16 + 224)) =
        .opens ⟨2, lower, upper, v / 4096⟩ ∧
      (v < 0xD800 ∨ 0xDFFF < v →
        lower.toNat ≤ v / 64 % 64 + 128 ∧ v / 64 % 64 + 128 ≤ upper.toNat) := by
  rw [Lead.ofByte_ofNat (by omega), if_neg (by omega), if_neg (by omega), if_neg (by omega)]
  -- after the least leading byte and before the surrogates the second byte has a range of its own
  by_cases first : v / 4096 = 0
  · rw [if_pos (by omega), first]
    refine ⟨0xA0, 0xBF, rfl, fun _ => ?_⟩
    show 160 ≤ v / 64 % 64 + 128 ∧ v / 64 % 64 + 128 ≤ 191
    omega
  · rw [if_neg (by omega)]
    by_cases surrogates : v / 4096 = 13
    · rw [if_pos (by omega), surrogates]
      refine ⟨0x80, 0x9F, rfl, fun _ => ?_⟩
      show 128 ≤ v / 64 % 64 + 128 ∧ v / 64 % 64 + 128 ≤ 159
      omega
    · rw [if_neg (by omega), if_pos (by omega),
        show v / 4096 % 16 + 224 - 0xE0 = v / 4096 by omega]
      refine ⟨0x80, 0xBF, rfl, fun _ => ?_⟩
      show 128 ≤ v / 64 % 64 + 128 ∧ v / 64 % 64 + 128 ≤ 191
      omega

/-- The leading byte of a character of four bytes. -/
theorem Lead.ofByte_four {v : Nat} (low : 0xFFFF < v) (high : v < 0x110000) :
    ∃ lower upper, Lead.ofByte (UInt8.ofNat (v / 262144 % 8 + 240)) =
        .opens ⟨3, lower, upper, v / 262144⟩ ∧
      lower.toNat ≤ v / 4096 % 64 + 128 ∧ v / 4096 % 64 + 128 ≤ upper.toNat := by
  rw [Lead.ofByte_ofNat (by omega), if_neg (by omega), if_neg (by omega), if_neg (by omega),
    if_neg (by omega), if_neg (by omega), if_neg (by omega)]
  -- the least leading byte and the greatest narrow the second byte
  by_cases first : v / 262144 = 0
  · rw [if_pos (by omega), first]
    refine ⟨0x90, 0xBF, rfl, ?_⟩
    show 144 ≤ v / 4096 % 64 + 128 ∧ v / 4096 % 64 + 128 ≤ 191
    omega
  · rw [if_neg (by omega)]
    by_cases last : v / 262144 = 4
    · rw [if_neg (by omega), if_pos (by omega), last]
      refine ⟨0x80, 0x8F, rfl, ?_⟩
      show 128 ≤ v / 4096 % 64 + 128 ∧ v / 4096 % 64 + 128 ≤ 143
      omega
    · rw [if_pos (by omega), show v / 262144 % 8 + 240 - 0xF0 = v / 262144 by omega]
      refine ⟨0x80, 0xBF, rfl, ?_⟩
      show 128 ≤ v / 4096 % 64 + 128 ∧ v / 4096 % 64 + 128 ≤ 191
      omega

/-- The bytes of a character are read as that character. -/
theorem decodeFrom_charBytes (c : Char) (bs : List UInt8) :
    decodeFrom none (charBytes c ++ bs) = c :: decodeFrom none bs := by
  have valid : c.toNat < 0xD800 ∨ 0xDFFF < c.toNat ∧ c.toNat < 0x110000 := c.valid
  have whole : Char.ofNat c.toNat = c := Char.ofNat_toNat c
  simp only [charBytes, String.utf8EncodeChar, show c.val.toNat = c.toNat from rfl]
  generalize c.toNat = v at valid whole
  -- one case for each length
  split_ifs with one two three <;> simp only [List.cons_append, List.nil_append]
  · rw [decodeFrom, Lead.ofByte_ofNat (by omega), if_pos (by omega)]
    simp only [whole]
  · have lead : Lead.ofByte (UInt8.ofNat (v / 64 % 32 + 192)) = .opens ⟨1, 0x80, 0xBF, v / 64⟩ := by
      rw [Lead.ofByte_ofNat (by omega), if_neg (by omega), if_neg (by omega), if_pos (by omega),
        show v / 64 % 32 + 192 - 0xC0 = v / 64 by omega]
    rw [decodeFrom_opens _ lead, decodeFrom_tail, show v / 64 * 64 + v % 64 = v by omega, whole]
  · obtain ⟨lower, upper, lead, range⟩ := Lead.ofByte_three (v := v) (by omega) three
    obtain ⟨low, high⟩ := range (by omega)
    rw [decodeFrom_opens _ lead, decodeFrom_tails _ rfl low high,
      show (v / 4096 * 64 + v / 64 % 64) * 64 + v % 64 = v by omega, whole]
  · obtain ⟨lower, upper, lead, low, high⟩ := Lead.ofByte_four (v := v) (by omega) (by omega)
    have point : ((v / 262144 * 64 + v / 4096 % 64) * 64 + v / 64 % 64) * 64 + v % 64 = v := by
      omega
    rw [decodeFrom_opens _ lead, decodeFrom_more _ (show 1 < 3 by decide) low high,
      decodeFrom_tails _ rfl (Nat.le_add_left 128 _) (by show v / 64 % 64 + 128 ≤ 191; omega),
      Nat.add_sub_cancel, point, whole]

/-- The bytes of a text are read as the text, whatever follows them. -/
theorem decodeLossy_bytes_append (cs : List Char) (bs : List UInt8) :
    decodeLossy (bytes cs ++ bs) = cs ++ decodeLossy bs := by
  induction cs with
  | nil => rfl
  | cons c cs ih =>
    rw [bytes, List.flatMap_cons, List.append_assoc, decodeLossy, decodeFrom_charBytes]
    exact congrArg (c :: ·) ih

/-- Reading the bytes of a text gives the text. -/
theorem decodeLossy_bytes (cs : List Char) : decodeLossy (bytes cs) = cs := by
  have h := decodeLossy_bytes_append cs []
  rw [List.append_nil] at h
  exact h.trans (List.append_nil cs)

/-- Different texts have different bytes. -/
theorem bytes_inj {cs ds : List Char} : bytes cs = bytes ds ↔ cs = ds :=
  ⟨fun h => by rw [← decodeLossy_bytes cs, h, decodeLossy_bytes], congrArg bytes⟩

/-- No byte of a text is above the leading bytes of characters of four bytes. -/
theorem toNat_lt_of_mem_bytes {cs : List Char} {b : UInt8} (h : b ∈ bytes cs) :
    b.toNat < 0xF8 := by
  have small {n : Nat} (lt : n < 0xF8) (same : b = UInt8.ofNat n) : b.toNat < 0xF8 := by
    rw [same, UInt8.toNat_ofNat_of_lt' (Nat.lt_trans lt (by decide))]
    exact lt
  obtain ⟨c, -, stands⟩ := List.mem_flatMap.mp h
  simp only [charBytes, String.utf8EncodeChar] at stands
  generalize c.val.toNat = v at stands
  -- one case for each length
  split_ifs at stands <;> simp only [List.mem_cons, List.not_mem_nil, or_false] at stands
  · exact small (by omega) stands
  · rcases stands with same | same <;> exact small (by omega) same
  · rcases stands with same | same | same <;> exact small (by omega) same
  · rcases stands with same | same | same | same <;> exact small (by omega) same

end MetricPath.Text
