import Mathlib.Data.List.Infix
import Mathlib.Tactic.SplitIfs
import MetricPath.Proofs.Split
import MetricPath.Text.Utf8

/-!
# Positions in a text

A position in a text is a number of bytes.  A text can be cut there only if the position is not
behind its end and not within a character: `splitAt?` has no answer otherwise, and the positions at
which it has one are those that the beginnings of the text have as their lengths
(`splitAt?_eq_some_iff`).

A reader that keeps a position instead of the text left has to know that a cut at it goes well.
All it needs for that is what the text left is: from `cutFrom? source pos = some left` follow the
byte at the position (`byteAt?_any`, `byteAt?_eq_some_iff`), the text left behind a part of `left`
(`cutFrom?_add`) or behind all characters of a class (`cutFrom?_skipAt`), and the text between two
positions (`cutBetween?_of_cutFrom?`).  Where less is left, a reader has got further
(`further?_of_cutFrom?`).
-/

namespace MetricPath.Text

variable {source left taken rest : List Char} {pos : Nat} {c : Char} {p : Char → Bool}

/-! ## Cutting at a byte -/

/-- Cut a text at a byte.  There is no cut behind the end or within a character. -/
def splitAt? : List Char → Nat → Option (List Char × List Char)
  | cs, 0 => some ([], cs)
  | [], _ + 1 => none
  | c :: cs, n + 1 =>
    if c.utf8Size ≤ n + 1 then
      (splitAt? cs (n + 1 - c.utf8Size)).map fun (before, rest) => (c :: before, rest)
    else none

/-- The text from a position on. -/
def cutFrom? (source : List Char) (pos : Nat) : Option (List Char) :=
  (splitAt? source pos).map Prod.snd

/-- The text from one position up to another, which must not come before it. -/
def cutBetween? (source : List Char) (pos stop : Nat) : Option (List Char) :=
  (splitAt? source stop).bind fun (before, _) => cutFrom? before pos

/-- The position of the first occurrence of a text. -/
def find? (pattern cs : List Char) : Option Nat :=
  (cutAt? pattern cs).map fun (before, _) => byteLength before

theorem byteLength_eq_zero_iff {cs : List Char} : byteLength cs = 0 ↔ cs = [] := by
  cases cs with
  | nil => exact iff_of_true rfl rfl
  | cons c cs =>
    have size := c.utf8Size_pos
    exact iff_of_false (by rw [byteLength_cons]; omega) (List.cons_ne_nil c cs)

/-- A text is cut into a beginning and what is behind it, at the length of the beginning. -/
theorem splitAt?_eq_some_iff :
    splitAt? source pos = some (taken, rest) ↔ source = taken ++ rest ∧ pos = byteLength taken := by
  induction source generalizing pos taken with
  | nil =>
    cases pos with
    | zero => cases taken <;> simp [splitAt?, eq_comm]
    | succ n => cases taken <;> simp [splitAt?]
  | cons c cs ih =>
    have size := c.utf8Size_pos
    cases pos with
    | zero =>
      cases taken with
      | nil => simp [splitAt?, eq_comm]
      | cons d taken =>
        have size := d.utf8Size_pos
        simp [splitAt?]
        omega
    | succ n =>
      rw [splitAt?]
      split_ifs with fits
      · rw [Option.map_eq_some_iff]
        constructor
        · rintro ⟨⟨before, after⟩, cut, eq⟩
          cases eq
          obtain ⟨rfl, length⟩ := ih.mp cut
          exact ⟨rfl, by rw [byteLength_cons]; omega⟩
        · rintro ⟨whole, length⟩
          cases taken with
          | nil => cases length
          | cons d taken =>
            cases whole
            rw [byteLength_cons] at length
            exact ⟨(taken, rest), ih.mpr ⟨rfl, by omega⟩, rfl⟩
      · refine iff_of_false nofun ?_
        rintro ⟨whole, length⟩
        cases taken with
        | nil => cases length
        | cons d taken =>
          cases whole
          rw [byteLength_cons] at length
          omega

theorem cutFrom?_eq_some_iff :
    cutFrom? source pos = some left ↔ ∃ taken, source = taken ++ left ∧ pos = byteLength taken := by
  simp only [cutFrom?, Option.map_eq_some_iff, Prod.exists, splitAt?_eq_some_iff]
  constructor
  · rintro ⟨taken, _, whole, rfl⟩
    exact ⟨taken, whole⟩
  · rintro ⟨taken, whole⟩
    exact ⟨taken, left, whole, rfl⟩

example : (List.range 5).map (cutFrom? ['é', 'a']) =
    [some ['é', 'a'], none, some ['a'], some [], none] := by decide

theorem cutFrom?_zero (source : List Char) : cutFrom? source 0 = some source :=
  cutFrom?_eq_some_iff.mpr ⟨[], rfl, rfl⟩

theorem cutFrom?_byteLength (source : List Char) : cutFrom? source (byteLength source) = some [] :=
  cutFrom?_eq_some_iff.mpr ⟨source, (List.append_nil source).symm, rfl⟩

/-- A part of the text left is passed over. -/
theorem cutFrom?_add (h : cutFrom? source pos = some (taken ++ rest)) :
    cutFrom? source (pos + byteLength taken) = some rest := by
  obtain ⟨before, rfl, rfl⟩ := cutFrom?_eq_some_iff.mp h
  exact cutFrom?_eq_some_iff.mpr ⟨before ++ taken, by simp, by simp⟩

/-- A text with which the text left begins is passed over. -/
theorem cutFrom?_of_dropBeginning? (h : cutFrom? source pos = some left)
    (found : dropBeginning? taken left = some rest) :
    cutFrom? source (pos + byteLength taken) = some rest :=
  cutFrom?_add (by rwa [← eq_append_of_dropBeginning? found])

/-- The text between the position of a text left and that of its end is what has been taken. -/
theorem cutBetween?_of_cutFrom? {stop : Nat} (start : cutFrom? source pos = some (taken ++ rest))
    (h : cutFrom? source stop = some rest) : cutBetween? source pos stop = some taken := by
  obtain ⟨before, rfl, rfl⟩ := cutFrom?_eq_some_iff.mp start
  obtain ⟨upTo, whole, rfl⟩ := cutFrom?_eq_some_iff.mp h
  rw [← List.append_assoc] at whole
  have upTo : before ++ taken = upTo := List.append_cancel_right whole
  subst upTo
  rw [cutBetween?, splitAt?_eq_some_iff.mpr ⟨(List.append_assoc before taken rest).symm, rfl⟩]
  exact cutFrom?_eq_some_iff.mpr ⟨before, rfl, rfl⟩

/-- A text can be cut out between two positions of which the second does not come first. -/
theorem isSome_cutBetween?_iff {stop : Nat} : (cutBetween? source pos stop).isSome ↔
    pos ≤ stop ∧ (cutFrom? source pos).isSome ∧ (cutFrom? source stop).isSome := by
  simp only [Option.isSome_iff_exists, cutFrom?_eq_some_iff]
  constructor
  · rintro ⟨between, cut⟩
    obtain ⟨⟨upTo, rest⟩, split, start⟩ := Option.bind_eq_some_iff.mp cut
    obtain ⟨rfl, rfl⟩ := splitAt?_eq_some_iff.mp split
    obtain ⟨before, rfl, rfl⟩ := cutFrom?_eq_some_iff.mp start
    refine ⟨?_, ⟨between ++ rest, before, List.append_assoc _ _ _, rfl⟩, rest, _, rfl, rfl⟩
    rw [byteLength_append]
    exact Nat.le_add_right _ _
  · rintro ⟨le, ⟨left, before, rfl, rfl⟩, rest, upTo, whole, rfl⟩
    have start : cutFrom? (before ++ left) (byteLength before) = some left :=
      cutFrom?_eq_some_iff.mpr ⟨before, rfl, rfl⟩
    have stop : cutFrom? (before ++ left) (byteLength upTo) = some rest :=
      cutFrom?_eq_some_iff.mpr ⟨upTo, whole, rfl⟩
    rcases List.prefix_or_prefix_of_prefix (List.prefix_append before left)
      (whole ▸ List.prefix_append upTo rest) with ⟨between, rfl⟩ | ⟨more, rfl⟩
    · rw [List.append_assoc] at whole
      rw [List.append_cancel_left whole] at start stop ⊢
      exact ⟨between, cutBetween?_of_cutFrom? start stop⟩
    · -- the second position is not before the first, so nothing is between
      have none : more = [] := by
        rw [← byteLength_eq_zero_iff]
        rw [byteLength_append] at le
        omega
      subst none
      rw [List.append_nil] at start stop whole ⊢
      rw [List.append_cancel_left whole] at start stop ⊢
      exact ⟨[], cutBetween?_of_cutFrom? start stop⟩

/-- A position is the length of the source without the text left. -/
theorem byteLength_sub_of_cutFrom? (h : cutFrom? source pos = some left) :
    byteLength source - byteLength left = pos := by
  obtain ⟨before, rfl, rfl⟩ := cutFrom?_eq_some_iff.mp h
  rw [byteLength_append, Nat.add_sub_cancel]

/-- The text left fixes the position. -/
theorem eq_of_cutFrom? {stop : Nat} (h : cutFrom? source pos = some left)
    (h' : cutFrom? source stop = some left) : pos = stop :=
  (byteLength_sub_of_cutFrom? h).symm.trans (byteLength_sub_of_cutFrom? h')

/-- A position comes back to itself if nothing has been taken. -/
theorem cutFrom?_eq_iff {stop : Nat} (start : cutFrom? source pos = some (taken ++ rest))
    (h : cutFrom? source stop = some rest) : stop = pos ↔ taken = [] := by
  rw [eq_of_cutFrom? h (cutFrom?_add start), Nat.add_eq_left, byteLength_eq_zero_iff]

/-- A position is behind the end of a text that is left only if nothing is left. -/
theorem lt_byteLength_iff (h : cutFrom? source pos = some left) :
    pos < byteLength source ↔ left ≠ [] := by
  obtain ⟨before, rfl, rfl⟩ := cutFrom?_eq_some_iff.mp h
  rw [byteLength_append, Nat.lt_add_right_iff_pos, Nat.pos_iff_ne_zero, Ne, byteLength_eq_zero_iff]

/-- A position behind the given one and not behind the end, which is at `bound`. -/
def further? (bound pos stop : Nat) : Option {n : Nat // pos < n ∧ n ≤ bound} :=
  if h : pos < stop ∧ stop ≤ bound then some ⟨stop, h⟩ else none

theorem further?_eq {bound stop : Nat} (within : pos < stop ∧ stop ≤ bound) :
    further? bound pos stop = some ⟨stop, within⟩ :=
  dif_pos within

/-- Where less is left, the position is further. -/
theorem further?_of_cutFrom? {stop : Nat} (h : cutFrom? source pos = some left)
    (h' : cutFrom? source stop = some rest) (shorter : rest.length < left.length) :
    ∃ within, further? (byteLength source) pos stop = some ⟨stop, within⟩ := by
  obtain ⟨before, rfl, rfl⟩ := cutFrom?_eq_some_iff.mp h
  obtain ⟨upTo, whole, rfl⟩ := cutFrom?_eq_some_iff.mp h'
  have within : byteLength before < byteLength upTo ∧
      byteLength upTo ≤ byteLength (before ++ left) := by
    refine ⟨?_, by rw [whole, byteLength_append]; omega⟩
    obtain ⟨taken, rfl⟩ : before <+: upTo := by
      refine List.prefix_of_prefix_length_le (List.prefix_append before left)
        (whole ▸ List.prefix_append upTo rest) ?_
      have length := congrArg List.length whole
      simp only [List.length_append] at length
      omega
    cases taken with
    | nil =>
      rw [List.append_nil] at whole
      rw [List.append_cancel_left whole] at shorter
      omega
    | cons c cs =>
      have size := c.utf8Size_pos
      rw [byteLength_append, byteLength_cons]
      omega
  exact ⟨within, further?_eq within⟩

/-! ## The byte at a position -/

/-- The byte at a position, as the character of its value. -/
def byteAt? (source : List Char) (pos : Nat) : Option Char :=
  (bytes source)[pos]?.map fun b => Char.ofNat b.toNat

theorem length_charBytes (c : Char) : (charBytes c).length = c.utf8Size :=
  String.length_utf8EncodeChar c

theorem length_bytes (cs : List Char) : (bytes cs).length = byteLength cs := by
  induction cs with
  | nil => rfl
  | cons c cs ih =>
    rw [bytes, List.flatMap_cons, List.length_append, length_charBytes, byteLength_cons, ← ih]
    rfl

theorem toNat_charOfByte (b : UInt8) : (Char.ofNat b.toNat).toNat = b.toNat := by
  rw [Char.ofNat, dif_pos (Or.inl (Nat.lt_trans b.toNat_lt (by decide)))]
  rfl

/-- A character of ASCII is its own byte, and any other begins with a byte that is not in ASCII. -/
theorem exists_charBytes (c : Char) : ∃ b bs, charBytes c = b :: bs ∧
    (c.toNat < 0x80 → Char.ofNat b.toNat = c) ∧
    (0x80 ≤ c.toNat → 0x80 ≤ (Char.ofNat b.toNat).toNat) := by
  have valid : c.toNat < 0xD800 ∨ 0xDFFF < c.toNat ∧ c.toNat < 0x110000 := c.valid
  have whole : Char.ofNat c.toNat = c := Char.ofNat_toNat c
  simp only [charBytes, String.utf8EncodeChar, show c.val.toNat = c.toNat from rfl,
    toNat_charOfByte]
  generalize c.toNat = v at valid whole
  split_ifs with one two three
  · refine ⟨_, _, rfl, fun _ => ?_, fun wide => by omega⟩
    rw [UInt8.toNat_ofNat_of_lt' (show _ < 256 by omega), whole]
  all_goals
    refine ⟨_, _, rfl, fun _ => by omega, fun _ => ?_⟩
    rw [UInt8.toNat_ofNat_of_lt' (show _ < 256 by omega)]
    omega

theorem byteAt?_of_cutFrom? (h : cutFrom? source pos = some left) :
    byteAt? source pos = (bytes left).head?.map fun b => Char.ofNat b.toNat := by
  obtain ⟨before, rfl, rfl⟩ := cutFrom?_eq_some_iff.mp h
  rw [byteAt?, bytes, List.flatMap_append, ← bytes, ← bytes, ← length_bytes,
    List.getElem?_append_right (Nat.le_refl _), Nat.sub_self, List.head?_eq_getElem?]

theorem byteAt?_nil (h : cutFrom? source pos = some []) : byteAt? source pos = none :=
  byteAt?_of_cutFrom? h

theorem byteAt?_cons {cs : List Char} (h : cutFrom? source pos = some (c :: cs)) :
    ∃ b, byteAt? source pos = some b ∧ (c.toNat < 0x80 → b = c) ∧
      (0x80 ≤ c.toNat → 0x80 ≤ b.toNat) := by
  obtain ⟨b, bs, eq, narrow, wide⟩ := exists_charBytes c
  refine ⟨_, ?_, narrow, wide⟩
  rw [byteAt?_of_cutFrom? h, bytes, List.flatMap_cons, eq]
  rfl

/-- All characters of a class are in ASCII. -/
def InAscii (p : Char → Bool) : Prop := ∀ c, p c → c.toNat < 0x80

/-- A byte is in a class of ASCII if the character that begins with it is. -/
theorem InAscii.byte_iff (ascii : InAscii p) {b : Char} (narrow : c.toNat < 0x80 → b = c)
    (wide : 0x80 ≤ c.toNat → 0x80 ≤ b.toNat) : p b = p c := by
  by_cases inside : c.toNat < 0x80
  · rw [narrow inside]
  · have outside : ∀ d : Char, 0x80 ≤ d.toNat → p d = false := fun d high =>
      Bool.eq_false_iff.mpr fun holds => absurd (ascii d holds) (Nat.not_lt.mpr high)
    rw [outside c (Nat.not_lt.mp inside), outside b (wide (Nat.not_lt.mp inside))]

/-- A class of ASCII can be looked for in the bytes. -/
theorem byteAt?_any (ascii : InAscii p) (h : cutFrom? source pos = some left) :
    (byteAt? source pos).any p = left.head?.any p := by
  cases left with
  | nil => rw [byteAt?_nil h]; rfl
  | cons c cs =>
    obtain ⟨b, byte, narrow, wide⟩ := byteAt?_cons h
    rw [byte]
    exact ascii.byte_iff narrow wide

/-- A character of ASCII can be looked for in the bytes. -/
theorem byteAt?_eq_some_iff (ascii : c.toNat < 0x80) (h : cutFrom? source pos = some left) :
    byteAt? source pos = some c ↔ left.head? = some c := by
  have one : InAscii (· = c) := fun d eq => of_decide_eq_true eq ▸ ascii
  have any := byteAt?_any one h
  rw [Bool.eq_iff_iff] at any
  simpa [Option.any_eq_true] using any

/-- A character of ASCII is passed over. -/
theorem cutFrom?_succ {cs : List Char} (ascii : c.toNat < 0x80)
    (h : cutFrom? source pos = some (c :: cs)) : cutFrom? source (pos + 1) = some cs := by
  have size : c.utf8Size = 1 := by
    rw [Char.utf8Size_eq_one_iff]
    exact Nat.le_of_lt_succ ascii
  have passed : cutFrom? source (pos + byteLength [c]) = some cs := cutFrom?_add h
  rwa [byteLength_cons, size] at passed

/-- Two characters of ASCII can be looked for in the bytes. -/
theorem byteAt?_pair_iff (ascii : c.toNat < 0x80) (within : InAscii p)
    (h : cutFrom? source pos = some left) :
    (byteAt? source pos = some c ∧ (byteAt? source (pos + 1)).any p) ↔
      ∃ d cs, left = c :: d :: cs ∧ p d := by
  rw [byteAt?_eq_some_iff ascii h]
  constructor
  · rintro ⟨first, second⟩
    obtain ⟨cs, rfl⟩ := List.head?_eq_some_iff.mp first
    rw [byteAt?_any within (cutFrom?_succ ascii h)] at second
    cases cs with
    | nil => cases second
    | cons d cs => exact ⟨d, cs, rfl, second⟩
  · rintro ⟨d, cs, rfl, second⟩
    rw [byteAt?_any within (cutFrom?_succ ascii h)]
    exact ⟨rfl, second⟩

/-! ## Passing over a class -/

/-- The first position from the given one on whose byte is not in a class. -/
def skipAt (p : Char → Bool) (source : List Char) (pos : Nat) : Nat :=
  if (byteAt? source pos).any p then skipAt p source (pos + 1) else pos
termination_by (bytes source).length - pos
decreasing_by
  have inside : (bytes source)[pos]? ≠ none := by
    intro none
    simp_all [byteAt?]
  have := List.getElem?_eq_none_iff.not.mp inside
  omega

/-- Bytes of a class of ASCII are passed over like its characters. -/
theorem cutFrom?_skipAt (ascii : InAscii p) (h : cutFrom? source pos = some left) :
    cutFrom? source (skipAt p source pos) = some (left.dropWhile p) := by
  induction left generalizing pos with
  | nil =>
    rw [skipAt, if_neg (by rw [byteAt?_any ascii h]; exact Bool.false_ne_true)]
    exact h
  | cons c cs ih =>
    rw [skipAt, byteAt?_any ascii h, List.head?_cons, Option.any_some, List.dropWhile_cons]
    split_ifs with holds
    · exact ih (cutFrom?_succ (ascii c holds) h)
    · exact h

/-- What is passed over. -/
theorem cutBetween?_skipAt (ascii : InAscii p) (h : cutFrom? source pos = some left) :
    cutBetween? source pos (skipAt p source pos) = some (left.takeWhile p) :=
  cutBetween?_of_cutFrom? (by rwa [List.takeWhile_append_dropWhile]) (cutFrom?_skipAt ascii h)

end MetricPath.Text
