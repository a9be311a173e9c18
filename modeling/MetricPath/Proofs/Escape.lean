import MetricPath.Escape
import MetricPath.Proofs.Utf8

/-!
# The escape codec

Reading undoes escaping (`unescapeChars_escapeChars`).  The two passes of reading are undone in
turn: decoding the percent signs leaves a text in which reserved symbols that are no separators
stand behind a backslash (`marked`), and dropping those backslashes leaves the text that was
escaped.

What may stand in an escaped text is `isPlain_of_mem_escapeChars`: graphic ASCII without the
characters that structure a path.  A symbol without a backslash before it ends the text
(`escapeChars_append_cons_inj`), and a text in which every character stands for itself is left alone
(`escapeChars_eq_self_iff`).
-/

namespace MetricPath.Escape

open Text

/-! ## Decoding percent signs -/

/-- A character of ASCII is one byte. -/
theorem charBytes_ascii {c : Char} (h : c.toNat < 0x80) : charBytes c = [UInt8.ofNat c.toNat] := by
  rw [charBytes, String.utf8EncodeChar]
  exact if_pos (Nat.le_of_lt_succ h)

/-- A byte that is no percent sign stays. -/
theorem percentDecode_cons {b : UInt8} (h : b ≠ 0x25) (bs : List UInt8) :
    percentDecode (b :: bs) = b :: percentDecode bs := by
  match bs with
  | [] => rfl
  | [_] => rfl
  | _ :: _ :: _ => rw [percentDecode, if_neg h]

/-- A percent sign that two digits follow is replaced together with them. -/
theorem percentDecode_digits {h l high low : UInt8} (hh : hexByte? h = some high)
    (hl : hexByte? l = some low) (bs : List UInt8) :
    percentDecode (0x25 :: h :: l :: bs) = (high * 16 + low) :: percentDecode bs := by
  rw [percentDecode, if_pos rfl, hh, hl]

/-- The digits of a byte are single bytes that are read as what they stand for. -/
theorem charBytes_hexDigit :
    ∀ n < 16, (charBytes (hexDigit n)).map hexByte? = [some (UInt8.ofNat n)] := by
  decide

/-- An escaped byte is decoded. -/
theorem percentDecode_percentByte (b : UInt8) (bs : List UInt8) :
    percentDecode (bytes (percentByte b) ++ bs) = b :: percentDecode bs := by
  have bound := b.toNat_lt
  obtain ⟨h, high, hh⟩ :=
    List.map_eq_singleton_iff.mp (charBytes_hexDigit (b.toNat / 16) (by omega))
  obtain ⟨l, low, hl⟩ :=
    List.map_eq_singleton_iff.mp (charBytes_hexDigit (b.toNat % 16) (by omega))
  have value : UInt8.ofNat (b.toNat / 16) * 16 + UInt8.ofNat (b.toNat % 16) = b := by
    rw [← UInt8.toNat_inj]
    simp only [UInt8.toNat_add, UInt8.toNat_mul, UInt8.toNat_ofNat', UInt8.reduceToNat]
    omega
  rw [percentByte, bytes, List.flatMap_cons, List.flatMap_cons, List.flatMap_cons, high, low,
    charBytes_ascii (c := '%') (by decide)]
  exact (percentDecode_digits hh hl bs).trans (by rw [value])

/-- Escaped bytes are decoded. -/
theorem percentDecode_percentBytes (ws bs : List UInt8) :
    percentDecode (bytes (ws.flatMap percentByte) ++ bs) = ws ++ percentDecode bs := by
  induction ws with
  | nil => rfl
  | cons w ws ih =>
    rw [List.flatMap_cons, bytes, List.flatMap_append, List.append_assoc]
    exact (percentDecode_percentByte w _).trans (congrArg (w :: ·) ih)

/-- A character of ASCII other than the percent sign stays. -/
theorem percentDecode_charBytes {c : Char} (ascii : c.toNat < 0x80) (ne : c ≠ '%')
    (bs : List UInt8) : percentDecode (charBytes c ++ bs) = charBytes c ++ percentDecode bs := by
  rw [charBytes_ascii ascii]
  refine percentDecode_cons (fun h => ne (Char.toNat_inj.mp ?_)) bs
  have value := congrArg UInt8.toNat h
  rwa [UInt8.toNat_ofNat', Nat.mod_eq_of_lt (by omega)] at value

/-! ## The text between the two passes -/

/-- What decoding the percent signs of an escaped character leaves. -/
def marked (c : Char) : List Char :=
  if isSymbol c ∧ ¬ isSeparator c then ['\\', c] else [c]

theorem isGraphic_ascii {c : Char} (h : isGraphic c = true) : c.toNat < 0x80 := by
  simp only [isGraphic, Bool.and_eq_true, decide_eq_true_eq] at h
  exact Nat.lt_of_le_of_lt h.2 (by decide)

/-- Symbols are graphic, and the percent sign is none of them. -/
theorem isSymbol_graphic {c : Char} (h : isSymbol c = true) : isGraphic c = true ∧ c ≠ '%' := by
  simp only [isSymbol, List.mem_cons, List.not_mem_nil, or_false, decide_eq_true_eq] at h
  rcases h with rfl | rfl | rfl | rfl | rfl | rfl | rfl | rfl | rfl | rfl <;> decide

/-- The three escaped forms of a character, and what decoding leaves of each. -/
theorem escapeChar_cases (c : Char) :
    escapeChar c = (charBytes c).flatMap percentByte ∧ marked c = [c] ∨
      isSymbol c = true ∧ ¬ isSeparator c = true ∧ escapeChar c = ['\\', c] ∧
        marked c = ['\\', c] ∨
      isGraphic c = true ∧ ¬ isSeparator c = true ∧ escapeChar c = [c] ∧ marked c = [c] := by
  unfold escapeChar marked
  by_cases separator : isSeparator c = true
  · exact .inl ⟨if_pos separator, if_neg fun h => h.2 separator⟩
  · rw [if_neg separator]
    by_cases symbol : isSymbol c = true
    · exact .inr (.inl ⟨symbol, separator, if_pos symbol, if_pos ⟨symbol, separator⟩⟩)
    · have bare : ¬ (isSymbol c = true ∧ ¬ isSeparator c = true) := fun h => symbol h.1
      rw [if_neg symbol, if_neg bare]
      by_cases graphic : isGraphic c = true
      · exact .inr (.inr ⟨graphic, separator, if_pos graphic, rfl⟩)
      · exact .inl ⟨if_neg graphic, rfl⟩

/-- Decoding the percent signs of an escaped character. -/
theorem percentDecode_escapeChar (c : Char) (bs : List UInt8) :
    percentDecode (bytes (escapeChar c) ++ bs) = bytes (marked c) ++ percentDecode bs := by
  have single : bytes [c] = charBytes c := List.flatMap_singleton ..
  rcases escapeChar_cases c with ⟨escaped, left⟩ | ⟨symbol, separator, escaped, left⟩ |
    ⟨graphic, separator, escaped, left⟩ <;> rw [escaped, left]
  · rw [percentDecode_percentBytes, single]
  · -- the backslash and the symbol are both no percent sign
    have ⟨graphic, ne⟩ := isSymbol_graphic symbol
    rw [bytes, List.flatMap_cons, ← bytes, single, List.append_assoc,
      percentDecode_charBytes (by decide) (by decide),
      percentDecode_charBytes (isGraphic_ascii graphic) ne, List.append_assoc]
  · have ne : c ≠ '%' := fun h => separator (by rw [h]; decide)
    rw [single, percentDecode_charBytes (isGraphic_ascii graphic) ne]

/-- Decoding the percent signs of an escaped text. -/
theorem percentDecode_escapeChars (cs : List Char) :
    percentDecode (bytes (escapeChars cs)) = bytes (cs.flatMap marked) := by
  induction cs with
  | nil => rfl
  | cons c cs ih =>
    rw [escapeChars, List.flatMap_cons, bytes, List.flatMap_append, ← bytes,
      percentDecode_escapeChar, ← bytes, ← escapeChars, ih, List.flatMap_cons, bytes, bytes, bytes,
      List.flatMap_append]

/-- A character that is no backslash stays. -/
theorem dropBackslashes_cons {c : Char} (h : c ≠ '\\') (cs : List Char) :
    dropBackslashes (c :: cs) = c :: dropBackslashes cs := by
  rw [dropBackslashes]
  exact fun _ _ e _ => h e

/-- The backslash before a symbol is dropped, and other characters are no backslashes. -/
theorem dropBackslashes_marked (c : Char) (cs : List Char) :
    dropBackslashes (marked c ++ cs) = c :: dropBackslashes cs := by
  unfold marked
  by_cases h : isSymbol c = true ∧ ¬ isSeparator c = true
  · rw [if_pos h]
    exact if_pos h.1
  · rw [if_neg h]
    exact dropBackslashes_cons (fun e => h (by rw [e]; decide)) cs

/-- Dropping the backslashes of what the first pass leaves. -/
theorem dropBackslashes_flatMap_marked (cs : List Char) :
    dropBackslashes (cs.flatMap marked) = cs := by
  induction cs with
  | nil => rfl
  | cons c cs ih => rw [List.flatMap_cons, dropBackslashes_marked, ih]

/-! ## Round trip -/

/-- Reading undoes escaping. -/
theorem unescapeChars_escapeChars (cs : List Char) : unescapeChars (escapeChars cs) = cs := by
  rw [unescapeChars, percentDecode_escapeChars, decodeLossy_bytes, dropBackslashes_flatMap_marked]

/-- Whatever a text holds, its escaped form stands for it. -/
theorem unescape_escape (s : String) : unescape (escape s) = s := by
  rw [unescape, escape, String.toList_ofList, unescapeChars_escapeChars, String.ofList_toList]

/-- Different texts have different escaped forms. -/
theorem escapeChars_inj {cs ds : List Char} : escapeChars cs = escapeChars ds ↔ cs = ds :=
  ⟨fun h => by rw [← unescapeChars_escapeChars cs, h, unescapeChars_escapeChars],
    congrArg escapeChars⟩

/-- Only the empty text has an empty escaped form. -/
@[simp] theorem escapeChars_eq_nil {cs : List Char} : escapeChars cs = [] ↔ cs = [] :=
  @escapeChars_inj cs []

/-! ## Where an escaped text ends -/

/-- An escaped character is read as that character, whatever follows it. -/
theorem unescapeChars_escapeChar_append (c : Char) (cs : List Char) :
    unescapeChars (escapeChar c ++ cs) = c :: unescapeChars cs := by
  rw [unescapeChars, bytes, List.flatMap_append, ← bytes, ← bytes, percentDecode_escapeChar,
    decodeLossy_bytes_append, dropBackslashes_marked, unescapeChars]

/-- A character has at least one byte. -/
theorem exists_charBytes (c : Char) : ∃ b bs, charBytes c = b :: bs := by
  refine List.exists_cons_of_ne_nil fun nil => ?_
  have length := congrArg List.length nil
  rw [charBytes, String.length_utf8EncodeChar] at length
  exact absurd length (Nat.ne_of_gt c.utf8Size_pos)

/-- An escaped character begins with a percent sign or a backslash, or stands for itself and is no
symbol. -/
theorem exists_escapeChar (c : Char) : ∃ first rest, escapeChar c = first :: rest ∧
    (first = '%' ∨ first = '\\' ∨ isSymbol first = false) := by
  unfold escapeChar
  obtain ⟨b, bs, written⟩ := exists_charBytes c
  split_ifs with separator symbol graphic
  · exact ⟨_, _, by rw [written]; rfl, .inl rfl⟩
  · exact ⟨_, _, rfl, .inr (.inl rfl)⟩
  · exact ⟨_, _, rfl, .inr (.inr (Bool.eq_false_iff.mpr symbol))⟩
  · exact ⟨_, _, by rw [written]; rfl, .inl rfl⟩

/-- A symbol other than the backslash ends an escaped text, because it stands in none without a
backslash before it. -/
theorem escapeChars_append_cons_inj {stop : Char} (symbol : isSymbol stop = true)
    (ne : stop ≠ '\\') {cs ds x y : List Char}
    (h : escapeChars cs ++ stop :: x = escapeChars ds ++ stop :: y) : cs = ds ∧ x = y := by
  have other {c : Char} {z w : List Char} (h : stop :: z = escapeChar c ++ w) : False := by
    obtain ⟨first, rest, escaped, cases⟩ := exists_escapeChar c
    rw [escaped, List.cons_append, List.cons.injEq] at h
    rw [← h.1] at cases
    rcases cases with percent | backslash | bare
    · exact (isSymbol_graphic symbol).2 percent
    · exact ne backslash
    · rw [symbol] at bare
      cases bare
  induction cs generalizing ds with
  | nil =>
    cases ds with
    | nil => exact ⟨rfl, (List.cons.inj h).2⟩
    | cons d ds =>
      rw [escapeChars, escapeChars, List.flatMap_cons, List.append_assoc] at h
      exact (other h).elim
  | cons c cs ih =>
    cases ds with
    | nil =>
      rw [escapeChars, escapeChars, List.flatMap_cons, List.append_assoc] at h
      exact (other h.symm).elim
    | cons d ds =>
      -- reading both sides gives the first characters, and these are cancelled
      rw [escapeChars, escapeChars, List.flatMap_cons, List.flatMap_cons, List.append_assoc,
        List.append_assoc, ← escapeChars, ← escapeChars] at h
      have read := congrArg unescapeChars h
      rw [unescapeChars_escapeChar_append, unescapeChars_escapeChar_append, List.cons.injEq] at read
      obtain ⟨same, -⟩ := read
      subst same
      obtain ⟨rfl, rest⟩ := ih (List.append_cancel_left h)
      exact ⟨rfl, rest⟩

/-! ## What stands in an escaped text -/

/-- Characters that an escaped text may have. -/
def isPlain (c : Char) : Bool := isGraphic c && !(c ∈ ['.', '/', '='])

theorem isPlain_of_mem_percentByte {b : UInt8} {c : Char} (h : c ∈ percentByte b) :
    isPlain c = true := by
  have digits : ∀ n < 16, isPlain (hexDigit n) = true := by decide
  have bound := b.toNat_lt
  simp only [percentByte, List.mem_cons, List.not_mem_nil, or_false] at h
  rcases h with rfl | rfl | rfl
  · decide
  · exact digits _ (by omega)
  · exact digits _ (by omega)

/-- Characters that are not written by their bytes are plain. -/
theorem isPlain_of_not_isSeparator {c : Char} (graphic : isGraphic c = true)
    (separator : ¬ isSeparator c = true) : isPlain c = true := by
  simp only [isSeparator, List.mem_cons, List.not_mem_nil, or_false, decide_eq_true_eq, not_or]
    at separator
  simp [isPlain, graphic, separator]

theorem isPlain_of_mem_escapeChar {c d : Char} (h : d ∈ escapeChar c) : isPlain d = true := by
  rcases escapeChar_cases c with ⟨escaped, -⟩ | ⟨symbol, separator, escaped, -⟩ |
    ⟨graphic, separator, escaped, -⟩ <;> rw [escaped] at h
  · obtain ⟨b, -, hb⟩ := List.mem_flatMap.mp h
    exact isPlain_of_mem_percentByte hb
  · simp only [List.mem_cons, List.not_mem_nil, or_false] at h
    rcases h with rfl | rfl
    · decide
    · exact isPlain_of_not_isSeparator (isSymbol_graphic symbol).1 separator
  · rw [List.mem_singleton.mp h]
    exact isPlain_of_not_isSeparator graphic separator

/-- Every character of an escaped text is graphic ASCII and does not structure a path. -/
theorem isPlain_of_mem_escapeChars {cs : List Char} {d : Char} (h : d ∈ escapeChars cs) :
    isPlain d = true := by
  obtain ⟨c, -, hc⟩ := List.mem_flatMap.mp h
  exact isPlain_of_mem_escapeChar hc

/-- Escaping leaves the semicolons and adds none. -/
theorem semicolon_mem_escapeChars {cs : List Char} : ';' ∈ escapeChars cs ↔ ';' ∈ cs := by
  have digits : ∀ n < 16, hexDigit n ≠ ';' := by decide
  constructor
  · intro h
    obtain ⟨c, mem, stands⟩ := List.mem_flatMap.mp h
    suffices same : c = ';' from same ▸ mem
    rcases escapeChar_cases c with ⟨escaped, -⟩ | ⟨-, -, escaped, -⟩ | ⟨-, -, escaped, -⟩ <;>
      rw [escaped] at stands
    · obtain ⟨b, -, written⟩ := List.mem_flatMap.mp stands
      have bound := b.toNat_lt
      simp only [percentByte, List.mem_cons, List.not_mem_nil, or_false] at written
      rcases written with percent | high | low
      · exact absurd percent (by decide)
      · exact absurd high.symm (digits _ (by omega))
      · exact absurd low.symm (digits _ (by omega))
    · simpa [eq_comm] using stands
    · exact (List.mem_singleton.mp stands).symm
  · intro h
    exact List.mem_flatMap.mpr ⟨';', h, by decide⟩

/-! ## What escaping leaves alone -/

/-- Characters that stand for themselves in an escaped text. -/
def isBare (c : Char) : Bool := isGraphic c && !isSeparator c && !isSymbol c

theorem escapeChar_of_isBare {c : Char} (h : isBare c = true) : escapeChar c = [c] := by
  simp only [isBare, Bool.and_eq_true, Bool.not_eq_true'] at h
  obtain ⟨⟨graphic, separator⟩, symbol⟩ := h
  simp [escapeChar, graphic, separator, symbol]

/-- A character that does not stand for itself becomes longer. -/
theorem two_le_length_escapeChar {c : Char} (h : ¬isBare c = true) :
    2 ≤ (escapeChar c).length := by
  have percent : 2 ≤ ((charBytes c).flatMap percentByte).length := by
    obtain ⟨b, bs, written⟩ := exists_charBytes c
    rw [written, List.flatMap_cons, List.length_append]
    exact Nat.le_add_right_of_le (show 2 ≤ 3 by decide)
  unfold escapeChar
  split_ifs with separator symbol graphic
  · exact percent
  · exact Nat.le_refl 2
  · simp [isBare, graphic, separator, symbol] at h
  · exact percent

/-- No text becomes shorter. -/
theorem length_le_length_escapeChars (cs : List Char) : cs.length ≤ (escapeChars cs).length := by
  induction cs with
  | nil => exact Nat.le_refl 0
  | cons c cs ih =>
    obtain ⟨first, rest, escaped, -⟩ := exists_escapeChar c
    rw [escapeChars, List.flatMap_cons, ← escapeChars, List.length_append, escaped,
      List.length_cons, List.length_cons]
    omega

/-- Escaping leaves a text alone exactly if all its characters stand for themselves. -/
theorem escapeChars_eq_self_iff {cs : List Char} :
    escapeChars cs = cs ↔ ∀ c ∈ cs, isBare c = true := by
  induction cs with
  | nil => exact iff_of_true rfl fun c mem => absurd mem List.not_mem_nil
  | cons c cs ih =>
    rw [List.forall_mem_cons, ← ih, escapeChars, List.flatMap_cons, ← escapeChars]
    by_cases bare : isBare c = true
    · rw [escapeChar_of_isBare bare, List.singleton_append, List.cons.injEq]
      exact and_congr_left fun _ => iff_of_true rfl bare
    · refine iff_of_false (fun same => ?_) fun both => bare both.1
      have longer := two_le_length_escapeChar bare
      have rest := length_le_length_escapeChars cs
      have length := congrArg List.length same
      rw [List.length_append, List.length_cons] at length
      omega

theorem escape_eq_self_iff {s : String} : escape s = s ↔ ∀ c ∈ s.toList, isBare c = true := by
  rw [← escapeChars_eq_self_iff, escape, ← String.toList_inj, String.toList_ofList]

/-- No equals sign stands in an escaped text. -/
theorem equals_notMem_escapeChars (cs : List Char) : '=' ∉ escapeChars cs :=
  fun h => absurd (isPlain_of_mem_escapeChars h) (by decide)

/-- No dot stands in an escaped text. -/
theorem dot_notMem_escapeChars (cs : List Char) : '.' ∉ escapeChars cs :=
  fun h => absurd (isPlain_of_mem_escapeChars h) (by decide)

end MetricPath.Escape
