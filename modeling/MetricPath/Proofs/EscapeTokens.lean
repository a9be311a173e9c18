import Mathlib.Logic.ExistsUnique
import MetricPath.Proofs.Escape

/-!
# The tokens of an escaped text

An escaped text is a sequence of tokens (`IsToken`): a character that structures nothing, a symbol
behind a backslash, or a byte behind a percent sign.  No token begins as another one does
(`IsToken.eq_of_append`), so that a text is cut into tokens in at most one way
(`eq_of_flatten_tokens`), and escaping writes each character as tokens
(`exists_tokens_escapeChar`).

Escaping goes character by character.  So escaped texts one after the other are the escaped form of
the texts one after the other, and they are read as these.
-/

namespace MetricPath.Escape

open Text

/-- The characters that a token of one character is not. -/
def reserved : List Char := ['.', '%', '/', '=', '(', ')', '{', '}', ',', '\'', '"', '\\']

/-- The symbols that stand behind a backslash. -/
def backslashed : List Char := ['(', ')', '{', '}', ',', '\'', '"', '\\']

/-- The digits behind a percent sign. -/
def hexDigits : List Char := "0123456789ABCDEF".toList

/-- What escaped texts are made of. -/
inductive IsToken : List Char → Prop where
  | bare {c : Char} : isGraphic c → c ∉ reserved → IsToken [c]
  | symbol {c : Char} : c ∈ backslashed → IsToken ['\\', c]
  | byte {high low : Char} : high ∈ hexDigits → low ∈ hexDigits → IsToken ['%', high, low]

/-! ## One way to cut -/

/-- Two tokens at the beginning of one text are the same. -/
theorem IsToken.eq_of_append {t t' x y : List Char} (ht : IsToken t) (ht' : IsToken t')
    (h : t ++ x = t' ++ y) : t = t' := by
  cases ht with
  | @bare c _ free =>
    cases ht' with
    | bare => rw [(List.cons.inj h).1]
    | symbol =>
      rw [(List.cons.inj h).1] at free
      exact absurd (by decide) free
    | byte =>
      rw [(List.cons.inj h).1] at free
      exact absurd (by decide) free
  | symbol =>
    cases ht' with
    | @bare c _ free =>
      rw [← (List.cons.inj h).1] at free
      exact absurd (by decide) free
    | symbol => rw [(List.cons.inj (List.cons.inj h).2).1]
    | byte => exact absurd (List.cons.inj h).1 (by decide)
  | byte =>
    cases ht' with
    | @bare c _ free =>
      rw [← (List.cons.inj h).1] at free
      exact absurd (by decide) free
    | symbol => exact absurd (List.cons.inj h).1 (by decide)
    | byte =>
      obtain ⟨high, rest⟩ := List.cons.inj (List.cons.inj h).2
      rw [high, (List.cons.inj rest).1]

theorem IsToken.ne_nil {t : List Char} (h : IsToken t) : t ≠ [] := by
  cases h <;> exact List.cons_ne_nil _ _

/-- A text is cut into tokens in at most one way. -/
theorem eq_of_flatten_tokens {ts us : List (List Char)} (hts : ∀ t ∈ ts, IsToken t)
    (hus : ∀ u ∈ us, IsToken u) (h : ts.flatten = us.flatten) : ts = us := by
  induction ts generalizing us with
  | nil =>
    cases us with
    | nil => rfl
    | cons u us =>
      have empty := (List.append_eq_nil_iff.mp h.symm).1
      exact absurd empty (hus u List.mem_cons_self).ne_nil
  | cons t ts ih =>
    obtain ⟨token, others⟩ := List.forall_mem_cons.mp hts
    cases us with
    | nil => exact absurd (List.append_eq_nil_iff.mp h).1 token.ne_nil
    | cons u us =>
      obtain ⟨token', others'⟩ := List.forall_mem_cons.mp hus
      rw [List.flatten_cons, List.flatten_cons] at h
      obtain rfl := token.eq_of_append token' h
      rw [ih others others' (List.append_cancel_left h)]

/-! ## Tokens of escaped texts -/

/-- A byte is written as a token. -/
theorem isToken_percentByte (b : UInt8) : IsToken (percentByte b) := by
  have digits : ∀ n < 16, hexDigit n ∈ hexDigits := by decide
  have bound := b.toNat_lt
  exact .byte (digits _ (by omega)) (digits _ (by omega))

/-- Reserved characters are separators or symbols. -/
theorem of_mem_reserved {c : Char} (h : c ∈ reserved) : isSeparator c ∨ isSymbol c := by
  simp only [reserved, List.mem_cons, List.not_mem_nil, or_false] at h
  rcases h with rfl | rfl | rfl | rfl | rfl | rfl | rfl | rfl | rfl | rfl | rfl | rfl <;> decide

/-- Symbols are separators, or stand behind a backslash. -/
theorem of_isSymbol {c : Char} (h : isSymbol c) : isSeparator c ∨ c ∈ backslashed := by
  simp only [isSymbol, List.mem_cons, List.not_mem_nil, or_false, decide_eq_true_eq] at h
  rcases h with rfl | rfl | rfl | rfl | rfl | rfl | rfl | rfl | rfl | rfl <;> decide

/-- A character is written as tokens. -/
theorem exists_tokens_escapeChar (c : Char) :
    ∃ ts : List (List Char), (∀ t ∈ ts, IsToken t) ∧ ts.flatten = escapeChar c := by
  have bytes : ∃ ts : List (List Char), (∀ t ∈ ts, IsToken t) ∧
      ts.flatten = (charBytes c).flatMap percentByte :=
    ⟨(charBytes c).map percentByte, List.forall_mem_map.mpr fun b _ => isToken_percentByte b, rfl⟩
  unfold escapeChar
  split_ifs with separator symbol graphic
  · exact bytes
  · have stands : c ∈ backslashed := (of_isSymbol symbol).resolve_left separator
    exact ⟨[['\\', c]], List.forall_mem_singleton.mpr (.symbol stands), rfl⟩
  · have free : c ∉ reserved := fun h => (of_mem_reserved h).elim separator symbol
    exact ⟨[[c]], List.forall_mem_singleton.mpr (.bare graphic free), rfl⟩
  · exact bytes

/-- A text is written as tokens. -/
theorem exists_tokens_escapeChars (cs : List Char) :
    ∃ ts : List (List Char), (∀ t ∈ ts, IsToken t) ∧ ts.flatten = escapeChars cs := by
  induction cs with
  | nil => exact ⟨[], List.forall_mem_nil _, rfl⟩
  | cons c cs ih =>
    obtain ⟨ts, tokens, first⟩ := exists_tokens_escapeChar c
    obtain ⟨us, tokens', rest⟩ := ih
    refine ⟨ts ++ us, List.forall_mem_append.mpr ⟨tokens, tokens'⟩, ?_⟩
    rw [List.flatten_append, first, rest, escapeChars, escapeChars, List.flatMap_cons]

/-! ## Texts one after the other -/

/-- Escaping distributes over putting texts together. -/
theorem escape_append (s t : String) : escape (s ++ t) = escape s ++ escape t := by
  rw [escape, escape, escape, ← String.ofList_append, String.toList_append, escapeChars,
    List.flatMap_append, ← escapeChars, ← escapeChars]

/-- Escaped texts put together are the escaped form of the texts put together. -/
theorem join_map_escape (ss : List String) :
    String.join (ss.map escape) = escape (String.join ss) := by
  induction ss with
  | nil => rfl
  | cons s ss ih => rw [List.map_cons, String.join_cons, String.join_cons, ih, escape_append]

/-- **Escaped texts are inert.**  An escaped text is cut into tokens in exactly one way, escaping
distributes over putting texts together, and escaped texts put together are read as the texts put
together. -/
theorem escape_inert :
    (∀ s : String, ∃! ts : List (List Char),
      (∀ t ∈ ts, IsToken t) ∧ ts.flatten = (escape s).toList) ∧
    (∀ s t : String, escape (s ++ t) = escape s ++ escape t) ∧
    ∀ ss : List String, unescape (String.join (ss.map escape)) = String.join ss := by
  refine ⟨fun s => ?_, escape_append, fun ss => ?_⟩
  · obtain ⟨ts, tokens, whole⟩ := exists_tokens_escapeChars s.toList
    have written : (escape s).toList = escapeChars s.toList := String.toList_ofList
    refine ⟨ts, ⟨tokens, whole.trans written.symm⟩, fun us ⟨tokens', whole'⟩ => ?_⟩
    exact eq_of_flatten_tokens tokens' tokens (whole'.trans (written.trans whole.symm))
  · rw [join_map_escape, unescape_escape]

end MetricPath.Escape
