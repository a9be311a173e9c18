import Mathlib.Algebra.GroupWithZero.Nat
import Mathlib.Data.List.DropRight
import Mathlib.Data.List.Infix
import Mathlib.Data.List.TakeWhile
import MetricPath.Text.Split

/-!
# Cutting texts at separators

Pieces in which a separator does not occur come back when the text that joins them is cut
(`splitChar_pieces`), and a text has one piece more than separators (`length_splitChar`).

Trimming leaves a text alone whose ends are not trimmed away (`trim_eq_self`).  It never adds
anything (`trim_sublist`), and an end that is trimmed away might as well not be there (`trim_cons`,
`trim_concat`).
-/

namespace MetricPath.Text

/-- A text begins with its beginning. -/
theorem dropBeginning?_append (start cs : List Char) :
    dropBeginning? start (start ++ cs) = some cs := by
  induction start with
  | nil => rfl
  | cons p ps ih => rw [List.cons_append, dropBeginning?, if_pos rfl, ih]

/-- The first separator stands at one place. -/
theorem append_cons_inj_of_notMem {α : Type} {sep : α} {a b x y : List α} (ha : sep ∉ a)
    (hb : sep ∉ b) (h : a ++ sep :: x = b ++ sep :: y) : a = b ∧ x = y := by
  induction a generalizing b with
  | nil =>
    cases b with
    | nil => exact ⟨rfl, (List.cons.inj h).2⟩
    | cons c b => exact absurd (List.cons.inj h).1 (List.ne_of_not_mem_cons hb)
  | cons c a ih =>
    cases b with
    | nil => exact absurd (List.cons.inj h).1.symm (List.ne_of_not_mem_cons ha)
    | cons d b =>
      obtain ⟨rfl, tail⟩ := List.cons.inj h
      obtain ⟨rfl, rest⟩ :=
        ih (List.not_mem_of_not_mem_cons ha) (List.not_mem_of_not_mem_cons hb) tail
      exact ⟨rfl, rest⟩

/-- The last separator stands at one place. -/
theorem append_cons_inj_of_notMem_tail {sep : Char} {a b x y : List Char} (hx : sep ∉ x)
    (hy : sep ∉ y) (h : a ++ sep :: x = b ++ sep :: y) : a = b ∧ x = y := by
  -- from behind it is the first
  have reversed := congrArg List.reverse h
  rw [List.reverse_append, List.reverse_append, List.reverse_cons, List.reverse_cons,
    List.append_assoc, List.append_assoc, List.singleton_append, List.singleton_append] at reversed
  obtain ⟨tails, heads⟩ := append_cons_inj_of_notMem (mt List.mem_reverse.mp hx)
    (mt List.mem_reverse.mp hy) reversed
  exact ⟨List.reverse_injective heads, List.reverse_injective tails⟩

/-! ## Pieces -/

/-- A text without the separator is one piece. -/
theorem splitChar_of_notMem {sep : Char} {piece : List Char} (h : sep ∉ piece) :
    splitChar sep piece = [piece] := by
  induction piece with
  | nil => rfl
  | cons c cs ih =>
    have ⟨ne, rest⟩ := List.ne_and_not_mem_of_not_mem_cons h
    rw [splitChar, if_neg (Ne.symm ne), ih rest, consHead]

/-- The first separator ends the first piece. -/
theorem splitChar_append {sep : Char} {piece : List Char} (h : sep ∉ piece) (cs : List Char) :
    splitChar sep (piece ++ sep :: cs) = piece :: splitChar sep cs := by
  induction piece with
  | nil => exact if_pos rfl
  | cons c piece ih =>
    have ⟨ne, rest⟩ := List.ne_and_not_mem_of_not_mem_cons h
    rw [List.cons_append, splitChar, if_neg (Ne.symm ne), ih rest, consHead]

/-- Cutting a text gives back the pieces that were put together with the separator. -/
theorem splitChar_pieces {sep : Char} {piece : List Char} {pieces : List (List Char)}
    (h : sep ∉ piece) (hs : ∀ p ∈ pieces, sep ∉ p) :
    splitChar sep (piece ++ pieces.flatMap (sep :: ·)) = piece :: pieces := by
  induction pieces generalizing piece with
  | nil => rw [List.flatMap_nil, List.append_nil, splitChar_of_notMem h]
  | cons p ps ih =>
    rw [List.flatMap_cons, List.cons_append, splitChar_append h,
      ih (hs p List.mem_cons_self) fun q hq => hs q (List.mem_cons_of_mem _ hq)]

/-- There is one piece more than there are separators. -/
theorem length_splitChar (sep : Char) (cs : List Char) :
    (splitChar sep cs).length = cs.count sep + 1 := by
  induction cs with
  | nil => rfl
  | cons c cs ih =>
    rw [splitChar]
    by_cases eq : c = sep
    · rw [if_pos eq, List.length_cons, ih, eq, List.count_cons_self]
    · -- the character joins the first piece, which is always there
      rw [if_neg eq, List.count_cons_of_ne eq, ← ih]
      cases hs : splitChar sep cs with
      | nil => exact absurd (hs ▸ ih) (by simp)
      | cons p ps => rfl

/-- A text in front without the separator belongs to the first piece. -/
theorem exists_splitChar_append {sep : Char} {start : List Char} (h : sep ∉ start)
    (cs : List Char) : ∃ piece pieces, splitChar sep cs = piece :: pieces ∧
      splitChar sep (start ++ cs) = (start ++ piece) :: pieces := by
  induction start with
  | nil =>
    obtain ⟨piece, pieces, split⟩ := List.exists_cons_of_length_eq_add_one (length_splitChar sep cs)
    exact ⟨piece, pieces, split, split⟩
  | cons c start ih =>
    obtain ⟨ne, rest⟩ := List.ne_and_not_mem_of_not_mem_cons h
    obtain ⟨piece, pieces, split, both⟩ := ih rest
    refine ⟨piece, pieces, split, ?_⟩
    rw [List.cons_append, splitChar, if_neg (Ne.symm ne), both, consHead, List.cons_append]

/-- The pieces have all characters but the separators. -/
theorem sum_count_splitChar {sep c : Char} (ne : c ≠ sep) (cs : List Char) :
    ((splitChar sep cs).map (List.count c)).sum = cs.count c := by
  induction cs with
  | nil => rfl
  | cons d cs ih =>
    rw [splitChar]
    by_cases eq : d = sep
    · rw [if_pos eq, List.map_cons, List.sum_cons, ih, List.count_nil, Nat.zero_add,
        List.count_cons_of_ne (eq ▸ Ne.symm ne)]
    · obtain ⟨piece, pieces, split⟩ :=
        List.exists_cons_of_length_eq_add_one (length_splitChar sep cs)
      rw [if_neg eq, split, consHead, List.map_cons, List.sum_cons, List.count_cons,
        List.count_cons, ← ih, split, List.map_cons, List.sum_cons]
      omega

/-! ## Cutting at the first occurrence -/

/-- A text is cut at its first separator. -/
theorem cutAt?_append {sep : Char} {front : List Char} (h : sep ∉ front) (back : List Char) :
    cutAt? [sep] (front ++ sep :: back) = some (front, back) := by
  induction front with
  | nil =>
    rw [List.nil_append, cutAt?, dropBeginning?, if_pos rfl]
    rfl
  | cons c front ih =>
    obtain ⟨ne, rest⟩ := List.ne_and_not_mem_of_not_mem_cons h
    rw [List.cons_append, cutAt?, dropBeginning?, if_neg ne, ih rest]
    rfl

/-- A text that is cut has the separator. -/
theorem mem_of_cutAt? {sep : Char} {cs : List Char} (h : (cutAt? [sep] cs).isSome) : sep ∈ cs := by
  induction cs with
  | nil => cases h
  | cons c cs ih =>
    by_cases eq : sep = c
    · exact eq ▸ List.mem_cons_self
    · rw [cutAt?, dropBeginning?, if_neg eq, Option.isSome_map] at h
      exact List.mem_cons_of_mem _ (ih h)

/-! ## Text behind -/

theorem eq_append_of_dropBeginning? {start cs rest : List Char}
    (h : dropBeginning? start cs = some rest) : cs = start ++ rest := by
  induction start generalizing cs with
  | nil => exact Option.some.inj h
  | cons p ps ih =>
    cases cs with
    | nil => cases h
    | cons c cs =>
      rw [dropBeginning?] at h
      split at h
      · rename_i eq
        rw [eq, ih h, List.cons_append]
      · cases h

theorem dropBeginning?_append_of_some {start cs rest : List Char}
    (h : dropBeginning? start cs = some rest) (more : List Char) :
    dropBeginning? start (cs ++ more) = some (rest ++ more) := by
  rw [eq_append_of_dropBeginning? h, List.append_assoc, dropBeginning?_append]

/-- A text that has ended otherwise than with the beginning does not begin so. -/
theorem dropBeginning?_append_of_none {start cs : List Char} (h : dropBeginning? start cs = none)
    (ended : ¬ cs <+: start) (more : List Char) : dropBeginning? start (cs ++ more) = none := by
  induction start generalizing cs with
  | nil => cases h
  | cons p ps ih =>
    cases cs with
    | nil => exact absurd List.nil_prefix ended
    | cons c cs =>
      rw [dropBeginning?] at h
      rw [List.cons_append, dropBeginning?]
      split at h
      · rename_i eq
        rw [if_pos eq]
        exact ih h fun within => ended (List.cons_prefix_cons.mpr ⟨eq.symm, within⟩)
      · rename_i ne
        rw [if_neg ne]

theorem eq_append_of_cutAt? {sep cs before after : List Char}
    (h : cutAt? sep cs = some (before, after)) : cs = before ++ (sep ++ after) := by
  induction cs generalizing before with
  | nil =>
    rw [cutAt?] at h
    split at h
    · rename_i empty
      cases h
      rw [List.isEmpty_iff.mp empty]
      rfl
    · cases h
  | cons c cs ih =>
    rw [cutAt?] at h
    split at h
    · rename_i rest found
      cases h
      rw [List.nil_append, eq_append_of_dropBeginning? found]
    · obtain ⟨⟨front, back⟩, found, eq⟩ := Option.map_eq_some_iff.mp h
      cases eq
      rw [ih found, List.cons_append]

/-- The first separator does not depend on what comes behind it. -/
theorem cutAt?_of_some {sep cs before after : List Char}
    (h : cutAt? sep cs = some (before, after)) (rest : List Char) :
    cutAt? sep (before ++ (sep ++ rest)) = some (before, rest) := by
  induction cs generalizing before with
  | nil =>
    rw [cutAt?] at h
    split at h
    · rename_i empty
      cases h
      rw [List.isEmpty_iff.mp empty]
      cases rest <;> rfl
    · cases h
  | cons c cs ih =>
    rw [cutAt?] at h
    split at h
    · cases h
      rw [List.nil_append]
      cases found : sep ++ rest with
      | nil =>
        obtain ⟨rfl, rfl⟩ := List.append_eq_nil_iff.mp found
        rfl
      | cons d ds => rw [cutAt?, ← found, dropBeginning?_append]
    · rename_i none
      obtain ⟨⟨front, back⟩, found, eq⟩ := Option.map_eq_some_iff.mp h
      cases eq
      -- the separator does not begin here, and it would have been in view
      have noSep : dropBeginning? sep (c :: front ++ sep) = Option.none := by
        cases here : dropBeginning? sep (c :: front ++ sep) with
        | none => rfl
        | some left =>
          have longer := dropBeginning?_append_of_some here after
          rw [List.cons_append, List.cons_append, List.append_assoc,
            ← eq_append_of_cutAt? found, none] at longer
          cases longer
      have ended : ¬ c :: front ++ sep <+: sep := by
        intro within
        have shorter := within.length_le
        simp only [List.length_append, List.length_cons] at shorter
        omega
      have noSep := dropBeginning?_append_of_none noSep ended rest
      rw [List.append_assoc] at noSep
      rw [List.cons_append] at noSep ⊢
      rw [cutAt?, noSep, ih found]
      rfl

/-- The first separator stays the first one. -/
theorem cutAt?_append_of_some {sep cs before after : List Char}
    (h : cutAt? sep cs = some (before, after)) (more : List Char) :
    cutAt? sep (cs ++ more) = some (before, after ++ more) := by
  rw [eq_append_of_cutAt? h, List.append_assoc, List.append_assoc, cutAt?_of_some h]

/-- A character that stops a search keeps it from what comes behind. -/
theorem dropWhile_append_cons {p : Char → Bool} {x : Char} (stops : p x = false)
    (cs more : List Char) : (cs ++ x :: more).dropWhile p = cs.dropWhile p ++ x :: more := by
  rw [List.dropWhile_append, List.dropWhile_cons_of_neg (Bool.eq_false_iff.mp stops)]
  split
  · rename_i empty
    rw [List.isEmpty_iff.mp empty, List.nil_append]
  · rfl

theorem takeWhile_append_cons {p : Char → Bool} {x : Char} (stops : p x = false)
    (cs more : List Char) : (cs ++ x :: more).takeWhile p = cs.takeWhile p := by
  rw [List.takeWhile_append, List.takeWhile_cons_of_neg (Bool.eq_false_iff.mp stops),
    List.append_nil]
  split
  · rename_i all
    exact ((List.takeWhile_prefix p).eq_of_length all).symm
  · rfl

/-! ## Ends -/

variable {p : Char → Bool}

/-- Trimming only takes away. -/
theorem trim_sublist (p : Char → Bool) (cs : List Char) : (trim p cs).Sublist cs :=
  (List.rdropWhile_prefix p _).sublist.trans (List.dropWhile_sublist p)

/-- A first character that is trimmed away does not count. -/
theorem trim_cons {c : Char} (h : p c = true) (cs : List Char) : trim p (c :: cs) = trim p cs := by
  rw [trim, trimStart, List.dropWhile_cons_of_pos h, ← trimStart, ← trim]

/-- A last character that is trimmed away does not count. -/
theorem trim_concat {c : Char} (h : p c = true) (cs : List Char) :
    trim p (cs ++ [c]) = trim p cs := by
  rw [trim, trimStart, List.dropWhile_append]
  by_cases empty : (cs.dropWhile p).isEmpty = true
  · rw [if_pos empty, List.dropWhile_cons_of_pos h, trim, trimStart, List.isEmpty_iff.mp empty,
      List.dropWhile_nil]
  · rw [if_neg empty]
    exact List.rdropWhile_concat_pos p _ c h

/-- A text whose ends are not trimmed away stays. -/
theorem trim_eq_self {cs : List Char} (first : ∀ c, cs.head? = some c → p c = false)
    (last : ∀ c, cs.getLast? = some c → p c = false) : trim p cs = cs := by
  have start : trimStart p cs = cs := by
    cases cs with
    | nil => rfl
    | cons c cs => exact List.dropWhile_cons_of_neg (by simp [first c rfl])
  rw [trim, start]
  refine List.rdropWhile_eq_self_iff.mpr fun ne => ?_
  simp [last _ (List.getLast?_eq_getLast_of_ne_nil ne)]

end MetricPath.Text
