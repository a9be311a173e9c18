import Mathlib.Data.Nat.ModEq
import Mathlib.Data.Nat.Prime.Basic
import MetricPath.Proofs.Escape
import MetricPath.Proofs.Fields
import MetricPath.Proofs.Fingerprint
import MetricPath.Proofs.TranslatorRuns

/-!
# One changed byte changes the fingerprint

No step of the hash loses anything.  Its multiplier is odd, so that multiplying by it can be undone
modulo `2 ^ 64` (`mul_left_inj_of_odd`), and mixing in a byte can be undone as well.  So a step tells
its byte if the state before it is known (`step_right_inj`), and that state if the byte is known
(`step_left_inj`).

Two sequences that are one byte apart are hashed alike up to that byte, there the states part, and
the bytes after it are the same for both, so that the states stay apart however many of them follow
(`foldl_step_inj`).  Nothing is said about two changed bytes, where the states have parted already
when the second one is mixed in.
-/

namespace MetricPath

open Text

namespace Fingerprint

/-! ## No step loses anything -/

/-- Multiplying words by an odd one can be undone. -/
theorem mul_left_inj_of_odd {k x y : UInt64} (odd : k.toNat % 2 = 1) : x * k = y * k ↔ x = y := by
  constructor
  · intro h
    have coprime : Nat.Coprime (2 ^ 64) k.toNat :=
      Nat.Coprime.pow_left 64 (Nat.coprime_two_left.mpr (Nat.odd_iff.mpr odd))
    have congruent : x.toNat * k.toNat ≡ y.toNat * k.toNat [MOD 2 ^ 64] := by
      have products := congrArg UInt64.toNat h
      rwa [UInt64.toNat_mul, UInt64.toNat_mul] at products
    apply UInt64.toNat_inj.mp
    exact (Nat.ModEq.cancel_right_of_coprime coprime congruent).eq_of_lt_of_lt
      x.toNat_lt y.toNat_lt
  · intro h
    rw [h]

/-- Steps end in the same state exactly if mixing in their bytes gives the same word. -/
theorem step_inj {h k : UInt64} {b c : UInt8} :
    step h b = step k c ↔ h ^^^ b.toUInt64 = k ^^^ c.toUInt64 :=
  mul_left_inj_of_odd (by decide)

/-- A step tells the state before it. -/
theorem step_left_inj {h k : UInt64} {b : UInt8} : step h b = step k b ↔ h = k := by
  rw [step_inj, UInt64.xor_left_inj]

/-- A step tells its byte. -/
theorem step_right_inj {h : UInt64} {b c : UInt8} : step h b = step h c ↔ b = c := by
  rw [step_inj, UInt64.xor_right_inj, UInt8.toUInt64_inj]

/-- Steps with the same bytes tell the state before them. -/
theorem foldl_step_inj {h k : UInt64} (bs : List UInt8) :
    bs.foldl step h = bs.foldl step k ↔ h = k := by
  induction bs generalizing h k with
  | nil => rfl
  | cons b bs ih => rw [List.foldl_cons, List.foldl_cons, ih, step_left_inj]

/-- The hash tells each byte, if all others are known. -/
theorem hash_append_cons_inj {before after : List UInt8} {b c : UInt8} :
    hash (before ++ b :: after) = hash (before ++ c :: after) ↔ b = c := by
  rw [hash, hash, List.foldl_append, List.foldl_append, List.foldl_cons, List.foldl_cons,
    foldl_step_inj, step_right_inj]

end Fingerprint

/-! ## One byte apart -/

/-- Two byte sequences of the same length that differ at exactly one place. -/
def OneByteApart (xs ys : List UInt8) : Prop :=
  xs.length = ys.length ∧ ∃! i : Nat, xs[i]? ≠ ys[i]?

/-- Replacing a byte by another one gives a sequence that is one byte apart. -/
theorem oneByteApart_append_cons (before after : List UInt8) {b c : UInt8} (differ : b ≠ c) :
    OneByteApart (before ++ b :: after) (before ++ c :: after) := by
  constructor
  · simp only [List.length_append, List.length_cons]
  · refine ⟨before.length, ?_, ?_⟩
    · simpa using differ
    · intro i apart
      by_contra other
      apply apart
      have replaced : before ++ c :: after = (before ++ b :: after).set before.length c := by
        simp
      rw [replaced, List.getElem?_set_ne (Ne.symm other)]

/-- Sequences that are one byte apart are equal before that byte and after it. -/
theorem OneByteApart.exists_append_cons {xs ys : List UInt8} (h : OneByteApart xs ys) :
    ∃ before b c after, b ≠ c ∧ xs = before ++ b :: after ∧ ys = before ++ c :: after := by
  obtain ⟨length, i, differ, only⟩ := h
  have within : i < xs.length := by
    by_contra beyond
    apply differ
    rw [List.getElem?_eq_none (by omega), List.getElem?_eq_none (by omega)]
  have within' : i < ys.length := length ▸ within
  -- the second sequence is the first one with the byte at this place replaced
  have replaced : ys = xs.set i ys[i] := by
    apply List.ext_getElem?
    intro j
    by_cases same : i = j
    · subst same
      rw [List.getElem?_set_self within, List.getElem?_eq_getElem within']
    · rw [List.getElem?_set_ne same]
      by_contra apart
      exact same (only j (Ne.symm apart)).symm
  refine ⟨xs.take i, xs[i], ys[i], xs.drop (i + 1), ?_, ?_, ?_⟩
  · simpa [within, within'] using differ
  · rw [List.getElem_cons_drop, List.take_append_drop]
  · rwa [List.set_eq_take_append_cons_drop, if_pos within] at replaced

/-- Sequences that are one byte apart have different hashes. -/
theorem OneByteApart.hash_ne {xs ys : List UInt8} (h : OneByteApart xs ys) :
    Fingerprint.hash xs ≠ Fingerprint.hash ys := by
  obtain ⟨before, b, c, after, differ, rfl, rfl⟩ := h.exists_append_cons
  intro same
  exact differ (Fingerprint.hash_append_cons_inj.mp same)

/-! ## Label sets -/

namespace LabelSet

/-- Label sets that differ in one ASCII character of one value are serialised one byte apart. -/
theorem oneByteApart_insert (m : LabelSet) (name : String) (before after : List Char) {c d : Char}
    (hc : c.toNat < 0x80) (hd : d.toNat < 0x80) (differ : c ≠ d) :
    OneByteApart (m.insert name (String.ofList (before ++ c :: after))).serialize
      (m.insert name (String.ofList (before ++ d :: after))).serialize := by
  obtain ⟨front, back, inserted⟩ := Fields.exists_insert_eq_append name m.pairs
  have serialized {e : Char} (he : e.toNat < 0x80) :
      (m.insert name (String.ofList (before ++ e :: after))).serialize =
        (front.flatMap serializePair ++ bytes name.toList ++ closing :: bytes before) ++
          UInt8.ofNat e.toNat :: (bytes after ++ closing :: back.flatMap serializePair) := by
    have pairs : (m.insert name (String.ofList (before ++ e :: after))).pairs = _ := inserted _
    rw [serialize, pairs, List.flatMap_append, List.flatMap_cons, serializePair_append,
      String.toList_ofList]
    simp [bytes, Escape.charBytes_ascii he]
  rw [serialized hc, serialized hd]
  apply oneByteApart_append_cons
  intro same
  apply differ
  have values := congrArg UInt8.toNat same
  rw [UInt8.toNat_ofNat_of_lt' (Nat.lt_trans hc (by decide)),
    UInt8.toNat_ofNat_of_lt' (Nat.lt_trans hd (by decide))] at values
  exact Char.toNat_inj.mp values

/-- **Near-identical series do not collide.**  Label sets that are serialised one byte apart have
different fingerprints.  So a request for the paths of one of them, whatever translator it is made
to, leaves what is stored for the other. -/
theorem fingerprint_ne_of_oneByteApart {m n : LabelSet}
    (h : OneByteApart m.serialize n.serialize) :
    m.fingerprint ≠ n.fingerprint ∧
      ∀ (t : Translator) (beginning? : Option String),
        (t.paths m beginning?).2.stored? n.fingerprint = t.stored? n.fingerprint := by
  have differ : m.fingerprint ≠ n.fingerprint := by
    rw [fingerprint, fingerprint, ne_eq, Fingerprint.mk.injEq]
    exact h.hash_ne
  constructor
  · exact differ
  · intro t beginning?
    exact Translator.stored?_paths_of_ne (Ne.symm differ)

/-- Another digit in a label, with a label of several-byte characters behind it. -/
theorem fingerprint_ne_of_oneByteApart_digit :
    let requests := (named "requests").insert "path" "/ö"
    let m := requests.insert "code" "200"
    let n := requests.insert "code" "500"
    OneByteApart m.serialize n.serialize ∧ m.fingerprint ≠ n.fingerprint ∧
      ∀ (t : Translator) (beginning? : Option String),
        (t.paths m beginning?).2.stored? n.fingerprint = t.stored? n.fingerprint := by
  intro requests m n
  have apart : OneByteApart m.serialize n.serialize :=
    oneByteApart_insert requests "code" [] ['0', '0'] (c := '2') (d := '5') (by decide) (by decide)
      (by decide)
  exact ⟨apart, fingerprint_ne_of_oneByteApart apart⟩

end LabelSet

end MetricPath
