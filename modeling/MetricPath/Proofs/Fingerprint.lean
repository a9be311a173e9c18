import MetricPath.LabelSet
import MetricPath.Proofs.Split
import MetricPath.Proofs.Utf8

/-!
# What a fingerprint is made of

The bytes that are hashed for a label set tell the label set.  The byte that closes a name or a
value stands in no text, so the first one ends the first name and the next one its value
(`serializePair_append_inj`), and the labels behind them are told apart in the same way
(`flatMap_serializePair_inj`).  Neither the number of labels nor the length of any text has to be
written for that.

So label sets that share a fingerprint without being equal are a collision of the hash itself
(`fingerprint_eq_iff`).
-/

namespace MetricPath.LabelSet

open Text

/-- No text has the byte that closes it. -/
theorem closing_notMem_bytes (cs : List Char) : closing ∉ bytes cs :=
  fun h => absurd (toNat_lt_of_mem_bytes h) (by decide)

theorem serializePair_append (p : String × String) (bs : List UInt8) :
    serializePair p ++ bs = bytes p.1.toList ++ closing :: (bytes p.2.toList ++ closing :: bs) := by
  simp only [serializePair, List.append_assoc, List.cons_append, List.nil_append]

/-- A label ends with its second closing byte, whatever comes after it. -/
theorem serializePair_append_inj {p q : String × String} {bs cs : List UInt8}
    (h : serializePair p ++ bs = serializePair q ++ cs) : p = q ∧ bs = cs := by
  rw [serializePair_append, serializePair_append] at h
  obtain ⟨name, h⟩ :=
    append_cons_inj_of_notMem (closing_notMem_bytes _) (closing_notMem_bytes _) h
  obtain ⟨value, rest⟩ :=
    append_cons_inj_of_notMem (closing_notMem_bytes _) (closing_notMem_bytes _) h
  rw [bytes_inj, String.toList_inj] at name value
  exact ⟨Prod.ext name value, rest⟩

/-- The bytes of labels tell the labels, in whatever order they stand. -/
theorem flatMap_serializePair_inj {labels labels' : List (String × String)}
    (h : labels.flatMap serializePair = labels'.flatMap serializePair) : labels = labels' := by
  have some (p : String × String) (bs : List UInt8) : serializePair p ++ bs ≠ [] := by
    rw [serializePair_append]
    exact List.append_ne_nil_of_right_ne_nil _ (List.cons_ne_nil _ _)
  induction labels generalizing labels' with
  | nil =>
    cases labels' with
    | nil => rfl
    | cons q labels' => exact absurd h.symm (some q _)
  | cons p labels ih =>
    cases labels' with
    | nil => exact absurd h (some p _)
    | cons q labels' =>
      rw [List.flatMap_cons, List.flatMap_cons] at h
      obtain ⟨rfl, rest⟩ := serializePair_append_inj h
      rw [ih rest]

/-- Different label sets are serialised differently. -/
theorem serialize_inj {m n : LabelSet} : m.serialize = n.serialize ↔ m = n :=
  ⟨fun h => ext_pairs (flatMap_serializePair_inj h), congrArg serialize⟩

/-- **What it means to share a fingerprint.**  The bytes that are hashed are equal for equal label
sets only, so that two label sets with one fingerprint are equal, or else their bytes are two
different inputs of the hash on which it collides. -/
theorem fingerprint_eq_iff (m n : LabelSet) :
    (m.serialize = n.serialize ↔ m = n) ∧
      (m.fingerprint = n.fingerprint ↔
        m = n ∨ m.serialize ≠ n.serialize ∧
          Fingerprint.hash m.serialize = Fingerprint.hash n.serialize) := by
  refine ⟨serialize_inj, ?_⟩
  rw [fingerprint, fingerprint, Fingerprint.mk.injEq]
  by_cases same : m = n
  · exact iff_of_true (by rw [same]) (.inl same)
  · simp only [same, false_or, ne_eq, serialize_inj, not_false_eq_true, true_and]

/-- Moving a letter from a value to its name changes what is hashed. -/
example : (ofList [("ab", "c")]).serialize ≠ (ofList [("a", "bc")]).serialize := by decide

end MetricPath.LabelSet
