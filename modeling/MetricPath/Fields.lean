/-!
# Fields in the order of their names

Label sets, objects and configuration tables are finite maps from names to values that are always
listed in the order of the names, code point by code point.  Such a map is a list of pairs with
ascending names, so that two maps are equal exactly when the lists are.

`Fields.insert` keeps the names ascending (`Fields.insert_ascending`).
-/

namespace MetricPath.Fields

variable {α β : Type}

/-- The pairs, with the value of one name set. -/
def insert (name : String) (value : α) : List (String × α) → List (String × α)
  | [] => [(name, value)]
  | (n, v) :: rest =>
    if name < n then (name, value) :: (n, v) :: rest
    else if name = n then (name, value) :: rest
    else (n, v) :: insert name value rest

/-- The value of a name. -/
def get? (name : String) : List (String × α) → Option α
  | [] => none
  | (n, v) :: rest => if n = name then some v else get? name rest

/-- The pairs without those of one name. -/
def erase (name : String) (fields : List (String × α)) : List (String × α) :=
  fields.filter fun p => p.1 ≠ name

/-- The map of pairs given in any order; of several pairs with one name the last counts. -/
def ofList (pairs : List (String × α)) : List (String × α) :=
  pairs.foldl (fun fields p => insert p.1 p.2 fields) []

/-- The names ascend, so that each occurs once. -/
def Ascending (fields : List (String × α)) : Prop := fields.Pairwise fun p q => p.1 < q.1

private theorem lt_of_not_lt_of_ne {a b : String} (h : ¬ a < b) (ne : a ≠ b) : b < a := by
  by_cases hba : b < a
  · exact hba
  · exact absurd (String.le_antisymm (String.not_lt.mp hba) (String.not_lt.mp h)) ne

theorem mem_insert {name : String} {value : α} {fields : List (String × α)} {p : String × α}
    (h : p ∈ insert name value fields) : p = (name, value) ∨ p ∈ fields := by
  induction fields with
  | nil => simpa [insert] using h
  | cons q rest ih =>
    obtain ⟨n, v⟩ := q
    unfold insert at h
    split at h
    · simpa using h
    · split at h
      · rcases List.mem_cons.mp h with h | h
        · exact .inl h
        · exact .inr (List.mem_cons_of_mem _ h)
      · rcases List.mem_cons.mp h with h | h
        · exact .inr (h ▸ List.mem_cons_self)
        · exact (ih h).imp id (List.mem_cons_of_mem _)

/-- Setting a value keeps the names ascending. -/
theorem insert_ascending (name : String) (value : α) {fields : List (String × α)}
    (h : Ascending fields) : Ascending (insert name value fields) := by
  induction fields with
  | nil => simp [insert, Ascending]
  | cons q rest ih =>
    obtain ⟨n, v⟩ := q
    have ⟨below, tail⟩ := List.pairwise_cons.mp h
    unfold insert
    split
    · rename_i lt
      refine List.pairwise_cons.mpr ⟨fun p hp => ?_, h⟩
      rcases List.mem_cons.mp hp with rfl | hp
      · exact lt
      · exact String.lt_trans lt (below p hp)
    · split
      · rename_i eq
        exact List.pairwise_cons.mpr ⟨fun p hp => by subst eq; exact below p hp, tail⟩
      · rename_i nlt ne
        refine List.pairwise_cons.mpr ⟨fun p hp => ?_, ih tail⟩
        rcases mem_insert hp with rfl | hp
        · exact lt_of_not_lt_of_ne nlt ne
        · exact below p hp

/-- The map of any list of pairs has ascending names. -/
theorem ofList_ascending (pairs : List (String × α)) : Ascending (ofList pairs) := by
  suffices h : ∀ (pairs fields : List (String × α)), Ascending fields →
      Ascending (pairs.foldl (fun fields p => insert p.1 p.2 fields) fields) from
    h pairs [] List.Pairwise.nil
  intro pairs
  induction pairs with
  | nil => exact fun _ h => h
  | cons p ps ih => exact fun fields h => ih _ (insert_ascending p.1 p.2 h)

end MetricPath.Fields
