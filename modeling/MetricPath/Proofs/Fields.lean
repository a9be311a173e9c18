import Mathlib.Data.List.Induction
import Mathlib.Data.List.Sort
import MetricPath.LabelSet

/-!
# Fields as finite maps

A list of fields stands for the map that `Fields.get?` looks up.  Setting a field changes the map
at its name only (`get?_insert`), and two lists with ascending names that stand for the same map are
equal (`Ascending.ext`).  So an equation between label sets is proved by looking up each name.
Under a name to which the list has one value only, that value is found, wherever it stands in the
list (`get?_ofList_eq_some_iff`).

The number of fields is the second thing that is followed: setting one adds at most one
(`length_insert_le`), and leaving out a name that is there takes one away (`length_filter_ne`).
-/

namespace MetricPath.Fields

variable {α : Type}

/-! ## Looking up -/

/-- Setting a field changes what is found under its name only. -/
theorem get?_insert (name key : String) (value : α) (fields : List (String × α)) :
    get? name (insert key value fields) = if name = key then some value else get? name fields := by
  induction fields with
  | nil => simp only [insert, get?, eq_comm]
  | cons p rest ih =>
    obtain ⟨n, v⟩ := p
    simp only [insert]
    by_cases lt : key < n
    · rw [if_pos lt, get?]
      simp only [eq_comm]
    · rw [if_neg lt]
      by_cases eq : key = n
      · subst eq
        rw [if_pos rfl, get?, get?]
        by_cases h : key = name
        · rw [if_pos h, if_pos h.symm]
        · rw [if_neg h, if_neg (Ne.symm h), if_neg h]
      · rw [if_neg eq, get?, get?, ih]
        by_cases h : n = name
        · rw [if_pos h, if_pos h, if_neg (fun e => eq (e.symm.trans h.symm))]
        · rw [if_neg h, if_neg h]

/-- Setting a field writes it at one place, which depends on the names only. -/
theorem exists_insert_eq_append (name : String) (fields : List (String × α)) :
    ∃ front back, ∀ value, insert name value fields = front ++ (name, value) :: back := by
  induction fields with
  | nil => exact ⟨[], [], fun _ => rfl⟩
  | cons p fields ih =>
    obtain ⟨n, v⟩ := p
    by_cases before : name < n
    · refine ⟨[], (n, v) :: fields, fun value => ?_⟩
      rw [insert, if_pos before, List.nil_append]
    · by_cases same : name = n
      · refine ⟨[], fields, fun value => ?_⟩
        rw [insert, if_neg before, if_pos same, List.nil_append]
      · obtain ⟨front, back, inserted⟩ := ih
        refine ⟨(n, v) :: front, back, fun value => ?_⟩
        rw [insert, if_neg before, if_neg same, inserted, List.cons_append]

/-- What is found under a name stands in the list. -/
theorem mem_of_get? {name : String} {value : α} {fields : List (String × α)}
    (h : get? name fields = some value) : (name, value) ∈ fields := by
  induction fields with
  | nil => exact absurd h (by simp [get?])
  | cons p rest ih =>
    obtain ⟨n, v⟩ := p
    rw [get?] at h
    by_cases eq : n = name
    · rw [if_pos eq, Option.some.injEq] at h
      rw [← eq, ← h]
      exact List.mem_cons_self
    · rw [if_neg eq] at h
      exact List.mem_cons_of_mem _ (ih h)

/-- Under ascending names, what stands in the list is found. -/
theorem Ascending.get?_of_mem {fields : List (String × α)} (asc : Ascending fields)
    {name : String} {value : α} (h : (name, value) ∈ fields) :
    get? name fields = some value := by
  induction fields with
  | nil => exact absurd h List.not_mem_nil
  | cons p rest ih =>
    have ⟨below, tail⟩ := List.pairwise_cons.mp asc
    rcases List.mem_cons.mp h with rfl | h
    · exact if_pos rfl
    · have ne : p.1 ≠ name := fun e => String.lt_irrefl _ (e ▸ below _ h)
      exact (if_neg ne).trans (ih tail h)

/-- A name that no field has is not found. -/
theorem get?_eq_none {name : String} {fields : List (String × α)}
    (h : ∀ p ∈ fields, p.1 ≠ name) : get? name fields = none := by
  by_contra found
  obtain ⟨value, hv⟩ := Option.ne_none_iff_exists'.mp found
  exact h _ (mem_of_get? hv) rfl

/-- Fields with ascending names are equal if the same is found under each name. -/
theorem Ascending.ext {f g : List (String × α)} (hf : Ascending f) (hg : Ascending g)
    (h : ∀ name, get? name f = get? name g) : f = g := by
  -- both hold the same pairs, and there is one ascending order of these
  have distinct {fields : List (String × α)} (asc : Ascending fields) : fields.Nodup := by
    refine List.Pairwise.imp ?_ asc
    rintro p q lt rfl
    exact String.lt_irrefl _ lt
  have perm : f.Perm g := by
    refine (List.perm_ext_iff_of_nodup (distinct hf) (distinct hg)).mpr fun ⟨name, value⟩ => ?_
    exact ⟨fun hm => mem_of_get? (h name ▸ hf.get?_of_mem hm),
      fun hm => mem_of_get? (h name ▸ hg.get?_of_mem hm)⟩
  exact perm.eq_of_pairwise (fun _ _ _ _ lt lt' => absurd lt (String.lt_asymm lt')) hf hg

/-- Leaving out fields by their names leaves the others as they are found. -/
theorem get?_filter (keep : String → Bool) (name : String) (fields : List (String × α)) :
    get? name (fields.filter fun p => keep p.1) = if keep name then get? name fields else none := by
  induction fields with
  | nil => simp [get?]
  | cons p rest ih =>
    obtain ⟨n, v⟩ := p
    rw [List.filter_cons, get?]
    by_cases kept : keep n = true
    · rw [if_pos kept, get?, ih]
      by_cases eq : n = name
      · rw [if_pos eq, if_pos eq, if_pos (eq ▸ kept)]
      · rw [if_neg eq, if_neg eq]
    · rw [if_neg kept, ih]
      by_cases eq : n = name
      · rw [if_neg (eq ▸ kept), if_neg (eq ▸ kept)]
      · rw [if_neg eq]

/-- Setting fields one after the other: what is found is theirs, or else what was there. -/
theorem Ascending.get?_foldl_insert {more : List (String × α)} (asc : Ascending more)
    (name : String) (fields : List (String × α)) :
    get? name (more.foldl (fun f p => insert p.1 p.2 f) fields) =
      (get? name more).or (get? name fields) := by
  induction more generalizing fields with
  | nil => rfl
  | cons p rest ih =>
    have ⟨below, tail⟩ := List.pairwise_cons.mp asc
    rw [List.foldl_cons, ih tail, get?_insert]
    by_cases eq : name = p.1
    · -- the first field is the last with this name, so the rest does not overwrite it
      have absent : get? name rest = none :=
        get?_eq_none fun q hq e => String.lt_irrefl _ (eq ▸ e ▸ below q hq)
      have present : get? name (p :: rest) = some p.2 := if_pos eq.symm
      rw [if_pos eq, absent, present, Option.none_or, Option.some_or]
    · have other : get? name (p :: rest) = get? name rest := if_neg (Ne.symm eq)
      rw [if_neg eq, other]

/-- Setting the fields of a list with ascending names gives what the list has. -/
theorem Ascending.get?_ofList {fields : List (String × α)} (asc : Ascending fields)
    (name : String) : get? name (ofList fields) = get? name fields := by
  rw [ofList, asc.get?_foldl_insert, get?, Option.or_none]

/-- The field set last is found under its name. -/
theorem get?_ofList_concat (name key : String) (value : α) (fields : List (String × α)) :
    get? name (ofList (fields ++ [(key, value)])) =
      if name = key then some value else get? name (ofList fields) := by
  rw [ofList, List.foldl_append, ← ofList]
  exact get?_insert name key value (ofList fields)

/-- Setting fields one after the other: what is found is set by one of them. -/
theorem mem_of_get?_ofList {name : String} {value : α} {fields : List (String × α)}
    (h : get? name (ofList fields) = some value) : (name, value) ∈ fields := by
  induction fields using List.reverseRecOn with
  | nil => cases h
  | append_singleton fields p ih =>
    rw [get?_ofList_concat] at h
    by_cases eq : name = p.1
    · rw [if_pos eq, Option.some_inj] at h
      rw [eq, ← h]
      exact List.mem_append_right fields List.mem_cons_self
    · rw [if_neg eq] at h
      exact List.mem_append_left _ (ih h)

/-- Each field that is set leaves something under its name. -/
theorem isSome_get?_ofList {name : String} {value : α} {fields : List (String × α)}
    (h : (name, value) ∈ fields) : (get? name (ofList fields)).isSome := by
  induction fields using List.reverseRecOn with
  | nil => exact absurd h List.not_mem_nil
  | append_singleton fields p ih =>
    rw [get?_ofList_concat]
    by_cases eq : name = p.1
    · rw [if_pos eq]
      rfl
    · rw [if_neg eq]
      rcases List.mem_append.mp h with front | last
      · exact ih front
      · exact absurd (congrArg Prod.fst (List.mem_singleton.mp last)) eq

/-- If the fields set one value under a name, it is found, in whatever order they are. -/
theorem get?_ofList_eq_some_iff {name : String} {value : α} {fields : List (String × α)}
    (unique : ∀ v w, (name, v) ∈ fields → (name, w) ∈ fields → v = w) :
    get? name (ofList fields) = some value ↔ (name, value) ∈ fields := by
  refine ⟨mem_of_get?_ofList, fun h => ?_⟩
  obtain ⟨found, hf⟩ := Option.isSome_iff_exists.mp (isSome_get?_ofList h)
  rw [hf, unique found value (mem_of_get?_ofList hf) h]

/-- What is found after the values are changed. -/
theorem get?_map {β : Type} (g : α → β) (name : String) (fields : List (String × α)) :
    get? name (fields.map fun p => (p.1, g p.2)) = (get? name fields).map g := by
  induction fields with
  | nil => rfl
  | cons p rest ih =>
    rw [List.map_cons, get?, get?, ih]
    split_ifs <;> rfl

/-! ## Counting -/

/-- Setting a field adds at most one. -/
theorem length_insert_le (name : String) (value : α) (fields : List (String × α)) :
    (insert name value fields).length ≤ fields.length + 1 := by
  induction fields with
  | nil => exact Nat.le_refl 1
  | cons p rest ih =>
    simp only [insert]
    split_ifs
    · exact Nat.le_refl _
    · exact Nat.le_succ _
    · exact Nat.succ_le_succ ih

/-- Leaving out a name that is there leaves one field less. -/
theorem Ascending.length_filter_ne {fields : List (String × α)} (asc : Ascending fields)
    {name : String} {value : α} (h : get? name fields = some value) :
    (fields.filter fun p => p.1 ≠ name).length + 1 = fields.length := by
  induction fields with
  | nil => exact absurd h (by simp [get?])
  | cons p rest ih =>
    have ⟨below, tail⟩ := List.pairwise_cons.mp asc
    by_cases eq : p.1 = name
    · have all : ∀ q ∈ rest, decide (q.1 ≠ name) = true := fun q hq =>
        decide_eq_true fun e => String.lt_irrefl _ (e ▸ eq ▸ below q hq)
      rw [List.filter_cons_of_neg (by simp [eq]), List.filter_eq_self.mpr all, List.length_cons]
    · rw [List.filter_cons_of_pos (by simp [eq]), List.length_cons, List.length_cons,
        ih tail ((if_neg eq).symm.trans h)]

/-- Leaving out a name that is not there leaves all fields. -/
theorem filter_ne_eq_self {name : String} {fields : List (String × α)}
    (h : get? name fields = none) (asc : Ascending fields) :
    (fields.filter fun p => p.1 ≠ name) = fields := by
  refine List.filter_eq_self.mpr fun p hp => decide_eq_true fun e => ?_
  have found : get? p.1 fields = some p.2 := asc.get?_of_mem hp
  rw [e, h] at found
  exact Option.some_ne_none _ found.symm

end MetricPath.Fields
