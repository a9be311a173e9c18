import MetricPath.Path.Default
import MetricPath.Path.Read
import MetricPath.Proofs.Escape
import MetricPath.Proofs.Fields
import MetricPath.Proofs.Split

/-!
# Reading a dotted path back

A dotted default path gives back its label set exactly under a condition on the label set, and
`ofPath_defaultPath_iff` states it.  Whether the path is read back is settled in two ways.

* If no end of the path is a dot, its nodes are the escaped name, labels and values, and reading
  them sets every label again (`ofPath_defaultPath`).
* A label set that is read has at most half as many labels as the path has nodes
  (`two_mul_size_le_of_ofPath`).  An empty name or an empty last value costs the path a dot, and
  with it a node (`length_pathNodes_lt`), and a label without a name does not get into the path at
  all.  So in these cases there are too few nodes, whatever they say.
-/

namespace MetricPath

open Escape Text

/-! ## The nodes of labels -/

/-- The escaped names and values of labels, in turn. -/
def nodeTexts (labels : List (String × String)) : List (List Char) :=
  labels.flatMap fun p => [escapeChars p.1.toList, escapeChars p.2.toList]

@[simp] theorem nodeTexts_cons (p : String × String) (labels : List (String × String)) :
    nodeTexts (p :: labels) =
      escapeChars p.1.toList :: escapeChars p.2.toList :: nodeTexts labels := rfl

/-- There are two nodes for each label. -/
@[simp] theorem length_nodeTexts (labels : List (String × String)) :
    (nodeTexts labels).length = 2 * labels.length := by
  induction labels with
  | nil => rfl
  | cons p labels ih =>
    rw [nodeTexts_cons, List.length_cons, List.length_cons, ih, List.length_cons, Nat.mul_succ]

/-- No dot stands in a node. -/
theorem dot_notMem_nodeTexts {labels : List (String × String)} :
    ∀ t ∈ nodeTexts labels, '.' ∉ t := by
  intro t ht
  obtain ⟨p, -, hp⟩ := List.mem_flatMap.mp ht
  simp only [List.mem_cons, List.not_mem_nil, or_false] at hp
  rcases hp with rfl | rfl <;> exact dot_notMem_escapeChars _

/-- In the dotted format every node follows a dot. -/
theorem labelText_dotted (labels : List (String × String)) :
    PathFormat.dotted.labelText labels = (nodeTexts labels).flatMap ('.' :: ·) := by
  show labels.flatMap PathFormat.nodes = _
  induction labels with
  | nil => rfl
  | cons p labels ih =>
    rw [List.flatMap_cons, ih, nodeTexts_cons, List.flatMap_cons, List.flatMap_cons,
      PathFormat.nodes, List.cons_append, List.cons_append, List.append_assoc, List.cons_append]

/-- Nodes that each follow a dot have one dot each. -/
theorem count_dot_flatMap {texts : List (List Char)} (h : ∀ t ∈ texts, '.' ∉ t) :
    (texts.flatMap ('.' :: ·)).count '.' = texts.length := by
  induction texts with
  | nil => rfl
  | cons t texts ih =>
    rw [List.flatMap_cons, List.cons_append, List.count_cons_self, List.count_append,
      List.count_eq_zero.mpr (h t List.mem_cons_self),
      ih fun u hu => h u (List.mem_cons_of_mem _ hu), Nat.zero_add, List.length_cons]

/-- Reading an escaped text that was a string. -/
@[simp] theorem ofList_unescapeChars_escapeChars (s : String) :
    String.ofList (unescapeChars (escapeChars s.toList)) = s := by
  rw [unescapeChars_escapeChars, String.ofList_toList]

namespace LabelSet

/-! ## The path after its beginning -/

/-- What follows the given beginning in a dotted default path. -/
def dottedBody (m : LabelSet) : List Char :=
  escapeChars (m.getOrEmpty nameLabel).toList ++ (nodeTexts m.pathLabels).flatMap ('.' :: ·)

/-- The nodes of a default path are what dots separate after its beginning. -/
theorem pathNodes_defaultPath (m : LabelSet) (beginning : String) :
    pathNodes (m.defaultPath .dotted beginning) beginning =
      splitChar '.' (trim (fun c => c = '.') m.dottedBody) := by
  rw [pathNodes, dropBeginning, defaultPath, pathChars, String.toList_ofList, List.append_assoc,
    dropBeginning?_append, labelText_dotted, dottedBody, Option.getD_some]

/-- There is one dot for each node after the name. -/
theorem count_dot_dottedBody (m : LabelSet) :
    m.dottedBody.count '.' = 2 * m.pathLabels.length := by
  rw [dottedBody, List.count_append, List.count_eq_zero.mpr (dot_notMem_escapeChars _),
    count_dot_flatMap dot_notMem_nodeTexts, length_nodeTexts, Nat.zero_add]

/-- The value of the last label ends the path. -/
theorem dottedBody_eq_append {m : LabelSet} {label value : String}
    (last : m.pathLabels.getLast? = some (label, value)) :
    ∃ start, m.dottedBody = start ++ '.' :: escapeChars value.toList := by
  obtain ⟨front, h⟩ := List.getLast?_eq_some_iff.mp last
  refine ⟨escapeChars (m.getOrEmpty nameLabel).toList ++ (nodeTexts front).flatMap ('.' :: ·) ++
    '.' :: escapeChars label.toList, ?_⟩
  have split : nodeTexts m.pathLabels =
      nodeTexts front ++ [escapeChars label.toList, escapeChars value.toList] := by
    rw [h, nodeTexts, List.flatMap_append]
    rfl
  rw [dottedBody, split, List.flatMap_append]
  simp

/-! ## Too few nodes -/

/-- A default path has at most two nodes for each label, and one for the name. -/
theorem length_pathNodes_le (m : LabelSet) (beginning : String) :
    (pathNodes (m.defaultPath .dotted beginning) beginning).length ≤
      2 * m.pathLabels.length + 1 := by
  rw [pathNodes_defaultPath, length_splitChar, ← count_dot_dottedBody]
  exact Nat.succ_le_succ ((trim_sublist _ _).count_le _)

/-- An empty name or an empty last value costs a node. -/
theorem length_pathNodes_lt {m : LabelSet} {label value : String} (beginning : String)
    (last : m.pathLabels.getLast? = some (label, value))
    (empty : m.getOrEmpty nameLabel = "" ∨ value = "") :
    (pathNodes (m.defaultPath .dotted beginning) beginning).length ≤ 2 * m.pathLabels.length := by
  rw [pathNodes_defaultPath, length_splitChar, ← count_dot_dottedBody]
  rcases empty with name | rfl
  · have front : ∃ rest, m.dottedBody = '.' :: rest := by
      have some_label : m.pathLabels ≠ [] := fun h => by rw [h] at last; cases last
      obtain ⟨p, more, h⟩ := List.exists_cons_of_ne_nil some_label
      rw [dottedBody, name, h, nodeTexts_cons, List.flatMap_cons]
      exact ⟨_, rfl⟩
    obtain ⟨rest, h⟩ := front
    rw [h, trim_cons (by decide), List.count_cons_self]
    exact Nat.succ_le_succ ((trim_sublist _ _).count_le _)
  · obtain ⟨start, h⟩ := dottedBody_eq_append last
    have h : m.dottedBody = start ++ ['.'] := h
    rw [h, trim_concat (by decide), List.count_append, List.count_singleton_self]
    exact Nat.succ_le_succ ((trim_sublist _ _).count_le _)

/-- Reading nodes adds at most one label for two of them. -/
theorem two_mul_size_le_of_insertNodes? {m r : LabelSet} {nodes : List (List Char)}
    (h : m.insertNodes? nodes = some r) : 2 * r.size ≤ 2 * m.size + nodes.length := by
  induction m, nodes using insertNodes?.induct with
  | case1 m =>
    rw [insertNodes?, Option.some.injEq] at h
    rw [h]
    exact Nat.le_refl _
  | case2 m t => exact absurd h (by simp [insertNodes?])
  | case3 m name value rest ih =>
    have step := ih h
    have added : (m.insert (String.ofList (unescapeChars name))
      (String.ofList (unescapeChars value))).size ≤ m.size + 1 := Fields.length_insert_le ..
    rw [List.length_cons, List.length_cons]
    omega

/-- Reading nodes keeps a label that is there. -/
theorem isSome_get?_of_insertNodes? {m r : LabelSet} {nodes : List (List Char)} {name : String}
    (h : m.insertNodes? nodes = some r) (found : (m.get? name).isSome) : (r.get? name).isSome := by
  induction m, nodes using insertNodes?.induct with
  | case1 m =>
    rw [insertNodes?, Option.some.injEq] at h
    rwa [← h]
  | case2 m t => exact absurd h (by simp [insertNodes?])
  | case3 m key value rest ih =>
    refine ih h ?_
    rw [get?, insert, Fields.get?_insert]
    split_ifs
    · rfl
    · exact found

/-- Reading a path comes down to reading the nodes after the first. -/
theorem ofPath_eq_of_pathNodes {path beginning : String} {name : List Char}
    {nodes : List (List Char)} (h : pathNodes path beginning = name :: nodes) :
    ofPath path beginning =
      match (named (String.ofList (unescapeChars name))).insertNodes? nodes with
      | some m => .ok m
      | none => .error (.malformedPath path) := by
  rewrite [ofPath, h]
  rfl

/-- A label set that is read has a name, and at most half as many labels as the path has nodes. -/
theorem size_le_of_ofPath {path beginning : String} {r : LabelSet}
    (h : ofPath path beginning = .ok r) :
    r.name?.isSome ∧ 2 * r.size ≤ (pathNodes path beginning).length + 1 := by
  cases hs : pathNodes path beginning with
  | nil =>
    have pieces := length_splitChar '.' (trim (fun c => c = '.')
      (dropBeginning beginning.toList path.toList))
    rw [← pathNodes, hs] at pieces
    cases pieces
  | cons name nodes =>
    rw [ofPath_eq_of_pathNodes hs] at h
    cases read : (named (String.ofList (unescapeChars name))).insertNodes? nodes with
    | none => rw [read] at h; cases h
    | some m =>
      rw [read, Except.ok.injEq] at h
      subst h
      have count := two_mul_size_le_of_insertNodes? read
      refine ⟨isSome_get?_of_insertNodes? read ?_, ?_⟩
      · rw [get?, named, insert, Fields.get?_insert, if_pos rfl]
        rfl
      · have one : (named (String.ofList (unescapeChars name))).size = 1 := rfl
        rw [one] at count
        rw [List.length_cons]
        omega

/-! ## Enough nodes -/

/-- Reading the nodes of labels sets each of them. -/
theorem insertNodes?_nodeTexts (m : LabelSet) (labels : List (String × String)) :
    m.insertNodes? (nodeTexts labels) = some (labels.foldl (fun m p => m.insert p.1 p.2) m) := by
  induction labels generalizing m with
  | nil => rfl
  | cons p labels ih =>
    rw [nodeTexts_cons, insertNodes?, ofList_unescapeChars_escapeChars,
      ofList_unescapeChars_escapeChars, ih, List.foldl_cons]

/-- Setting labels one after the other sets fields one after the other. -/
theorem pairs_foldl_insert (m : LabelSet) (labels : List (String × String)) :
    (labels.foldl (fun m p => m.insert p.1 p.2) m).pairs =
      labels.foldl (fun f p => Fields.insert p.1 p.2 f) m.pairs := by
  induction labels generalizing m with
  | nil => rfl
  | cons p labels ih => exact ih (m.insert p.1 p.2)

theorem ascending_others (m : LabelSet) : Fields.Ascending m.others :=
  m.ascending.filter _

/-- What is found among the labels other than the name. -/
theorem get?_others (m : LabelSet) (label : String) :
    Fields.get? label m.others = if label = nameLabel then none else m.get? label := by
  have h := Fields.get?_filter (fun l => decide (l ≠ nameLabel)) label m.pairs
  rw [others, h]
  by_cases eq : label = nameLabel <;> simp [eq, get?]

/-- The name and the other labels make up the label set. -/
theorem foldl_insert_others {m : LabelSet} {name : String} (h : m.name? = some name) :
    m.others.foldl (fun m p => m.insert p.1 p.2) (named name) = m := by
  refine ext_pairs (Fields.Ascending.ext (LabelSet.ascending _) m.ascending fun label => ?_)
  rw [pairs_foldl_insert, m.ascending_others.get?_foldl_insert, get?_others, named, insert,
    Fields.get?_insert]
  by_cases eq : label = nameLabel
  · rw [if_pos eq, if_pos eq, eq]
    exact h.symm
  · rw [if_neg eq, if_neg eq]
    exact Option.or_none

/-- Without a label that has no name, a path carries all labels but the name. -/
theorem pathLabels_eq_others {m : LabelSet} (h : m.get? "" = none) : m.pathLabels = m.others := by
  refine Fields.filter_ne_eq_self ?_ m.ascending_others
  rw [get?_others, if_neg (by decide)]
  exact h

/-- The name and the other labels are what a path is made of. -/
theorem dottedBody_eq {m : LabelSet} {name : String} (named : m.name? = some name)
    (full : m.get? "" = none) :
    m.dottedBody = escapeChars name.toList ++ (nodeTexts m.others).flatMap ('.' :: ·) := by
  have name_eq : m.getOrEmpty nameLabel = name := by
    rw [getOrEmpty, ← name?, named, Option.getD_some]
  rw [dottedBody, name_eq, pathLabels_eq_others full]

/-- A path begins and ends without a dot if the name and the last value are not empty, or if there
is nothing but the name. -/
theorem trim_dottedBody {m : LabelSet} {name : String} (named : m.name? = some name)
    (full : m.get? "" = none)
    (ends : m.others = [] ∨ name ≠ "" ∧ ∀ last ∈ m.others.getLast?, last.2 ≠ "") :
    trim (fun c => c = '.') m.dottedBody = m.dottedBody := by
  have escaped_dot {cs : List Char} {c : Char} (h : c ∈ escapeChars cs) :
      decide (c = '.') = false :=
    decide_eq_false fun e => dot_notMem_escapeChars cs (e ▸ h)
  have escaped_ne {s : String} (h : s ≠ "") : escapeChars s.toList ≠ [] := fun e =>
    h (String.toList_eq_nil_iff.mp (escapeChars_eq_nil.mp e))
  have body := dottedBody_eq named full
  cases hl : m.others.getLast? with
  | none =>
    -- the path is the escaped name
    rw [List.getLast?_eq_none_iff.mp hl, nodeTexts, List.flatMap_nil, List.flatMap_nil,
      List.append_nil] at body
    rw [body]
    exact trim_eq_self (fun c hc => escaped_dot (List.mem_of_head? hc))
      fun c hc => escaped_dot (List.mem_of_getLast? hc)
  | some last =>
    -- the path begins with the escaped name and ends with an escaped value
    have some_label : m.others ≠ [] := fun alone => by rw [alone] at hl; cases hl
    obtain ⟨name_ne, last_ne⟩ := ends.resolve_left some_label
    obtain ⟨start, tail⟩ := dottedBody_eq_append (pathLabels_eq_others full ▸ hl)
    refine trim_eq_self (fun c hc => ?_) fun c hc => ?_
    · rw [body, List.head?_append_of_ne_nil _ (escaped_ne name_ne)] at hc
      exact escaped_dot (List.mem_of_head? hc)
    · rw [tail, List.append_cons,
        List.getLast?_append_of_ne_nil _ (escaped_ne (last_ne last hl))] at hc
      exact escaped_dot (List.mem_of_getLast? hc)

/-- A path without a dot at its ends is read as the label set it was made of. -/
theorem ofPath_defaultPath {m : LabelSet} {name : String} (beginning : String)
    (named : m.name? = some name) (full : m.get? "" = none)
    (ends : m.others = [] ∨ name ≠ "" ∧ ∀ last ∈ m.others.getLast?, last.2 ≠ "") :
    ofPath (m.defaultPath .dotted beginning) beginning = .ok m := by
  have nodes : pathNodes (m.defaultPath .dotted beginning) beginning =
      escapeChars name.toList :: nodeTexts m.others := by
    rw [pathNodes_defaultPath, trim_dottedBody named full ends, dottedBody_eq named full,
      splitChar_pieces (dot_notMem_escapeChars _) dot_notMem_nodeTexts]
  rw [ofPath_eq_of_pathNodes nodes, ofList_unescapeChars_escapeChars, insertNodes?_nodeTexts,
    foldl_insert_others named]

/-! ## The condition -/

/-- A dotted path is read as the label set it was made of exactly if that has a name and no label
without one, and either no further label or neither an empty name nor an empty value of the last
label. -/
theorem ofPath_defaultPath_iff (m : LabelSet) (beginning : String) :
    ofPath (m.defaultPath .dotted beginning) beginning = .ok m ↔
      ∃ name, m.name? = some name ∧ m.get? "" = none ∧
        (m.others = [] ∨ name ≠ "" ∧ ∀ last ∈ m.others.getLast?, last.2 ≠ "") := by
  constructor
  · -- the label set has been read, so the path has two nodes for each label but one
    intro h
    obtain ⟨named, count⟩ := size_le_of_ofPath h
    obtain ⟨name, hn⟩ := Option.isSome_iff_exists.mp named
    have sizes : m.others.length + 1 = m.size := m.ascending.length_filter_ne hn
    have nodes := m.length_pathNodes_le beginning
    have full : m.get? "" = none := by
      -- a label without a name is missing from the path, and so are its two nodes
      by_contra found
      obtain ⟨value, hv⟩ := Option.ne_none_iff_exists'.mp found
      have : m.pathLabels.length + 1 = m.others.length := by
        have found : Fields.get? "" m.others = some value := by
          rw [get?_others, if_neg (by decide)]
          exact hv
        exact m.ascending_others.length_filter_ne found
      omega
    refine ⟨name, hn, full, ?_⟩
    rcases List.eq_nil_or_concat m.others with alone | ⟨front, ⟨label, value⟩, hl⟩
    · exact .inl alone
    · have last : m.others.getLast? = some (label, value) := by
        rw [hl, List.concat_eq_append, List.getLast?_concat]
      -- an empty end would cost the node that the count has none to spare for
      have enough : ¬(m.getOrEmpty nameLabel = "" ∨ value = "") := fun empty => by
        have few := length_pathNodes_lt beginning (pathLabels_eq_others full ▸ last) empty
        rw [pathLabels_eq_others full] at few
        omega
      rw [getOrEmpty, ← name?, hn, Option.getD_some, not_or] at enough
      refine .inr ⟨enough.1, fun other ho => ?_⟩
      rw [last, Option.mem_some_iff] at ho
      rw [← ho]
      exact enough.2
  · rintro ⟨name, named, full, ends⟩
    exact ofPath_defaultPath beginning named full ends

end LabelSet

end MetricPath
