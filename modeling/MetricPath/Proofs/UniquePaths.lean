import MetricPath.Proofs.DottedPath

/-!
# Different label sets have different default paths

A default path tells the label set it was made of, also where it cannot be read back.  Each format
has its own reason for that.

* Dotted: no dot stands in a node, so the dots cut the path into its nodes.
* Tagged: an equals sign follows every label name and stands nowhere else.  Before it stands a label
  name, which begins after the last semicolon; semicolons before that belong to the escaped text in
  front (`append_tag_inj`).
* In braces: an escaped text ends at the first brace or quote without a backslash before it
  (`Escape.escapeChars_append_cons_inj`), and a label name at the first equals sign.

So the label names of the last two formats must not have the characters that structure a tag, and
`LabelSet.IsCarriedBy` asks for that.
-/

namespace MetricPath

open Escape Text

/-! ## One label after the other -/

/-- Nodes tell the labels. -/
theorem nodeTexts_inj {labels labels' : List (String × String)}
    (h : nodeTexts labels = nodeTexts labels') : labels = labels' := by
  induction labels generalizing labels' with
  | nil =>
    cases labels' with
    | nil => rfl
    | cons q labels' => cases h
  | cons p labels ih =>
    cases labels' with
    | nil => cases h
    | cons q labels' =>
      rw [nodeTexts_cons, nodeTexts_cons, List.cons.injEq, List.cons.injEq, escapeChars_inj,
        escapeChars_inj, String.toList_inj, String.toList_inj] at h
      obtain ⟨name, value, rest⟩ := h
      rw [Prod.ext name value, ih rest]

/-- A text without an equals sign and the tags after it tell that text and the labels. -/
theorem append_tag_inj {labels labels' : List (String × String)} {front front' : List Char}
    (hf : '=' ∉ front) (hf' : '=' ∉ front')
    (names : ∀ p ∈ labels, ';' ∉ p.1.toList ∧ '=' ∉ p.1.toList)
    (names' : ∀ p ∈ labels', ';' ∉ p.1.toList ∧ '=' ∉ p.1.toList)
    (h : front ++ labels.flatMap PathFormat.tag = front' ++ labels'.flatMap PathFormat.tag) :
    front = front' ∧ labels = labels' := by
  have equals (p : String × String) (more : List (String × String)) :
      '=' ∈ (p :: more).flatMap PathFormat.tag := by
    simp [PathFormat.tag]
  induction labels generalizing front front' labels' with
  | nil =>
    cases labels' with
    | nil => exact ⟨List.append_cancel_right h, rfl⟩
    | cons q labels' =>
      rw [List.flatMap_nil, List.append_nil] at h
      exact absurd (h ▸ List.mem_append_right _ (equals q labels')) hf
  | cons p labels ih =>
    cases labels' with
    | nil =>
      rw [List.flatMap_nil, List.append_nil] at h
      exact absurd (h ▸ List.mem_append_right _ (equals p labels)) hf'
    | cons q labels' =>
      obtain ⟨⟨semi, equal⟩, names⟩ := List.forall_mem_cons.mp names
      obtain ⟨⟨semi', equal'⟩, names'⟩ := List.forall_mem_cons.mp names'
      -- the first equals sign on both sides is the one after the first label name
      have cut (front : List Char) (p : String × String) (more : List (String × String)) :
          front ++ (p :: more).flatMap PathFormat.tag =
            (front ++ ';' :: p.1.toList) ++
              '=' :: (escapeChars p.2.toList ++ more.flatMap PathFormat.tag) := by
        simp [PathFormat.tag]
      rw [cut, cut] at h
      obtain ⟨heads, rest⟩ := append_cons_inj_of_notMem (by simp [hf, equal])
        (by simp [hf', equal']) h
      obtain ⟨rfl, name⟩ := append_cons_inj_of_notMem_tail semi semi' heads
      obtain ⟨value, rfl⟩ := ih (equals_notMem_escapeChars _) (equals_notMem_escapeChars _) names
        names' rest
      rw [Prod.ext (String.toList_inj.mp name) (String.toList_inj.mp (escapeChars_inj.mp value))]
      exact ⟨rfl, rfl⟩

/-- Assignments joined by commas tell the labels. -/
theorem join_assignment_inj {labels labels' : List (String × String)}
    (names : ∀ p ∈ labels, '=' ∉ p.1.toList) (names' : ∀ p ∈ labels', '=' ∉ p.1.toList)
    (h : join [','] (labels.map PathFormat.assignment) =
      join [','] (labels'.map PathFormat.assignment)) : labels = labels' := by
  -- what follows the quote after a value: nothing, or a comma and the other labels
  let after (more : List (String × String)) : List Char :=
    if more.isEmpty then [] else ',' :: join [','] (more.map PathFormat.assignment)
  have cut (p : String × String) (more : List (String × String)) :
      join [','] ((p :: more).map PathFormat.assignment) =
        p.1.toList ++ '=' :: '"' :: (escapeChars p.2.toList ++ '"' :: after more) := by
    cases more with
    | nil => simp [join, PathFormat.assignment, after]
    | cons q more => simp [join, PathFormat.assignment, after]
  induction labels generalizing labels' with
  | nil =>
    cases labels' with
    | nil => rfl
    | cons q labels' =>
      rw [cut] at h
      exact absurd h (List.append_ne_nil_of_right_ne_nil _ (List.cons_ne_nil _ _)).symm
  | cons p labels ih =>
    cases labels' with
    | nil =>
      rw [cut] at h
      exact absurd h (List.append_ne_nil_of_right_ne_nil _ (List.cons_ne_nil _ _))
    | cons q labels' =>
      obtain ⟨equal, names⟩ := List.forall_mem_cons.mp names
      obtain ⟨equal', names'⟩ := List.forall_mem_cons.mp names'
      rw [cut, cut] at h
      obtain ⟨name, rest⟩ := append_cons_inj_of_notMem equal equal' h
      obtain ⟨value, rest⟩ :=
        escapeChars_append_cons_inj (by decide) (by decide) (List.cons.inj rest).2
      have others : labels = labels' := by
        cases labels with
        | nil =>
          cases labels' with
          | nil => rfl
          | cons q' labels' => cases rest
        | cons p' labels =>
          cases labels' with
          | nil => cases rest
          | cons q' labels' => exact ih names names' (List.cons.inj rest).2
      rw [Prod.ext (String.toList_inj.mp name) (String.toList_inj.mp value), others]

/-! ## Paths -/

namespace PathFormat

/-- The escaped name and the labels after it tell the name and the labels. -/
theorem append_labelText_inj {format : PathFormat} {name name' : List Char}
    {labels labels' : List (String × String)}
    (names : format.isTagged → ∀ p ∈ labels, ';' ∉ p.1.toList ∧ '=' ∉ p.1.toList)
    (names' : format.isTagged → ∀ p ∈ labels', ';' ∉ p.1.toList ∧ '=' ∉ p.1.toList)
    (h : escapeChars name ++ format.labelText labels =
      escapeChars name' ++ format.labelText labels') : name = name' ∧ labels = labels' := by
  cases format with
  | dotted =>
    have pieces := congrArg (splitChar '.') h
    rw [labelText_dotted, labelText_dotted,
      splitChar_pieces (dot_notMem_escapeChars _) dot_notMem_nodeTexts,
      splitChar_pieces (dot_notMem_escapeChars _) dot_notMem_nodeTexts, List.cons.injEq,
      escapeChars_inj] at pieces
    exact ⟨pieces.1, nodeTexts_inj pieces.2⟩
  | tagged =>
    obtain ⟨name, rfl⟩ := append_tag_inj (equals_notMem_escapeChars _)
      (equals_notMem_escapeChars _) (names rfl) (names' rfl) h
    exact ⟨escapeChars_inj.mp name, rfl⟩
  | braced =>
    have equals (p : String × String) (more : List (String × String)) :
        '=' ∈ braced.labelText (p :: more) := by
      cases more <;> simp [labelText, join, assignment]
    have nothing : braced.labelText [] = [] := rfl
    cases labels with
    | nil =>
      cases labels' with
      | nil => exact ⟨escapeChars_inj.mp (List.append_cancel_right h), rfl⟩
      | cons q labels' =>
        rw [nothing, List.append_nil] at h
        exact absurd (h ▸ List.mem_append_right _ (equals q labels'))
          (equals_notMem_escapeChars name)
    | cons p labels =>
      cases labels' with
      | nil =>
        rw [nothing, List.append_nil] at h
        exact absurd (h ▸ List.mem_append_right _ (equals p labels))
          (equals_notMem_escapeChars name')
      | cons q labels' =>
        obtain ⟨name, inside⟩ := escapeChars_append_cons_inj (by decide) (by decide) h
        exact ⟨name, join_assignment_inj (fun r hr => (names rfl r hr).2)
          (fun r hr => (names' rfl r hr).2) (List.append_cancel_right inside)⟩

end PathFormat

namespace LabelSet

/-- What a label set needs for a default path to carry it: a metric name, no label without a name,
and, in the formats that do not escape label names, none with a character that structures a tag. -/
structure IsCarriedBy (m : LabelSet) (format : PathFormat) : Prop where
  named : m.name?.isSome
  full : m.get? "" = none
  names : format.isTagged → ∀ p ∈ m.pairs, ';' ∉ p.1.toList ∧ '=' ∉ p.1.toList

/-- A default path is the beginning, the escaped name and the labels other than the name. -/
theorem IsCarriedBy.pathChars_eq {m : LabelSet} {format : PathFormat} (h : m.IsCarriedBy format)
    {name : String} (named : m.name? = some name) (beginning : String) :
    m.pathChars format beginning =
      beginning.toList ++ (escapeChars name.toList ++ format.labelText m.others) := by
  rw [pathChars, pathLabels_eq_others h.full, getOrEmpty, ← name?, named, Option.getD_some,
    List.append_assoc]

/-- In every format, and with any beginning, different label sets have different default paths. -/
theorem defaultPath_eq_iff {m n : LabelSet} {format : PathFormat} (hm : m.IsCarriedBy format)
    (hn : n.IsCarriedBy format) (beginning : String) :
    m.defaultPath format beginning = n.defaultPath format beginning ↔ m = n := by
  constructor
  · intro h
    obtain ⟨name, named⟩ := Option.isSome_iff_exists.mp hm.named
    obtain ⟨name', named'⟩ := Option.isSome_iff_exists.mp hn.named
    have others {m : LabelSet} (h : m.IsCarriedBy format) :
        format.isTagged → ∀ p ∈ m.others, ';' ∉ p.1.toList ∧ '=' ∉ p.1.toList :=
      fun tagged p hp => h.names tagged p (List.mem_of_mem_filter hp)
    rw [defaultPath, defaultPath, String.ofList_inj, hm.pathChars_eq named,
      hn.pathChars_eq named', List.append_right_inj] at h
    obtain ⟨same_name, same_others⟩ :=
      PathFormat.append_labelText_inj (others hm) (others hn) h
    rw [← foldl_insert_others named, ← foldl_insert_others named', String.toList_inj.mp same_name,
      same_others]
  · intro h
    rw [h]

/-- A semicolon in a metric name is not taken for the one before a tag. -/
theorem defaultPath_eq_iff_semicolon :
    let m := ofList [("__name__", "up"), ("a", "1"), ("b", "2;c")]
    let n := ofList [("__name__", "up;a=1"), ("b", "2;c")]
    m.IsCarriedBy .tagged ∧ n.IsCarriedBy .tagged ∧
      m.defaultPath .tagged "p." ≠ n.defaultPath .tagged "p." := by
  intro m n
  have hm : m.IsCarriedBy .tagged := ⟨by decide, by decide, by decide⟩
  have hn : n.IsCarriedBy .tagged := ⟨by decide, by decide, by decide⟩
  exact ⟨hm, hn, mt (defaultPath_eq_iff hm hn "p.").mp (by decide)⟩

end LabelSet

end MetricPath
