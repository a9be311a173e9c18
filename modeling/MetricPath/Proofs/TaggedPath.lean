import Mathlib.Algebra.BigOperators.Group.List.Basic
import MetricPath.Proofs.UniquePaths

/-!
# Reading a tagged path back

A series found by its tags gives back its labels as they are, while a tagged default path has the
metric name and the values escaped.  So what comes back is the label set with its values escaped
(`escaped`), and that only if none of them has a semicolon, which escaping leaves and which then
ends the tag too early.  `ofTags_tagsOfPath` states this, and from it when the label set itself
comes back.

That a semicolon in a value leaves a piece without an equals sign is a matter of counting: there is
one equals sign for each label, and one semicolon more than that for each one in a value.
-/

namespace MetricPath

open Escape Text

/-! ## Tags -/

/-- The tags of a path: behind the first semicolon each piece is one, cut at its first equals sign,
and what stands before that is the one that holds the metric name.  A piece without an equals sign
is no tag, and then there are none. -/
def tagsOfPath? (path : String) : Option (List (String × String)) :=
  match splitChar ';' path.toList with
  | [] => none
  | head :: pieces =>
    (pieces.mapM (cutAt? ['='])).map fun tags =>
      tags.map (fun t => (String.ofList t.1, String.ofList t.2)) ++ [(nameTag, String.ofList head)]

/-- If all pieces can be cut, each has the separator. -/
theorem mem_of_mapM_cutAt? {sep : Char} {pieces : List (List Char)}
    (h : (pieces.mapM (cutAt? [sep])).isSome) : ∀ piece ∈ pieces, sep ∈ piece := by
  induction pieces with
  | nil => exact fun piece mem => absurd mem List.not_mem_nil
  | cons piece pieces ih =>
    rw [List.mapM_cons] at h
    cases cut : cutAt? [sep] piece with
    | none =>
      rw [cut] at h
      cases h
    | some found =>
      cases rest : pieces.mapM (cutAt? [sep]) with
      | none =>
        rw [cut, rest] at h
        cases h
      | some more =>
        exact List.forall_mem_cons.mpr ⟨mem_of_cutAt? (by rw [cut]; rfl), ih (by rw [rest]; rfl)⟩

/-- A tag without its semicolon. -/
def tagBody (p : String × String) : List Char := p.1.toList ++ '=' :: escapeChars p.2.toList

/-- Tags are cut into the names and the escaped values of their labels. -/
theorem mapM_cutAt?_tagBody {labels : List (String × String)}
    (names : ∀ p ∈ labels, '=' ∉ p.1.toList) :
    (labels.map tagBody).mapM (cutAt? ['=']) =
      some (labels.map fun p => (p.1.toList, escapeChars p.2.toList)) := by
  induction labels with
  | nil => rfl
  | cons p labels ih =>
    obtain ⟨name, names⟩ := List.forall_mem_cons.mp names
    rw [List.map_cons, List.mapM_cons, tagBody, cutAt?_append name, ih names]
    rfl

/-- In the tagged format every tag follows a semicolon. -/
theorem labelText_tagged (labels : List (String × String)) :
    PathFormat.tagged.labelText labels = (labels.map tagBody).flatMap (';' :: ·) := by
  rw [List.flatMap_map]
  rfl

namespace LabelSet

/-- The labels with a function applied to their values. -/
def mapValues (g : String → String) (m : LabelSet) : LabelSet :=
  ⟨m.pairs.map fun p => (p.1, g p.2), by
    rw [Fields.Ascending, List.pairwise_map]
    exact m.ascending⟩

/-- A label set with its values escaped. -/
def escaped (m : LabelSet) : LabelSet := m.mapValues escape

/-- Whether a name consists of letters, digits and underscores and does not begin with a digit. -/
def isIdentifier (name : String) : Bool :=
  match name.toList with
  | [] => false
  | c :: cs => (c.isAlpha || c = '_') && cs.all fun d => d.isAlphanum || d = '_'

/-- An identifier is not empty, and no character of it structures a tag. -/
theorem of_isIdentifier {name : String} (h : isIdentifier name = true) :
    name ≠ "" ∧ ';' ∉ name.toList ∧ '=' ∉ name.toList := by
  rw [isIdentifier] at h
  cases chars : name.toList with
  | nil =>
    rw [chars] at h
    cases h
  | cons c cs =>
    rw [chars, Bool.and_eq_true, List.all_eq_true] at h
    obtain ⟨first, rest⟩ := h
    have other {d : Char} (alpha : (d.isAlpha || d = '_') = false)
        (alphanum : (d.isAlphanum || d = '_') = false) : d ∉ c :: cs := by
      intro mem
      rcases List.mem_cons.mp mem with rfl | mem
      · rw [alpha] at first
        cases first
      · rw [rest d mem] at alphanum
        cases alphanum
    refine ⟨fun empty => ?_, other (by decide) (by decide), other (by decide) (by decide)⟩
    rw [empty] at chars
    cases chars

/-! ## Reading the tags -/

/-- Without semicolons in the name and the values the tags are those of the labels. -/
theorem tagsOfPath?_defaultPath {m : LabelSet} {name beginning : String}
    (carried : m.IsCarriedBy .tagged) (named : m.name? = some name)
    (clean : ';' ∉ beginning.toList) (whole : ';' ∉ name.toList)
    (values : ∀ p ∈ m.others, ';' ∉ p.2.toList) :
    tagsOfPath? (m.defaultPath .tagged beginning) =
      some (m.others.map (fun p => (p.1, escape p.2)) ++
        [(nameTag, String.ofList (beginning.toList ++ escapeChars name.toList))]) := by
  have names : ∀ p ∈ m.others, ';' ∉ p.1.toList ∧ '=' ∉ p.1.toList :=
    fun p hp => carried.names rfl p (List.mem_of_mem_filter hp)
  have head : ';' ∉ beginning.toList ++ escapeChars name.toList := by
    rw [List.mem_append, semicolon_mem_escapeChars, not_or]
    exact ⟨clean, whole⟩
  have bodies : ∀ piece ∈ m.others.map tagBody, ';' ∉ piece := by
    intro piece mem
    obtain ⟨p, hp, rfl⟩ := List.mem_map.mp mem
    rw [tagBody, List.mem_append, List.mem_cons, semicolon_mem_escapeChars]
    simp [names p hp, values p hp]
  rw [tagsOfPath?, defaultPath, String.toList_ofList, carried.pathChars_eq named,
    labelText_tagged, ← List.append_assoc, splitChar_pieces head bodies]
  dsimp only
  rw [mapM_cutAt?_tagBody fun p hp => (names p hp).2, Option.map_some, List.map_map]
  simp [escape, Function.comp_def]

/-- The equals signs of tags are those after the label names. -/
theorem count_equals_tags {labels : List (String × String)}
    (names : ∀ p ∈ labels, '=' ∉ p.1.toList) :
    (labels.flatMap PathFormat.tag).count '=' = labels.length := by
  induction labels with
  | nil => rfl
  | cons p labels ih =>
    obtain ⟨name, names⟩ := List.forall_mem_cons.mp names
    have one : (PathFormat.tag p).count '=' = 1 := by
      rw [PathFormat.tag, List.count_cons_of_ne (by decide), List.count_append,
        List.count_eq_zero.mpr name, List.count_cons_self,
        List.count_eq_zero.mpr (equals_notMem_escapeChars _)]
    rw [List.flatMap_cons, List.count_append, one, ih names, List.length_cons, Nat.add_comm]

/-- The semicolons of tags are those before the label names and those in the values. -/
theorem count_semicolon_tags {labels : List (String × String)}
    (names : ∀ p ∈ labels, ';' ∉ p.1.toList) :
    (labels.flatMap PathFormat.tag).count ';' =
      labels.length + (labels.map fun p => (escapeChars p.2.toList).count ';').sum := by
  induction labels with
  | nil => rfl
  | cons p labels ih =>
    obtain ⟨name, names⟩ := List.forall_mem_cons.mp names
    have one : (PathFormat.tag p).count ';' = 1 + (escapeChars p.2.toList).count ';' := by
      rw [PathFormat.tag, List.count_cons_self, List.count_append, List.count_eq_zero.mpr name,
        List.count_cons_of_ne (by decide), Nat.zero_add, Nat.add_comm]
    rw [List.flatMap_cons, List.count_append, one, ih names, List.length_cons, List.map_cons,
      List.sum_cons]
    omega

/-- If there are tags, neither the name nor a value has a semicolon. -/
theorem semicolon_notMem_of_tagsOfPath? {m : LabelSet} {name beginning : String}
    (carried : m.IsCarriedBy .tagged) (named : m.name? = some name)
    (clean : ';' ∉ beginning.toList)
    (h : (tagsOfPath? (m.defaultPath .tagged beginning)).isSome) :
    ';' ∉ name.toList ∧ ∀ p ∈ m.others, ';' ∉ p.2.toList := by
  have names : ∀ p ∈ m.others, ';' ∉ p.1.toList ∧ '=' ∉ p.1.toList :=
    fun p hp => carried.names rfl p (List.mem_of_mem_filter hp)
  let body := escapeChars name.toList ++ PathFormat.tagged.labelText m.others
  obtain ⟨piece, pieces, split, whole⟩ := exists_splitChar_append clean body
  -- each piece behind the first semicolon has an equals sign
  have each : ∀ piece ∈ pieces, '=' ∈ piece := by
    rw [tagsOfPath?, defaultPath, String.toList_ofList, carried.pathChars_eq named, whole] at h
    rw [Option.isSome_map] at h
    exact mem_of_mapM_cutAt? h
  have enough : pieces.length ≤ (pieces.map (List.count '=')).sum := by
    have least := List.length_le_sum_of_one_le (pieces.map (List.count '=')) fun n mem => by
      obtain ⟨piece, hp, rfl⟩ := List.mem_map.mp mem
      exact List.count_pos_iff.mpr (each piece hp)
    rwa [List.length_map] at least
  have semicolons := length_splitChar ';' body
  have equals : ((splitChar ';' body).map (List.count '=')).sum = body.count '=' :=
    sum_count_splitChar (by decide) body
  have tags : PathFormat.tagged.labelText m.others = m.others.flatMap PathFormat.tag := rfl
  rw [split, List.length_cons, List.count_append, tags,
    count_semicolon_tags fun p hp => (names p hp).1] at semicolons
  rw [split, List.map_cons, List.sum_cons, List.count_append, tags,
    count_equals_tags fun p hp => (names p hp).2,
    List.count_eq_zero.mpr (equals_notMem_escapeChars _)] at equals
  have none : (escapeChars name.toList).count ';' = 0 ∧
      (m.others.map fun p => (escapeChars p.2.toList).count ';').sum = 0 := by
    omega
  constructor
  · rw [← semicolon_mem_escapeChars]
    exact List.count_eq_zero.mp none.1
  · intro p hp
    rw [← semicolon_mem_escapeChars]
    exact List.count_eq_zero.mp
      (List.sum_eq_zero_iff_forall_eq_nat.mp none.2 _ (List.mem_map_of_mem hp))

/-- The tags of labels with escaped values give the label set with escaped values. -/
theorem ofTags_escaped {m : LabelSet} {name : String} (named : m.name? = some name)
    (noTag : m.get? nameTag = none) (beginning : String) :
    ofTags (m.others.map (fun p => (p.1, escape p.2)) ++
      [(nameTag, String.ofList (beginning.toList ++ escapeChars name.toList))]) beginning =
      m.escaped := by
  have kept : ∀ p ∈ m.others.map (fun p => (p.1, escape p.2)), labelOfTag beginning p = p := by
    intro p mem
    obtain ⟨q, hq, rfl⟩ := List.mem_map.mp mem
    have found : m.get? q.1 = some q.2 := m.ascending.get?_of_mem (List.mem_of_mem_filter hq)
    refine if_neg fun same : q.1 = nameTag => ?_
    rw [same, noTag] at found
    cases found
  have metric : labelOfTag beginning
      (nameTag, String.ofList (beginning.toList ++ escapeChars name.toList)) =
        (nameLabel, escape name) := by
    rw [labelOfTag, if_pos rfl, String.toList_ofList, dropBeginning, dropBeginning?_append]
    rfl
  have others : Fields.Ascending (m.others.map fun p => (p.1, escape p.2)) :=
    List.pairwise_map.mpr m.ascending_others
  refine ext_pairs (Fields.Ascending.ext (LabelSet.ascending _) m.escaped.ascending fun label => ?_)
  have given : m.escaped.pairs = m.pairs.map fun p => (p.1, escape p.2) := rfl
  rw [ofTags, List.map_append, List.map_congr_left kept, List.map_id', List.map_singleton, metric,
    ofList, Fields.get?_ofList_concat, others.get?_ofList, Fields.get?_map, get?_others, given,
    Fields.get?_map]
  by_cases eq : label = nameLabel
  · rw [if_pos eq, eq]
    exact congrArg (Option.map escape) named.symm
  · rw [if_neg eq, if_neg eq]
    rfl

/-- Escaping the values leaves a label set alone exactly if all their characters stand for
themselves. -/
theorem escaped_eq_self_iff {m : LabelSet} :
    m.escaped = m ↔ ∀ p ∈ m.pairs, ∀ c ∈ p.2.toList, isBare c = true := by
  have same : m.escaped = m ↔ m.pairs.map (fun p => (p.1, escape p.2)) = m.pairs.map id := by
    rw [List.map_id]
    exact ⟨congrArg pairs, fun h => ext_pairs h⟩
  rw [same, List.map_inj_left]
  refine forall₂_congr fun p hp => ?_
  rw [← escape_eq_self_iff, id, Prod.ext_iff]
  exact and_iff_right rfl

/-- Identifiers and a name make a label set that a tagged path carries. -/
theorem isCarriedBy_of_identifiers {m : LabelSet} (named : m.name?.isSome)
    (identifiers : ∀ p ∈ m.pairs, isIdentifier p.1) : m.IsCarriedBy .tagged where
  named := named
  full := Fields.get?_eq_none fun p hp => (of_isIdentifier (identifiers p hp)).1
  names _ p hp := (of_isIdentifier (identifiers p hp)).2

/-- The values of a label set are its name and the values of the other labels. -/
theorem forall_values_iff {m : LabelSet} {name : String} (named : m.name? = some name)
    (P : String → Prop) : (∀ p ∈ m.pairs, P p.2) ↔ P name ∧ ∀ p ∈ m.others, P p.2 := by
  constructor
  · intro all
    exact ⟨all _ (Fields.mem_of_get? named), fun p hp => all p (List.mem_of_mem_filter hp)⟩
  · rintro ⟨own, others⟩ p hp
    by_cases eq : p.1 = nameLabel
    · have found : m.get? p.1 = some p.2 := m.ascending.get?_of_mem hp
      rw [eq] at found
      exact Option.some_inj.mp (named.symm.trans found) ▸ own
    · exact others p (List.mem_filter.mpr ⟨hp, decide_eq_true eq⟩)

/-- The tags of a tagged default path, if label names are identifiers and neither is `name` nor has
the beginning a semicolon.  Reading them gives the label set with its values escaped, provided that
no value has a semicolon, and fails otherwise; so it gives the label set itself exactly if all
characters of the values stand for themselves and none is a semicolon. -/
theorem ofTags_tagsOfPath {m : LabelSet} {beginning : String} (named : m.name?.isSome)
    (noTag : m.get? nameTag = none) (identifiers : ∀ p ∈ m.pairs, isIdentifier p.1)
    (clean : ';' ∉ beginning.toList) :
    let read? := (tagsOfPath? (m.defaultPath .tagged beginning)).map fun t => ofTags t beginning
    read? = (if ∀ p ∈ m.pairs, ';' ∉ p.2.toList then some m.escaped else none) ∧
      (read? = some m ↔ ∀ p ∈ m.pairs, ∀ c ∈ p.2.toList, isBare c = true ∧ c ≠ ';') := by
  intro read?
  obtain ⟨name, hn⟩ := Option.isSome_iff_exists.mp named
  have carried := isCarriedBy_of_identifiers named identifiers
  have semicolons := forall_values_iff hn fun value => ';' ∉ value.toList
  have read : read? = if ∀ p ∈ m.pairs, ';' ∉ p.2.toList then some m.escaped else none := by
    split_ifs with whole
    · obtain ⟨own, others⟩ := semicolons.mp whole
      show (tagsOfPath? _).map _ = _
      rw [tagsOfPath?_defaultPath carried hn clean own others, Option.map_some,
        ofTags_escaped hn noTag]
    · show (tagsOfPath? _).map _ = _
      rw [Option.map_eq_none_iff, ← Option.not_isSome_iff_eq_none]
      exact fun some => whole
        (semicolons.mpr (semicolon_notMem_of_tagsOfPath? carried hn clean some))
  refine ⟨read, ?_⟩
  rw [read]
  split_ifs with whole
  · rw [Option.some_inj, escaped_eq_self_iff]
    refine forall₂_congr fun p hp => forall₂_congr fun c hc => ?_
    have other : c ≠ ';' := fun semi => whole p hp (semi ▸ hc)
    exact (and_iff_left other).symm
  · refine iff_of_false (fun h => by cases h) fun bare => whole fun p hp mem => ?_
    exact (bare p hp ';' mem).2 rfl

/-- Values that need no escaping are read back, whatever the beginning. -/
theorem ofTags_tagsOfPath_bare :
    let m := ofList [("__name__", "up"), ("job", "api:8080")]
    (m.name?.isSome ∧ m.get? nameTag = none ∧ (∀ p ∈ m.pairs, isIdentifier p.1) ∧
      ';' ∉ "p=.".toList) ∧
    (tagsOfPath? (m.defaultPath .tagged "p=.")).map (fun t => ofTags t "p=.") = some m := by
  intro m
  have named : m.name?.isSome := by decide
  have noTag : m.get? nameTag = none := by decide
  have identifiers : ∀ p ∈ m.pairs, isIdentifier p.1 := by decide
  have clean : ';' ∉ "p=.".toList := by decide
  have bare : ∀ p ∈ m.pairs, p.2.toList.all fun c => isBare c && c != ';' := by decide
  refine ⟨⟨named, noTag, identifiers, clean⟩,
    (ofTags_tagsOfPath named noTag identifiers clean).2.mpr fun p hp c hc => ?_⟩
  simpa using List.all_eq_true.mp (bare p hp) c hc

/-- A dot in a value comes back as it was escaped. -/
theorem ofTags_tagsOfPath_dot :
    let m := ofList [("__name__", "up"), ("job", "a.b")]
    (m.name? = some "up" ∧ m.get? nameTag = none ∧ (∀ p ∈ m.pairs, isIdentifier p.1) ∧
      ';' ∉ "".toList) ∧
    ∃ r, (tagsOfPath? (m.defaultPath .tagged "")).map (fun t => ofTags t "") = some r ∧
      r.get? "job" = some "a%2Eb" ∧ r ≠ m := by
  refine ⟨⟨by decide, by decide, by decide, by decide⟩, _, rfl, by decide, by decide⟩

end LabelSet

end MetricPath
