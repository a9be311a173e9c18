import Mathlib.Data.List.Nodup
import MetricPath.Path.Read
import MetricPath.Proofs.Fields

/-!
# The order of tags

Tags come in no particular order.  Each becomes a label, and of several labels with one name the
last counts, so the order shows only where two tags become labels of one name with different values.
Tags with names of their own do so in one way: one of them holds the metric name, and another one is
called as the label that holds it.

`ofTags_perm_iff` says for which tags the order does not matter.
-/

namespace MetricPath

namespace LabelSet

variable {tags tags' : List (String × String)} {beginning label : String}

/-- What is found under a name under which the tags set one value. -/
theorem get?_ofTags_eq_some_iff
    (unique : ∀ v w, (label, v) ∈ tags.map (labelOfTag beginning) →
      (label, w) ∈ tags.map (labelOfTag beginning) → v = w) (value : String) :
    (ofTags tags beginning).get? label = some value ↔
      (label, value) ∈ tags.map (labelOfTag beginning) :=
  Fields.get?_ofList_eq_some_iff unique

/-- A label under which the tags set one value does not depend on their order. -/
theorem get?_ofTags_perm (perm : tags'.Perm tags)
    (unique : ∀ v w, (label, v) ∈ tags.map (labelOfTag beginning) →
      (label, w) ∈ tags.map (labelOfTag beginning) → v = w) :
    (ofTags tags' beginning).get? label = (ofTags tags beginning).get? label := by
  have same (value : String) : (label, value) ∈ tags'.map (labelOfTag beginning) ↔
      (label, value) ∈ tags.map (labelOfTag beginning) := (perm.map _).mem_iff
  refine Option.ext fun value => ?_
  rw [get?_ofTags_eq_some_iff unique, get?_ofTags_eq_some_iff, same]
  exact fun v w hv hw => unique v w ((same v).mp hv) ((same w).mp hw)

/-- The tag read last sets its label. -/
theorem get?_ofTags_concat (tags : List (String × String)) (beginning : String)
    (tag : String × String) :
    (ofTags (tags ++ [tag]) beginning).get? (labelOfTag beginning tag).1 =
      some (labelOfTag beginning tag).2 := by
  have last := Fields.get?_ofList_concat (labelOfTag beginning tag).1 (labelOfTag beginning tag).1
    (labelOfTag beginning tag).2 (tags.map (labelOfTag beginning))
  rw [if_pos rfl] at last
  rw [ofTags, List.map_append]
  exact last

/-- A tag can be read last. -/
theorem exists_perm_concat {tag : String × String} (h : tag ∈ tags) :
    ∃ others, (others ++ [tag]).Perm tags := by
  obtain ⟨front, behind, rfl⟩ := List.append_of_mem h
  refine ⟨front ++ behind, ?_⟩
  rw [List.append_assoc]
  exact (List.perm_append_comm).append_left front

/-- The metric name comes from the tag that holds it. -/
theorem labelOfTag_nameTag (beginning name : String) :
    labelOfTag beginning (nameTag, name) =
      (nameLabel, String.ofList (dropBeginning beginning.toList name.toList)) := if_pos rfl

/-- The tag called as the label of the metric name is that label. -/
theorem labelOfTag_nameLabel (beginning own : String) :
    labelOfTag beginning (nameLabel, own) = (nameLabel, own) :=
  if_neg (by decide : nameLabel ≠ nameTag)

/-- The tags behind a label: the one of its name, and for the metric name the one that holds it. -/
theorem mem_map_labelOfTag {value : String} :
    (label, value) ∈ tags.map (labelOfTag beginning) ↔
      (label, value) ∈ tags ∧ label ≠ nameTag ∨
        label = nameLabel ∧ ∃ name, (nameTag, name) ∈ tags ∧
          value = String.ofList (dropBeginning beginning.toList name.toList) := by
  constructor
  · intro h
    obtain ⟨tag, mem, same⟩ := List.mem_map.mp h
    by_cases holds : tag.1 = nameTag
    · rw [labelOfTag, if_pos holds, Prod.mk.injEq] at same
      exact .inr ⟨same.1.symm, tag.2, by rwa [← holds], same.2.symm⟩
    · rw [labelOfTag, if_neg holds] at same
      rw [same] at mem holds
      exact .inl ⟨mem, holds⟩
  · rintro (⟨mem, other⟩ | ⟨rfl, name, mem, rfl⟩)
    · exact List.mem_map.mpr ⟨_, mem, if_neg other⟩
    · exact List.mem_map.mpr ⟨_, mem, labelOfTag_nameTag beginning name⟩

/-- A tag's name stands for one value. -/
theorem eq_of_mem_tags (distinct : (tags.map Prod.fst).Nodup) {name v w : String}
    (hv : (name, v) ∈ tags) (hw : (name, w) ∈ tags) : v = w :=
  congrArg Prod.snd (List.inj_on_of_nodup_map distinct hv hw rfl)

/-- For tags with distinct names: the label set is the same in every order of the tags exactly if no
tag called as the label of the metric name disagrees with the tag that holds the metric name.  No
other label ever depends on the order. -/
theorem ofTags_perm_iff (distinct : (tags.map Prod.fst).Nodup) (beginning : String) :
    ((∀ tags', tags'.Perm tags → ofTags tags' beginning = ofTags tags beginning) ↔
      ∀ name own, (nameTag, name) ∈ tags → (nameLabel, own) ∈ tags →
        own = String.ofList (dropBeginning beginning.toList name.toList)) ∧
    ∀ tags', tags'.Perm tags → ∀ label ≠ nameLabel,
      (ofTags tags' beginning).get? label = (ofTags tags beginning).get? label := by
  have others (label : String) (ne : label ≠ nameLabel) (v w : String)
      (hv : (label, v) ∈ tags.map (labelOfTag beginning))
      (hw : (label, w) ∈ tags.map (labelOfTag beginning)) : v = w := by
    have tag {value : String} (h : (label, value) ∈ tags.map (labelOfTag beginning)) :
        (label, value) ∈ tags :=
      ((mem_map_labelOfTag.mp h).resolve_right fun metric => ne metric.1).1
    exact eq_of_mem_tags distinct (tag hv) (tag hw)
  refine ⟨⟨fun same name own hname hown => ?_, fun agree tags' perm => ?_⟩,
    fun tags' perm label ne => get?_ofTags_perm perm (others label ne)⟩
  · -- in one order the one tag is read last, and in another order the other
    obtain ⟨front, perm⟩ := exists_perm_concat hname
    obtain ⟨front', perm'⟩ := exists_perm_concat hown
    have byTag := get?_ofTags_concat front beginning (nameTag, name)
    have byLabel := get?_ofTags_concat front' beginning (nameLabel, own)
    rw [same _ perm, labelOfTag_nameTag] at byTag
    rw [same _ perm', labelOfTag_nameLabel] at byLabel
    exact Option.some_inj.mp (byLabel.symm.trans byTag)
  · refine ext_pairs (Fields.Ascending.ext (ascending _) (ascending _) fun label => ?_)
    refine get?_ofTags_perm perm ?_
    by_cases metric : label = nameLabel
    · subst metric
      intro v w hv hw
      rcases mem_map_labelOfTag.mp hv with ⟨hv, -⟩ | ⟨-, name, hname, rfl⟩ <;>
        rcases mem_map_labelOfTag.mp hw with ⟨hw, -⟩ | ⟨-, name', hname', rfl⟩
      · exact eq_of_mem_tags distinct hv hw
      · exact agree name' v hname' hv
      · exact (agree name w hname hw).symm
      · rw [eq_of_mem_tags distinct hname hname']
    · exact others label metric

/-- Both tags with one name: every order gives it, also with the other label in between. -/
theorem ofTags_perm_iff_agreeing :
    let tags := [("name", "p.up"), ("job", "api"), ("__name__", "up")]
    (tags.map Prod.fst).Nodup ∧
      ∀ tags', tags'.Perm tags → ofTags tags' "p." = ofTags tags "p." := by
  intro tags
  have distinct : (tags.map Prod.fst).Nodup := by decide
  refine ⟨distinct, (ofTags_perm_iff distinct "p.").1.mpr fun name own hname hown => ?_⟩
  have tag : name = "p.up" := eq_of_mem_tags distinct hname (by decide)
  have label : own = "up" := eq_of_mem_tags distinct hown (by decide)
  rw [tag, label]
  decide

/-- Both tags with different names: the last one decides. -/
theorem ofTags_order_shows :
    let tags := [("name", "up"), ("__name__", "down")]
    (tags.map Prod.fst).Nodup ∧ tags.reverse.Perm tags ∧
      (ofTags tags "").name? = some "down" ∧ (ofTags tags.reverse "").name? = some "up" ∧
      ofTags tags.reverse "" ≠ ofTags tags "" := by
  intro tags
  have last : (ofTags tags "").name? = some "down" := by decide
  have first : (ofTags tags.reverse "").name? = some "up" := by decide
  refine ⟨by decide, List.reverse_perm _, last, first, fun same => ?_⟩
  rw [same, last] at first
  exact absurd first (by decide)

end LabelSet

end MetricPath
