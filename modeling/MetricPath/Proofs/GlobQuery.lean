import MetricPath.Matcher
import MetricPath.Proofs.DottedPath

/-!
# What the glob query finds

A backend with dotted paths is asked for everything below a metric name.  The query has the name as
it is, while a dotted default path has it escaped, so a path that was written for the name is found
only if escaping leaves the name alone (`expandQuery_finds_iff`).

An altered name cannot be met by accident: behind the name the query has a dot, an escaped name has
none and is never shorter than the name, so the dot would have to stand inside of it.
-/

namespace MetricPath

open Escape

/-- The last of several matchers for equality with the metric name decides. -/
theorem Matcher.nameOf?_eq {front back : List Matcher} {name : String}
    (last : ∀ c ∈ back, ¬(c.name = LabelSet.nameLabel ∧ c.op = .equal)) :
    nameOf? (front ++ ⟨LabelSet.nameLabel, .equal, name⟩ :: back) = some name := by
  have later : (back.reverse.find? fun c => c.name = LabelSet.nameLabel && c.op = .equal) = none :=
    List.find?_eq_none.mpr fun c hc => by simpa using last c (List.mem_reverse.mp hc)
  rw [nameOf?, List.reverse_append, List.reverse_cons, List.append_assoc, List.find?_append, later,
    Option.none_or, List.singleton_append, List.find?_cons_of_pos (by rfl)]
  rfl

namespace Escape

/-- A text and a dot begin an escaped form of the text, with something behind it, only if escaping
leaves the text alone and the dot stands behind it. -/
theorem eq_self_of_append_dot {cs rest : List Char} (h : cs ++ ['.'] <+: escapeChars cs ++ rest) :
    escapeChars cs = cs ∧ rest ≠ [] := by
  obtain ⟨more, h⟩ := h
  rw [List.append_assoc, List.singleton_append] at h
  have longer := length_le_length_escapeChars cs
  rcases List.append_eq_append_iff.mp h with ⟨inside, escaped, dot⟩ | ⟨outside, shorter, behind⟩
  · cases inside with
    | nil =>
      rw [List.nil_append] at dot
      exact ⟨escaped.trans (List.append_nil cs), fun none => by rw [none] at dot; cases dot⟩
    | cons c inside =>
      -- then the dot would stand in the escaped text
      obtain ⟨rfl, -⟩ := List.cons.inj dot
      exact absurd (escaped ▸ List.mem_append_right cs List.mem_cons_self)
        (dot_notMem_escapeChars cs)
  · have length := congrArg List.length shorter
    rw [List.length_append] at length
    have empty : outside = [] := List.length_eq_zero_iff.mp (by omega)
    subst empty
    rw [List.append_nil] at shorter
    exact ⟨shorter.symm, fun none => by rw [none] at behind; cases behind⟩

end Escape

namespace LabelSet

variable {m : LabelSet}

/-- A path carries labels if there are labels other than the name that have a name themselves. -/
theorem pathLabels_ne_nil_iff :
    m.pathLabels ≠ [] ↔ ∃ p ∈ m.pairs, p.1 ≠ nameLabel ∧ p.1 ≠ "" := by
  rw [ne_eq, List.eq_nil_iff_forall_not_mem, not_forall_not]
  simp only [pathLabels, others, List.mem_filter, decide_eq_true_eq, and_assoc]

/-- A dotted default path goes on below the name, as it is, exactly if escaping leaves the name
alone and the path carries labels. -/
theorem append_dot_begins_iff (beginning : String) :
    beginning.toList ++ ((m.getOrEmpty nameLabel).toList ++ ['.']) <+:
        m.pathChars .dotted beginning ↔
      escape (m.getOrEmpty nameLabel) = m.getOrEmpty nameLabel ∧ m.pathLabels ≠ [] := by
  have escaped : escape (m.getOrEmpty nameLabel) = m.getOrEmpty nameLabel ↔
      escapeChars (m.getOrEmpty nameLabel).toList = (m.getOrEmpty nameLabel).toList := by
    rw [escape, ← String.toList_inj, String.toList_ofList]
  rw [pathChars, List.append_assoc, List.prefix_append_right_inj, labelText_dotted, escaped]
  constructor
  · intro h
    obtain ⟨alone, carries⟩ := eq_self_of_append_dot h
    exact ⟨alone, fun none => carries (by rw [none]; rfl)⟩
  · rintro ⟨alone, carries⟩
    obtain ⟨p, labels, some⟩ := List.exists_cons_of_ne_nil carries
    rw [alone, some, nodeTexts_cons, List.flatMap_cons, List.prefix_append_right_inj]
    exact ⟨_, rfl⟩

/-- The glob query for a metric name always exists, and it is the beginning of a dotted path with
`**` behind it.  The path of a label set with that name begins so exactly if escaping leaves the
name alone and there is a further label that has a name. -/
theorem expandQuery_finds_iff {name : String} (named : m.name? = some name) (filled : name ≠ "")
    (front : List Matcher) {back : List Matcher}
    (last : ∀ c ∈ back, ¬(c.name = nameLabel ∧ c.op = .equal)) (beginning : String) :
    ∃ above, expandQuery (front ++ ⟨nameLabel, .equal, name⟩ :: back) beginning =
        .ok (above ++ "**") ∧
      (above.toList <+: (m.defaultPath .dotted beginning).toList ↔
        escape name = name ∧ ∃ p ∈ m.pairs, p.1 ≠ nameLabel ∧ p.1 ≠ "") := by
  refine ⟨beginning ++ name ++ ".", ?_, ?_⟩
  · have ending : "." ++ "**" = ".**" := rfl
    rw [expandQuery, Matcher.nameOf?_eq last, String.append_assoc, ending]
    exact if_neg filled
  · have own : m.getOrEmpty nameLabel = name := by
      rw [getOrEmpty, ← name?, named, Option.getD_some]
    have found := append_dot_begins_iff (m := m) beginning
    rw [own, pathLabels_ne_nil_iff] at found
    rw [defaultPath, String.toList_ofList, String.toList_append, String.toList_append,
      List.append_assoc]
    exact found

/-- Of two names for the same labels the one with a dot is not found: it is written with the dot
escaped. -/
theorem expandQuery_finds_iff_dot :
    let m (name : String) := ofList [("__name__", name), ("job", "api")]
    let matchers (name : String) : List Matcher :=
      [⟨"__name__", .equal, "old"⟩, ⟨"__name__", .equal, name⟩, ⟨"__name__", .notEqual, "old"⟩]
    (∃ above, expandQuery (matchers "load") "p." = .ok (above ++ "**") ∧
      above.toList <+: ((m "load").defaultPath .dotted "p.").toList) ∧
    ∃ above, expandQuery (matchers "cpu.load") "p." = .ok (above ++ "**") ∧
      ¬above.toList <+: ((m "cpu.load").defaultPath .dotted "p.").toList := by
  intro m matchers
  have last : ∀ c ∈ [(⟨"__name__", .notEqual, "old"⟩ : Matcher)],
      ¬(c.name = nameLabel ∧ c.op = .equal) := by decide
  have named : (m "load").name? = some "load" := by decide
  have named' : (m "cpu.load").name? = some "cpu.load" := by decide
  constructor
  · obtain ⟨above, query, found⟩ :=
      expandQuery_finds_iff named (by decide) [⟨"__name__", .equal, "old"⟩] last "p."
    exact ⟨above, query, found.mpr (by decide)⟩
  · obtain ⟨above, query, found⟩ :=
      expandQuery_finds_iff named' (by decide) [⟨"__name__", .equal, "old"⟩] last "p."
    exact ⟨above, query, mt found.mp (by decide)⟩

end LabelSet

end MetricPath
