import Mathlib.Data.Multiset.AddSub
import Mathlib.Data.Multiset.Sort
import Mathlib.Data.String.Basic
import MetricPath.Check

/-!
# Comparing expected and produced lines

What a check reports are differences of multisets: the lines that are missing are the expected ones
less the produced ones, each as often as it is left over, and the extra lines are the difference the
other way (`compare_eq`).

Pairing off takes one produced line after the other and looks for it among the expected ones that
are left.  That is the difference of lists in both directions (`pairOff_eq`).  The order of both
reports is that of the sorted lists they were taken from, since a difference is a sublist.
-/

namespace MetricPath.Check

/-- The lines of a text that count, in their order: without the white space at their ends, and not
empty. -/
def countedLines (text : String) : List String :=
  let lines := (Text.lines text.toList).map (Text.trimEnd Text.isBlank)
  (lines.filter fun line => !line.isEmpty).map String.ofList

/-- The lines of a text that count, with how often each occurs. -/
def lineCounts (text : String) : Multiset String := countedLines text

theorem sortedLines_eq_sort (text : String) : sortedLines text = (lineCounts text).sort := by
  have order : (fun a b : String => !decide (b < a)) = fun a b => decide (a ≤ b) := by
    funext a b
    rw [← decide_not]
    exact decide_eq_decide.mpr not_lt
  rw [sortedLines, order]
  rfl

theorem coe_sortedLines (text : String) :
    (sortedLines text : Multiset String) = lineCounts text := by
  rw [sortedLines_eq_sort, Multiset.sort_eq]

/-- Pairing off leaves the differences of the two lists. -/
theorem pairOff_eq (missing lines : List String) :
    pairOff missing lines = (missing.diff lines, lines.diff missing) := by
  induction lines generalizing missing with
  | nil => rw [pairOff, List.diff_nil, List.nil_diff]
  | cons line lines ih =>
    rw [pairOff]
    by_cases found : line ∈ missing
    · rw [if_pos found, ih, List.diff_cons, List.cons_diff_of_mem found]
    · rw [if_neg found, ih, List.diff_cons, List.erase_of_not_mem found,
        List.cons_diff_of_not_mem found]

/-- The difference of sorted lists is the sorted difference of their multisets. -/
theorem sortedLines_diff (text other : String) :
    (sortedLines text).diff (sortedLines other) = (lineCounts text - lineCounts other).sort := by
  have sorted : (sortedLines text).Pairwise (· ≤ ·) := by
    rw [sortedLines_eq_sort]
    exact Multiset.pairwise_sort ..
  have difference := sorted.sublist (List.diff_sublist _ (sortedLines other))
  rw [← coe_sortedLines, ← coe_sortedLines, Multiset.coe_sub, Multiset.coe_sort,
    List.mergeSort_eq_self _ difference]

theorem compare_missing (name expected produced : String) :
    (compare name expected produced).missing =
      (lineCounts expected - lineCounts produced).sort := by
  rw [compare, pairOff_eq]
  exact sortedLines_diff expected produced

theorem compare_extra (name expected produced : String) :
    (compare name expected produced).extra =
      (lineCounts produced - lineCounts expected).sort := by
  rw [compare, pairOff_eq]
  exact sortedLines_diff produced expected

/-- A sorted difference is empty if every line occurs at least as often on the other side. -/
theorem isEmpty_sort_sub_iff (s t : Multiset String) : (s - t).sort.isEmpty = true ↔ s ≤ t := by
  rw [List.isEmpty_iff, ← Multiset.coe_eq_zero, Multiset.sort_eq, ← Multiset.le_zero,
    Multiset.sub_le_iff_le_add, Multiset.zero_add]

/-- **A check compares multisets of lines.**  Missing are the expected lines less the produced ones,
and extra the produced lines less the expected ones, both in ascending order.  So a case passes
exactly if both texts have the same lines, each as often and in whatever order, and the two reports
are exchanged if the texts are. -/
theorem compare_eq (name expected produced : String) :
    (compare name expected produced).missing =
        (lineCounts expected - lineCounts produced).sort ∧
      (compare name expected produced).extra =
        (lineCounts produced - lineCounts expected).sort ∧
      ((compare name expected produced).passed = true ↔
        (countedLines expected).Perm (countedLines produced)) ∧
      (compare name produced expected).missing = (compare name expected produced).extra ∧
      (compare name produced expected).extra = (compare name expected produced).missing := by
  refine ⟨compare_missing .., compare_extra .., ?_, ?_, ?_⟩
  · rw [Outcome.passed, Bool.and_eq_true, compare_missing, compare_extra, isEmpty_sort_sub_iff,
      isEmpty_sort_sub_iff, ← le_antisymm_iff]
    exact Multiset.coe_eq_coe
  · rw [compare_missing, compare_extra]
  · rw [compare_missing, compare_extra]

/-- A line that was produced twice and expected once is extra once. -/
example : compare "" "a 1\n\nb 2 \n" "b 2\r\na 1\na 1\n" = ⟨"", [], ["a 1"]⟩ := by cbv

end MetricPath.Check
