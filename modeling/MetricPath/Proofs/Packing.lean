import MetricPath.Proofs.Batches

/-!
# Packing lines into buffers

The lines of a list are cut into runs, one for each buffer (`packRuns`); the buffers are the texts
of these runs, without an empty one (`packLines_eq`).  A run is too long for its buffer only if all
of its text is that of one line (`fits_packRuns`).

No cut into runs that fit has fewer runs than there are buffers.  A buffer that has been filled
further needs at least as many buffers for the same lines, and at most one more
(`length_packLines_le`), so that a run in front of other lines costs at most one buffer
(`length_chunkLines_append_le`).
-/

namespace MetricPath

/-- The runs of lines that fill one buffer each, where `run` is in the open one. -/
def packRuns (limit : Nat) (run : List String) : List String → List (List String)
  | [] => [run]
  | line :: lines =>
    if String.join run ≠ "" ∧ limit < (String.join run).utf8ByteSize + line.utf8ByteSize then
      run :: packRuns limit [line] lines
    else packRuns limit (run ++ [line]) lines

/-- Whether a run stays within the limit, unless all its text is that of one line. -/
def RunFits (limit : Nat) (run : List String) : Prop :=
  limit < (String.join run).utf8ByteSize → String.join run ∈ run

/-- Whether a run of two or more lines stays within the limit. -/
def StaysWithin (limit : Nat) (run : List String) : Prop :=
  2 ≤ run.length → (String.join run).utf8ByteSize ≤ limit

variable {limit : Nat}

/-! ## Runs -/

theorem join_singleton (line : String) : String.join [line] = line := by
  rw [String.join_cons, String.join_nil, String.append_empty]

/-- The runs are all lines, in their order. -/
theorem flatten_packRuns (limit : Nat) (run lines : List String) :
    (packRuns limit run lines).flatten = run ++ lines := by
  induction lines generalizing run with
  | nil => rw [packRuns, List.flatten_cons, List.flatten_nil]
  | cons line lines ih =>
    rw [packRuns]
    split
    · rw [List.flatten_cons, ih, List.singleton_append]
    · rw [ih, List.append_assoc, List.singleton_append]

/-- Buffers are the texts of the runs, without an empty one. -/
theorem packLines_eq (limit : Nat) (run lines : List String) :
    packLines limit (String.join run) lines =
      ((packRuns limit run lines).map String.join).filter (· ≠ "") := by
  induction lines generalizing run with
  | nil =>
    rw [packLines, packRuns, List.map_cons, List.map_nil]
    by_cases empty : String.join run = ""
    · rw [if_pos empty, List.filter_cons_of_neg (by simpa using empty)]
      rfl
    · rw [if_neg empty, List.filter_cons_of_pos (by simpa using empty)]
      rfl
  | cons line lines ih =>
    rw [packLines, packRuns]
    split
    · rename_i full
      rw [List.map_cons, List.filter_cons_of_pos (by simpa using full.1), ← ih, join_singleton]
    · rw [← ih, String.join_append, join_singleton]

/-- A run that a line is added to fits if it did before. -/
theorem fits_packRuns {run : List String} (fits : RunFits limit run) (lines : List String) :
    ∀ r ∈ packRuns limit run lines, RunFits limit r := by
  induction lines generalizing run with
  | nil =>
    intro r mem
    rw [packRuns, List.mem_singleton] at mem
    exact mem ▸ fits
  | cons line lines ih =>
    rw [packRuns]
    split
    · have alone : RunFits limit [line] := by
        intro _
        rw [join_singleton]
        exact List.mem_singleton_self line
      intro r mem
      rcases List.mem_cons.mp mem with rfl | mem
      · exact fits
      · exact ih alone r mem
    · rename_i room
      refine ih fun long => ?_
      rw [String.join_append, join_singleton] at long ⊢
      -- there was no room for the line unless the run was empty
      have empty : String.join run = "" := by
        refine Decidable.byContradiction fun filled => room ⟨filled, ?_⟩
        rwa [String.utf8ByteSize_append] at long
      rw [empty, String.empty_append]
      exact List.mem_append_right run (List.mem_singleton_self line)

/-! ## The fewest buffers -/

theorem utf8ByteSize_pos {s : String} (h : s ≠ "") : 0 < s.utf8ByteSize :=
  Nat.pos_of_ne_zero (mt String.utf8ByteSize_eq_zero_iff.mp h)

theorem append_ne_empty {s : String} (h : s ≠ "") (t : String) : s ++ t ≠ "" := by
  intro empty
  have size := congrArg String.utf8ByteSize empty
  rw [String.utf8ByteSize_append, String.utf8ByteSize_empty] at size
  exact absurd (utf8ByteSize_pos h) (by omega)

/-- A line that has no room begins another buffer. -/
theorem packLines_of_full {buffer line : String} (filled : buffer ≠ "")
    (full : limit < buffer.utf8ByteSize + line.utf8ByteSize) (lines : List String) :
    packLines limit buffer (line :: lines) = buffer :: packLines limit line lines := by
  rw [packLines, if_pos ⟨filled, full⟩]

/-- A line that has room goes into the buffer. -/
theorem packLines_of_room {buffer line : String}
    (room : buffer.utf8ByteSize + line.utf8ByteSize ≤ limit) (lines : List String) :
    packLines limit buffer (line :: lines) = packLines limit (buffer ++ line) lines := by
  rw [packLines, if_neg fun full => Nat.not_lt.mpr room full.2]

/-- A fuller buffer needs at least as many buffers for the same lines, and at most one more. -/
theorem length_packLines_le {b c : String} (filled : b ≠ "")
    (fuller : b.utf8ByteSize ≤ c.utf8ByteSize) {lines : List String}
    (nonempty : ∀ line ∈ lines, line ≠ "") :
    (packLines limit b lines).length ≤ (packLines limit c lines).length ∧
      (packLines limit c lines).length ≤ (packLines limit b lines).length + 1 := by
  have filled' : c ≠ "" := by
    rintro rfl
    rw [String.utf8ByteSize_empty] at fuller
    exact absurd (utf8ByteSize_pos filled) (by omega)
  induction lines generalizing b c with
  | nil =>
    rw [packLines, packLines, if_neg filled, if_neg filled']
    exact ⟨Nat.le_refl 1, Nat.le_succ 1⟩
  | cons line lines ih =>
    have some := nonempty line List.mem_cons_self
    have nonempty := fun l mem => nonempty l (List.mem_cons_of_mem line mem)
    have longer (s : String) : (s ++ line).utf8ByteSize = s.utf8ByteSize + line.utf8ByteSize :=
      String.utf8ByteSize_append
    by_cases full : limit < b.utf8ByteSize + line.utf8ByteSize
    · -- there is no room in either buffer
      rw [packLines_of_full filled full, packLines_of_full filled' (by omega), List.length_cons,
        List.length_cons]
      omega
    rw [packLines_of_room (Nat.not_lt.mp full)]
    by_cases full' : limit < c.utf8ByteSize + line.utf8ByteSize
    · -- the fuller buffer is closed, and the line alone is less than the other buffer with it
      rw [packLines_of_full filled' full', List.length_cons]
      obtain ⟨least, most⟩ := ih some (c := b ++ line) (by rw [longer]; omega) nonempty
        (append_ne_empty filled line)
      omega
    · rw [packLines_of_room (Nat.not_lt.mp full')]
      exact ih (append_ne_empty filled line) (by rw [longer, longer]; omega) nonempty
        (append_ne_empty filled' line)

/-- Lines that have room together go into the buffer together. -/
theorem packLines_append {buffer : String} {run : List String}
    (room : buffer.utf8ByteSize + (String.join run).utf8ByteSize ≤ limit) (lines : List String) :
    packLines limit buffer (run ++ lines) = packLines limit (buffer ++ String.join run) lines := by
  induction run generalizing buffer with
  | nil => rw [List.nil_append, String.join_nil, String.append_empty]
  | cons line run ih =>
    rw [String.join_cons, String.utf8ByteSize_append] at room
    rw [List.cons_append, packLines_of_room (by omega), ih, String.join_cons, String.append_assoc]
    rw [String.utf8ByteSize_append]
    omega

/-- The first line goes into the first buffer. -/
theorem chunkLines_cons (limit : Nat) (line : String) (lines : List String) :
    chunkLines (line :: lines) limit = packLines limit line lines := by
  rw [chunkLines, packLines, if_neg fun full => absurd rfl full.1, String.empty_append]

/-- A run in front of other lines costs at most one buffer. -/
theorem length_chunkLines_append_le {run lines : List String} (within : StaysWithin limit run)
    (nonempty : ∀ line ∈ run ++ lines, line ≠ "") :
    (chunkLines (run ++ lines) limit).length ≤ (chunkLines lines limit).length + 1 := by
  rcases run with _ | ⟨first, run⟩
  · rw [List.nil_append]
    exact Nat.le_succ _
  have filled : String.join (first :: run) ≠ "" := by
    rw [String.join_cons]
    exact append_ne_empty (nonempty first List.mem_cons_self) _
  have together : chunkLines (first :: run ++ lines) limit =
      packLines limit (String.join (first :: run)) lines := by
    rw [List.cons_append, chunkLines_cons]
    rcases run with _ | ⟨second, run⟩
    · rw [join_singleton, List.nil_append]
    · have room := within (Nat.le_add_left 2 _)
      rw [String.join_cons, String.utf8ByteSize_append] at room
      rw [packLines_append room, ← String.join_cons]
  rw [together]
  rcases lines with _ | ⟨line, lines⟩
  · rw [packLines, if_neg filled]
    exact Nat.le_refl 1
  have nonempty := fun l mem => nonempty l (List.mem_append_right (first :: run) mem)
  have some := nonempty line List.mem_cons_self
  have nonempty := fun l mem => nonempty l (List.mem_cons_of_mem line mem)
  rw [chunkLines_cons]
  by_cases full : limit < (String.join (first :: run)).utf8ByteSize + line.utf8ByteSize
  · rw [packLines_of_full filled full]
    exact Nat.le_refl _
  · rw [packLines_of_room (by omega)]
    refine (length_packLines_le some ?_ nonempty).2
    rw [String.utf8ByteSize_append]
    omega

/-- No cut into runs that stay within the limit has fewer runs than there are buffers. -/
theorem length_chunkLines_le {runs : List (List String)}
    (within : ∀ run ∈ runs, StaysWithin limit run)
    (nonempty : ∀ line ∈ runs.flatten, line ≠ "") :
    (chunkLines runs.flatten limit).length ≤ runs.length := by
  induction runs with
  | nil => exact Nat.le_refl 0
  | cons run runs ih =>
    rw [List.flatten_cons] at nonempty ⊢
    have first := length_chunkLines_append_le (within run List.mem_cons_self) nonempty
    have others := ih (fun r mem => within r (List.mem_cons_of_mem run mem))
      fun line mem => nonempty line (List.mem_append_right run mem)
    rw [List.length_cons]
    omega

/-! ## Packing -/

/-- Packing keeps the lines, is bounded and takes the fewest buffers.  The buffers are the texts of
consecutive runs of the lines, less those that are empty, so they hold the lines in their order; and
a buffer that is longer than the limit is a single line.  If no line is empty, no cut of the lines
into runs in which two or more lines stay within the limit has fewer runs. -/
theorem chunkLines_packs (lines : List String) (limit : Nat) :
    let buffers := chunkLines lines limit
    String.join buffers = String.join lines ∧
      (∀ buffer ∈ buffers, buffer ≠ "") ∧
      (∃ runs : List (List String), runs.flatten = lines ∧
        buffers = (runs.map String.join).filter (· ≠ "") ∧
        ∀ run ∈ runs, limit < (String.join run).utf8ByteSize → String.join run ∈ run) ∧
      ((∀ line ∈ lines, line ≠ "") → ∀ runs : List (List String), runs.flatten = lines →
        (∀ run ∈ runs, 2 ≤ run.length → (String.join run).utf8ByteSize ≤ limit) →
        buffers.length ≤ runs.length) := by
  intro buffers
  have eq : buffers = ((packRuns limit [] lines).map String.join).filter (· ≠ "") :=
    packLines_eq limit [] lines
  have fits : RunFits limit [] := fun long => absurd long (Nat.not_lt_zero limit)
  refine ⟨join_packLines limit "" lines, fun buffer mem => ?_,
    ⟨packRuns limit [] lines, flatten_packRuns limit [] lines, eq, fits_packRuns fits lines⟩,
    fun nonempty runs cut within => ?_⟩
  · rw [eq] at mem
    exact of_decide_eq_true (List.mem_filter.mp mem).2
  · subst cut
    exact length_chunkLines_le within nonempty

/-- Three lines that are not empty, with a cut of them into two runs that stay within seven bytes:
two buffers are enough. -/
theorem chunkLines_packs_three :
    let lines := ["abc\n", "d\n", "efgh\n"]
    (∀ line ∈ lines, line ≠ "") ∧ [["abc\n"], ["d\n", "efgh\n"]].flatten = lines ∧
      (∀ run ∈ [["abc\n"], ["d\n", "efgh\n"]], 2 ≤ run.length →
        (String.join run).utf8ByteSize ≤ 7) ∧
      (chunkLines lines 7).length ≤ 2 := by
  have nonempty : ∀ line ∈ ["abc\n", "d\n", "efgh\n"], line ≠ "" := by decide
  have within : ∀ run ∈ [["abc\n"], ["d\n", "efgh\n"]], 2 ≤ run.length →
      (String.join run).utf8ByteSize ≤ 7 := by decide
  obtain ⟨-, -, -, fewest⟩ := chunkLines_packs ["abc\n", "d\n", "efgh\n"] 7
  exact ⟨nonempty, rfl, within, fewest nonempty [["abc\n"], ["d\n", "efgh\n"]] rfl within⟩

end MetricPath
