import MetricPath.Proofs.TranslatorRuns

/-!
# Batches of samples

A batch writes its samples as they would be written one after the other (`datapointsEach`): it
leaves the same translator behind, and its buffers are the lines of the samples that do not fail,
cut somewhere.  Each failure is counted once, under its kind: a sample that cannot be written makes
no request for paths at all, so it is never counted among those whose request fails.

What a sample leaves behind matters to the samples after it only through the cache.  Without one the
lines are given sample by sample (`batchLines_of_uncached`), and samples that fail might as well not
be there.
-/

namespace MetricPath

/-! ## Buffers -/

/-- Packing loses nothing and moves nothing. -/
theorem join_packLines (limit : Nat) (buffer : String) (lines : List String) :
    String.join (packLines limit buffer lines) = buffer ++ String.join lines := by
  induction lines generalizing buffer with
  | nil =>
    rw [packLines, String.join_nil, String.append_empty]
    split
    · rename_i empty
      rw [empty, String.join_nil]
    · rw [String.join_cons, String.join_nil, String.append_empty]
  | cons line lines ih =>
    rw [packLines, String.join_cons]
    split
    · rw [String.join_cons, ih]
    · rw [ih, String.append_assoc]

/-- The buffers of lines hold the lines, with or without a limit. -/
theorem join_buffers (limit? : Option Nat) (lines : List String) :
    String.join (Translator.buffers limit? lines) = String.join lines := by
  cases limit? with
  | some limit => exact (join_packLines limit "" lines).trans String.empty_append
  | none =>
    cases lines with
    | nil => rfl
    | cons line lines =>
      show String.join [String.join (line :: lines)] = _
      rw [String.join_cons, String.join_nil, String.append_empty]

namespace Translator

/-! ## One sample after the other -/

/-- The answers for samples that are written one after the other, and the translator after them. -/
def datapointsEach (t : Translator) (beginning? : Option String) :
    List Sample → List (Except PathError (List String)) × Translator
  | [] => ([], t)
  | s :: samples =>
    let (answer, t) := t.datapoints s beginning?
    let (answers, t) := t.datapointsEach beginning? samples
    (answer :: answers, t)

/-- The lines of an answer; a failure has none. -/
def answerLines (answer : Except PathError (List String)) : List String := answer.toOption.getD []

/-- The samples of a batch that it does not skip. -/
def unskipped (t : Translator) (beginning? : Option String) : List Sample → List Sample
  | [] => []
  | s :: samples =>
    let (answer, t) := t.datapoints s beginning?
    let more := t.unskipped beginning? samples
    if answer.toBool then s :: more else more

/-- The lines of a batch are those of the answers, sample by sample. -/
theorem batchLines_eq (t : Translator) (beginning? : Option String) (samples : List Sample) :
    t.batchLines beginning? samples =
      ((t.datapointsEach beginning? samples).1.flatMap answerLines,
        (t.datapointsEach beginning? samples).2) := by
  induction samples generalizing t with
  | nil => rfl
  | cons s samples ih =>
    rw [batchLines, datapointsEach]
    dsimp only
    rw [ih, List.flatMap_cons]
    rcases t.datapoints s beginning? with ⟨_ | _, after⟩ <;> rfl

/-! ## Counters -/

/-- A request for paths does not touch the counters of skipped samples. -/
theorem counters_paths (t : Translator) (m : LabelSet) (beginning? : Option String) :
    (t.paths m beginning?).2.ignored = t.ignored ∧
      (t.paths m beginning?).2.failures = t.failures := by
  obtain ⟨cache?, activity, after, -⟩ := t.paths_snd m beginning?
  rw [after]
  exact ⟨rfl, rfl⟩

/-- A sample is counted as ignored if it cannot be written, and as failed if its request fails. -/
theorem counters_datapoints (t : Translator) (s : Sample) (beginning? : Option String) :
    (t.datapoints s beginning?).2.ignored = t.ignored + (if !s.isWritable then 1 else 0) ∧
      (t.datapoints s beginning?).2.failures =
        t.failures + (t.sampleRequests s beginning?).countP fun r => !r.answer.toBool := by
  rw [datapoints, sampleRequests]
  by_cases writable : s.isWritable
  · have counters := t.counters_paths s.labels beginning?
    rw [if_neg (by simpa using writable), if_neg (by simpa using writable), if_pos writable,
      List.countP_singleton, PathRequest.answer]
    dsimp only
    generalize t.paths s.labels beginning? = answered at counters
    rcases answered with ⟨_ | _, after⟩
    · exact ⟨counters.1, congrArg (· + 1) counters.2⟩
    · exact counters
  · -- no request is made, so none can fail
    rw [if_pos (by simpa using writable), if_pos (by simpa using writable), if_neg writable]
    exact ⟨rfl, rfl⟩

/-- The samples of a batch are counted one by one. -/
theorem counters_datapointsEach (t : Translator) (beginning? : Option String)
    (samples : List Sample) :
    (t.datapointsEach beginning? samples).2.ignored =
        t.ignored + samples.countP (fun s => !s.isWritable) ∧
      (t.datapointsEach beginning? samples).2.failures =
        t.failures + (t.batchRequests beginning? samples).countP fun r => !r.answer.toBool := by
  induction samples generalizing t with
  | nil => exact ⟨rfl, rfl⟩
  | cons s samples ih =>
    obtain ⟨ignored, failures⟩ := t.counters_datapoints s beginning?
    obtain ⟨moreIgnored, moreFailures⟩ := ih (t.datapoints s beginning?).2
    rw [datapointsEach, batchRequests, List.countP_cons, List.countP_append]
    dsimp only
    rw [moreIgnored, ignored, moreFailures, failures]
    omega

/-! ## Without a cache -/

section Uncached

variable {t t' : Translator} (beginning? : Option String)

/-- Without a cache a sample leaves the configuration, and there still is no cache. -/
theorem datapoints_of_uncached (h : t.cache? = none) (s : Sample) :
    (t.datapoints s beginning?).2.cache? = none ∧
      (t.datapoints s beginning?).2.config = t.config := by
  rw [datapoints]
  split
  · exact ⟨h, rfl⟩
  · have kept : (t.generate s.labels beginning?).2.cache? = none ∧
        (t.generate s.labels beginning?).2.config = t.config := ⟨h, rfl⟩
    rw [paths_of_uncached h]
    generalize t.generate s.labels beginning? = generated at kept
    rcases generated with ⟨_ | _, after⟩ <;> exact kept

/-- Without a cache the answer for a sample depends on the configuration alone. -/
theorem datapoints_fst_of_uncached (h : t.cache? = none) (h' : t'.cache? = none)
    (config : t.config = t'.config) (s : Sample) :
    (t.datapoints s beginning?).1 = (t'.datapoints s beginning?).1 := by
  by_cases writable : s.isWritable
  · have answer (t : Translator) (h : t.cache? = none) :
        PathRequest.answer ⟨s.labels, beginning?, t⟩ =
          t.config.meaning (beginning?.getD t.config.beginning) s.labels := by
      rw [PathRequest.answer, paths_of_uncached h]
      exact t.generate_fst s.labels beginning?
    rw [(t.datapoints_of_isWritable writable beginning?).1, answer t h,
      (t'.datapoints_of_isWritable writable beginning?).1, answer t' h', config]
  · rw [datapoints, if_pos (by simpa using writable), datapoints,
      if_pos (by simpa using writable)]

/-- Without a cache the answers do not depend on the samples before. -/
theorem datapointsEach_of_uncached (h : t.cache? = none) (samples : List Sample) :
    (t.datapointsEach beginning? samples).1 =
      samples.map fun s => (t.datapoints s beginning?).1 := by
  suffices answers : ∀ t' : Translator, t'.cache? = none → t.config = t'.config →
      (t'.datapointsEach beginning? samples).1 =
        samples.map fun s => (t.datapoints s beginning?).1 from answers t h rfl
  intro t' h' config
  induction samples generalizing t' with
  | nil => rfl
  | cons s samples ih =>
    obtain ⟨uncached, kept⟩ := datapoints_of_uncached beginning? h' s
    rw [datapointsEach, List.map_cons]
    dsimp only
    rw [ih _ uncached (config.trans kept.symm),
      datapoints_fst_of_uncached beginning? h h' config s]

/-- Without a cache a sample is skipped or not whatever stands before it. -/
theorem unskipped_of_uncached (h : t.cache? = none) (samples : List Sample) :
    t.unskipped beginning? samples =
      samples.filter fun s => (t.datapoints s beginning?).1.toBool := by
  suffices kept : ∀ t' : Translator, t'.cache? = none → t.config = t'.config →
      t'.unskipped beginning? samples =
        samples.filter fun s => (t.datapoints s beginning?).1.toBool from kept t h rfl
  intro t' h' config
  induction samples generalizing t' with
  | nil => rfl
  | cons s samples ih =>
    obtain ⟨uncached, kept⟩ := datapoints_of_uncached beginning? h' s
    rw [unskipped, List.filter_cons]
    dsimp only
    rw [ih _ uncached (config.trans kept.symm),
      datapoints_fst_of_uncached beginning? h h' config s]

/-- Without a cache the lines of a batch are those of each of its samples. -/
theorem batchLines_of_uncached (h : t.cache? = none) (samples : List Sample) :
    (t.batchLines beginning? samples).1 =
      samples.flatMap fun s => answerLines (t.datapoints s beginning?).1 := by
  rw [batchLines_eq, datapointsEach_of_uncached beginning? h, List.flatMap_map]

/-- Without a cache the skipped samples may be left out of a batch. -/
theorem batchLines_unskipped (h : t.cache? = none) (samples : List Sample) :
    (t.batchLines beginning? (t.unskipped beginning? samples)).1 =
      (t.batchLines beginning? samples).1 := by
  rw [batchLines_of_uncached beginning? h, batchLines_of_uncached beginning? h,
    unskipped_of_uncached beginning? h]
  induction samples with
  | nil => rfl
  | cons s samples ih =>
    rw [List.flatMap_cons, ← ih]
    cases answer : (t.datapoints s beginning?).1 with
    | ok lines =>
      rw [List.filter_cons_of_pos (by rw [answer]; rfl), List.flatMap_cons, answer]
    | error e =>
      rw [List.filter_cons_of_neg (by rw [answer]; exact Bool.false_ne_true)]
      rfl

end Uncached

/-! ## The batch -/

/-- A batch is its samples one after the other: it leaves the same translator, with the same cache
and the same counters, and its buffers hold the lines of the samples that do not fail, in their
order.  It counts the samples that cannot be written and those whose request for paths fails.
Without a cache its buffers are those of the samples that it does not skip. -/
theorem encodeBatch_eq_datapointsEach (t : Translator) (samples : List Sample)
    (beginning? : Option String) (limit? : Option Nat) :
    let batch := t.encodeBatch samples beginning? limit?
    let each := t.datapointsEach beginning? samples
    let uncached := { t with cache? := none }
    batch.2 = each.2 ∧
      String.join batch.1 = String.join (each.1.flatMap answerLines) ∧
      batch.2.ignored = t.ignored + samples.countP (fun s => !s.isWritable) ∧
      batch.2.failures =
        t.failures + (t.batchRequests beginning? samples).countP (fun r => !r.answer.toBool) ∧
      (uncached.encodeBatch (uncached.unskipped beginning? samples) beginning? limit?).1 =
        (uncached.encodeBatch samples beginning? limit?).1 := by
  intro batch each uncached
  have same : batch.2 = each.2 := congrArg Prod.snd (t.batchLines_eq beginning? samples)
  have lines : batch.1 = buffers limit? (each.1.flatMap answerLines) := by
    show buffers limit? (t.batchLines beginning? samples).1 = _
    rw [batchLines_eq]
  obtain ⟨ignored, failures⟩ := t.counters_datapointsEach beginning? samples
  refine ⟨same, ?_, ?_, ?_, ?_⟩
  · rw [lines, join_buffers]
  · rw [same, ignored]
  · rw [same, failures]
  · exact congrArg (buffers limit?)
      (batchLines_unskipped beginning? (t := uncached) rfl samples)

end Translator

end MetricPath
