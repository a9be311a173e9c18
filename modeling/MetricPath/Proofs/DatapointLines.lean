import MetricPath.Proofs.Batches
import MetricPath.Proofs.Escape
import MetricPath.Proofs.Split

/-!
# Lines of default paths

A line of a datapoint has three fields with a space between neighbours, and a newline ends it.  So
nothing but the path could bring a fourth field or a second line into it.

Escaped texts have neither spaces nor newlines, so a default path has some only if its beginning
does, or if its format carries the names of labels as they are and one of these does
(`isField_defaultPath`).  A batch that is answered with default paths can then be taken apart at its
newlines and spaces, and gives back the fields of its samples (`defaultPath_keeps_lines`).
-/

namespace MetricPath

/-! ## Fields -/

/-- Whether a character can stand in a field of a line. -/
def isFieldChar (c : Char) : Bool := c ≠ ' ' && c ≠ '\n'

/-- Whether a text can be a field of a line. -/
def IsField (cs : List Char) : Prop := ∀ c ∈ cs, isFieldChar c = true

instance (cs : List Char) : Decidable (IsField cs) :=
  decidable_of_iff (cs.all isFieldChar = true) List.all_eq_true

theorem isField_append {cs ds : List Char} : IsField (cs ++ ds) ↔ IsField cs ∧ IsField ds :=
  List.forall_mem_append

theorem isField_cons {c : Char} {cs : List Char} :
    IsField (c :: cs) ↔ isFieldChar c = true ∧ IsField cs :=
  List.forall_mem_cons

theorem isField_nil : IsField [] := fun _ h => absurd h List.not_mem_nil

theorem isField_flatMap {α : Type} {xs : List α} {f : α → List Char}
    (h : ∀ x ∈ xs, IsField (f x)) : IsField (xs.flatMap f) := by
  intro c mem
  obtain ⟨x, among, stands⟩ := List.mem_flatMap.mp mem
  exact h x among c stands

/-- The characters of a class without the space and the newline can stand in a field. -/
theorem isFieldChar_of {p : Char → Bool} (space : p ' ' = false) (newline : p '\n' = false)
    {c : Char} (h : p c = true) : isFieldChar c = true := by
  have noSpace : c ≠ ' ' := by
    rintro rfl
    rw [space] at h
    cases h
  have noNewline : c ≠ '\n' := by
    rintro rfl
    rw [newline] at h
    cases h
  rw [isFieldChar, decide_eq_true noSpace, decide_eq_true noNewline]
  rfl

theorem IsField.space_notMem {cs : List Char} (h : IsField cs) : ' ' ∉ cs :=
  fun mem => absurd (h ' ' mem) (by decide)

theorem IsField.newline_notMem {cs : List Char} (h : IsField cs) : '\n' ∉ cs :=
  fun mem => absurd (h '\n' mem) (by decide)

theorem isField_join {sep : List Char} {pieces : List (List Char)} (hs : IsField sep)
    (h : ∀ piece ∈ pieces, IsField piece) : IsField (Text.join sep pieces) := by
  induction pieces with
  | nil => exact isField_nil
  | cons piece pieces ih =>
    obtain ⟨first, others⟩ := List.forall_mem_cons.mp h
    cases pieces with
    | nil => exact first
    | cons next pieces =>
      exact isField_append.mpr ⟨isField_append.mpr ⟨first, hs⟩, ih others⟩

/-! ## Numbers -/

theorem isField_natText (n : Nat) : IsField (Decimal.natText n) := by
  intro c mem
  have digit := Nat.isDigit_of_mem_toDigits (by decide) (by decide) mem
  exact isFieldChar_of (p := Char.isDigit) (by decide) (by decide) digit

/-- The text of a number has neither spaces nor newlines. -/
theorem isField_fixed (places : Nat) (x : Binary64) : IsField (Decimal.fixed places x) := by
  have zeros (n : Nat) : IsField (Decimal.zeros n) := by
    intro c mem
    rw [List.eq_of_mem_replicate mem]
    decide
  unfold Decimal.fixed
  dsimp only
  split_ifs <;> simp only [isField_cons, isField_append, isField_natText, zeros, isField_nil,
    and_self, and_true] <;> decide

/-! ## Default paths -/

theorem isField_escapeChars (cs : List Char) : IsField (Escape.escapeChars cs) := fun _ mem =>
  isFieldChar_of (p := Escape.isPlain) (by decide) (by decide)
    (Escape.isPlain_of_mem_escapeChars mem)

/-- The names of the labels can stand in a field, or need not because the format escapes them. -/
def PathFormat.NamesAreFields (format : PathFormat) (m : LabelSet) : Prop :=
  format = .dotted ∨ ∀ p ∈ m.pairs, IsField p.1.toList

/-- Labels are fields in every format that escapes their names or has names that are fields. -/
theorem isField_labelText {format : PathFormat} {m : LabelSet} (h : format.NamesAreFields m) :
    IsField (format.labelText m.pathLabels) := by
  have names (other : format ≠ .dotted) : ∀ p ∈ m.pathLabels, IsField p.1.toList := by
    intro p mem
    exact h.resolve_left other p (List.mem_of_mem_filter (List.mem_of_mem_filter mem))
  cases format with
  | dotted =>
    refine isField_flatMap fun p _ => ?_
    simp only [PathFormat.nodes, isField_cons, isField_append, isField_escapeChars, and_true]
    decide
  | tagged =>
    refine isField_flatMap fun p mem => ?_
    have name := names (by decide) p mem
    simp only [PathFormat.tag, isField_cons, isField_append, isField_escapeChars, name, and_true,
      true_and]
    decide
  | braced =>
    have assignment : ∀ piece ∈ m.pathLabels.map PathFormat.assignment, IsField piece := by
      rw [List.forall_mem_map]
      intro p mem
      have name := names (by decide) p mem
      simp only [PathFormat.assignment, isField_cons, isField_append, isField_escapeChars, name,
        isField_nil, and_true, true_and]
      decide
    have comma : IsField [','] := by
      simp only [isField_cons, isField_nil, and_true]
      decide
    rw [PathFormat.labelText]
    split
    · exact isField_nil
    · simp only [isField_cons, isField_append, isField_join comma assignment, isField_nil, and_true,
        true_and]
      decide

/-- A default path can be a field of a line. -/
theorem isField_defaultPath {format : PathFormat} {m : LabelSet} {beginning : String}
    (hb : IsField beginning.toList) (hn : format.NamesAreFields m) :
    IsField (m.defaultPath format beginning).toList := by
  rw [LabelSet.defaultPath, String.toList_ofList, LabelSet.pathChars]
  exact isField_append.mpr
    ⟨isField_append.mpr ⟨hb, isField_escapeChars _⟩, isField_labelText hn⟩

/-! ## Lines -/

/-- The value and the time of a datapoint as its line has them. -/
def datapointNumbers (value : Binary64) (timestamp : Int) : List (List Char) :=
  [Decimal.fixed 6 value, Decimal.fixed 0 (Binary64.ofInt timestamp / Binary64.ofInt 1000)]

theorem isField_datapointNumbers (value : Binary64) (timestamp : Int) :
    ∀ field ∈ datapointNumbers value timestamp, IsField field := by
  simp only [datapointNumbers, List.forall_mem_cons, isField_fixed, true_and]
  exact List.forall_mem_nil _

/-- A line without its newline is the path and the numbers, each of these after a space. -/
def datapointBody (path : String) (value : Binary64) (timestamp : Int) : List Char :=
  path.toList ++ (datapointNumbers value timestamp).flatMap (' ' :: ·)

theorem toList_datapointLine (path : String) (value : Binary64) (timestamp : Int) :
    (datapointLine path value timestamp).toList =
      datapointBody path value timestamp ++ ['\n'] := by
  simp [datapointLine, datapointBody, datapointNumbers]

section Line

variable {path : String} (h : IsField path.toList) (value : Binary64) (timestamp : Int)
include h

/-- Cutting a line at its spaces gives back its fields. -/
theorem splitChar_datapointBody :
    Text.splitChar ' ' (datapointBody path value timestamp) =
      path.toList :: datapointNumbers value timestamp :=
  Text.splitChar_pieces h.space_notMem fun field mem =>
    (isField_datapointNumbers value timestamp field mem).space_notMem

/-- There are as many spaces as numbers. -/
theorem count_space_datapointBody : (datapointBody path value timestamp).count ' ' = 2 := by
  have pieces := Text.length_splitChar ' ' (datapointBody path value timestamp)
  rw [splitChar_datapointBody h] at pieces
  exact (Nat.succ.inj pieces).symm

theorem newline_notMem_datapointBody : '\n' ∉ datapointBody path value timestamp := by
  intro mem
  rcases List.mem_append.mp mem with inPath | inNumbers
  · exact h.newline_notMem inPath
  · obtain ⟨field, among, stands⟩ := List.mem_flatMap.mp inNumbers
    rcases List.mem_cons.mp stands with space | inField
    · cases space
    · exact (isField_datapointNumbers value timestamp field among).newline_notMem inField

end Line

/-- Cutting lines at their newlines gives them back, and nothing after the last newline. -/
theorem splitChar_lines {bodies : List (List Char)} (h : ∀ body ∈ bodies, '\n' ∉ body) :
    Text.splitChar '\n' (bodies.flatMap (· ++ ['\n'])) = bodies ++ [[]] := by
  induction bodies with
  | nil => rfl
  | cons body bodies ih =>
    obtain ⟨first, others⟩ := List.forall_mem_cons.mp h
    rw [List.flatMap_cons, List.append_assoc, List.singleton_append, Text.splitChar_append first,
      ih others, List.cons_append]

/-! ## Batches -/

/-- Without rules the configuration means the default path. -/
theorem PathConfig.meaning_of_no_rules {c : PathConfig} (h : c.rules = []) (beginning : String)
    (m : LabelSet) : c.meaning beginning m = .ok [m.defaultPath c.format beginning] := by
  have none : c.counting m = [] := by
    rw [counting, h]
    rfl
  rw [meaning, none, h]
  rfl

namespace Translator

variable {t : Translator} {m : LabelSet} {beginning? : Option String} {beginning : String}

/-- The paths remembered under the fingerprint of a label set. -/
def remembered? (t : Translator) (m : LabelSet) : Option (List String) :=
  t.cache?.bind fun c => c.find? m.fingerprint

/-- Samples are answered with their default paths and nothing else: there are no rules, whatever is
remembered for a sample is its default path, and samples that share a fingerprint in a cache share
their labels. -/
structure AnswersDefaults (t : Translator) (beginning : String) (samples : List Sample) : Prop where
  rules : t.config.rules = []
  remembered : ∀ s ∈ samples, ∀ paths ∈ t.remembered? s.labels,
    paths = [s.labels.defaultPath t.config.format beginning]
  distinct : t.cache?.isSome → ∀ s ∈ samples, ∀ s' ∈ samples,
    s.labels.fingerprint = s'.labels.fingerprint → s.labels = s'.labels

/-- Nothing is remembered in an empty cache, so without rules the samples are answered with their
default paths. -/
theorem AnswersDefaults.of_empty {samples : List Sample} (rules : t.config.rules = [])
    (empty : ∀ c ∈ t.cache?, c.entries = [])
    (distinct : t.cache?.isSome → ∀ s ∈ samples, ∀ s' ∈ samples,
      s.labels.fingerprint = s'.labels.fingerprint → s.labels = s'.labels) :
    t.AnswersDefaults beginning samples := by
  refine ⟨rules, fun s _ paths found => ?_, distinct⟩
  obtain ⟨c, cached, stored⟩ := Option.bind_eq_some_iff.mp found
  rw [PathCache.find?_eq, PathCache.live?, PathCache.liveAt?, empty c cached] at stored
  cases stored

/-- Without a cache nothing but the absence of rules is asked for. -/
theorem answersDefaults_iff_of_uncached {samples : List Sample} (uncached : t.cache? = none) :
    t.AnswersDefaults beginning samples ↔ t.config.rules = [] := by
  refine ⟨fun h => h.rules, fun rules => .of_empty rules (fun c cached => ?_) fun cached => ?_⟩
  · rw [uncached] at cached
    cases cached
  · rw [uncached] at cached
    cases cached

/-- A request without rules is answered with the default path, if nothing else is remembered.  It
keeps the configuration, and afterwards nothing but that path has been added to what is
remembered. -/
theorem paths_of_no_rules (rules : t.config.rules = [])
    (asked : beginning?.getD t.config.beginning = beginning)
    (remembered : ∀ paths ∈ t.remembered? m, paths = [m.defaultPath t.config.format beginning]) :
    (t.paths m beginning?).1 = .ok [m.defaultPath t.config.format beginning] ∧
      (t.paths m beginning?).2.config = t.config ∧
      (t.paths m beginning?).2.cache?.isSome = t.cache?.isSome ∧
      ∀ m' : LabelSet, ∀ paths ∈ (t.paths m beginning?).2.remembered? m',
        paths ∈ t.remembered? m' ∨
          t.cache?.isSome ∧ m'.fingerprint = m.fingerprint ∧
            paths = [m.defaultPath t.config.format beginning] := by
  have generated : (t.generate m beginning?).1 =
      .ok [m.defaultPath t.config.format beginning] := by
    rw [generate_fst, asked, PathConfig.meaning_of_no_rules rules]
  cases cached : t.cache? with
  | none =>
    rw [paths_of_uncached cached]
    refine ⟨generated, rfl, ?_, fun m' paths found => .inl found⟩
    show t.cache?.isSome = _
    rw [cached]
  | some c =>
    cases found : c.find? m.fingerprint with
    | some paths =>
      have known : paths ∈ t.remembered? m := by
        rw [remembered?, cached]
        exact found
      rw [paths_of_found cached found, remembered paths known]
      refine ⟨rfl, rfl, rfl, fun m' paths found => .inl ?_⟩
      rw [remembered?, cached]
      exact found
    | none =>
      rw [paths_of_not_found cached found, generated]
      refine ⟨rfl, rfl, rfl, fun m' paths found => ?_⟩
      have stored : paths ∈ ({ c with misses := c.misses + 1 }.insert m.fingerprint
          [m.defaultPath t.config.format beginning]).find? m'.fingerprint := found
      rw [PathCache.find?_eq, PathCache.live?, PathCache.liveAt?, PathCache.insert,
        PathCache.lookup_set] at stored
      split_ifs at stored with same
      · obtain ⟨e, live, rfl⟩ := Option.map_eq_some_iff.mp stored
        obtain ⟨entry, -⟩ := Option.filter_eq_some_iff.mp live
        cases entry
        exact .inr ⟨rfl, same, rfl⟩
      · refine .inl ?_
        rw [remembered?, cached]
        show paths ∈ c.find? m'.fingerprint
        rw [PathCache.find?_eq]
        exact stored

/-- A sample that can be written is answered with the line of its default path and any other with
none, and the samples after it are answered with their default paths still. -/
theorem AnswersDefaults.datapoints {s : Sample} {samples : List Sample}
    (h : t.AnswersDefaults beginning (s :: samples))
    (asked : beginning?.getD t.config.beginning = beginning) :
    answerLines (t.datapoints s beginning?).1 =
        (if s.isWritable then
          [datapointLine (s.labels.defaultPath t.config.format beginning) s.value s.timestamp]
        else []) ∧
      (t.datapoints s beginning?).2.config = t.config ∧
      (t.datapoints s beginning?).2.AnswersDefaults beginning samples := by
  have others : t.AnswersDefaults beginning samples :=
    ⟨h.rules, fun s' mem => h.remembered s' (List.mem_cons_of_mem _ mem),
      fun cached s' mem s'' mem' =>
        h.distinct cached s' (List.mem_cons_of_mem _ mem) s'' (List.mem_cons_of_mem _ mem')⟩
  by_cases writable : s.isWritable
  · obtain ⟨answer, config, cached, remembered⟩ :=
      paths_of_no_rules h.rules asked (h.remembered s List.mem_cons_self)
    have ignored : ¬(!s.isWritable) = true := by simpa using writable
    rw [Translator.datapoints, if_neg ignored, if_pos writable]
    generalize t.paths s.labels beginning? = answered at answer config cached remembered
    obtain ⟨paths, after⟩ := answered
    dsimp only at answer config cached remembered
    subst answer
    refine ⟨?_, config, ⟨config ▸ h.rules, fun s' mem paths found => ?_, fun cached' => ?_⟩⟩
    · show answerLines (s.datapoints [_]) = _
      rw [Sample.datapoints, if_pos writable]
      rfl
    · rw [config]
      rcases remembered s'.labels paths found with before | ⟨isCached, same, rfl⟩
      · exact others.remembered s' mem paths before
      · rw [h.distinct isCached s' (List.mem_cons_of_mem _ mem) s List.mem_cons_self same]
    · exact others.distinct (cached ▸ cached')
  · rw [Translator.datapoints, if_pos (by simpa using writable), if_neg writable]
    exact ⟨rfl, rfl, ⟨h.rules, others.remembered, others.distinct⟩⟩

/-- A batch has one line for each sample that can be written. -/
theorem AnswersDefaults.batchLines {samples : List Sample}
    (h : t.AnswersDefaults beginning samples)
    (asked : beginning?.getD t.config.beginning = beginning) :
    (t.batchLines beginning? samples).1 = (samples.filter (·.isWritable)).map fun s =>
      datapointLine (s.labels.defaultPath t.config.format beginning) s.value s.timestamp := by
  rw [batchLines_eq]
  show (t.datapointsEach beginning? samples).1.flatMap answerLines = _
  induction samples generalizing t with
  | nil => rfl
  | cons s samples ih =>
    obtain ⟨answer, config, others⟩ := h.datapoints asked
    have rest := ih others (config ▸ asked)
    rw [datapointsEach, List.flatMap_cons, answer, rest, config]
    by_cases writable : s.isWritable
    · rw [if_pos writable, List.filter_cons_of_pos writable, List.map_cons, List.singleton_append]
    · rw [if_neg writable, List.filter_cons_of_neg writable, List.nil_append]

end Translator

/-- Default paths keep the lines of the protocol.  If the beginning has neither spaces nor newlines,
and the names of the labels have none where the format carries them as they are, then the line of a
default path has one newline, at its end, and two spaces.  So a batch that is answered with default
paths, cut at its newlines and each line at its spaces, gives back exactly the fields of the samples
that can be written: the default path, the value and the time. -/
theorem defaultPath_keeps_lines (format : PathFormat) (beginning : String)
    (hb : IsField beginning.toList) :
    (∀ (m : LabelSet) (value : Binary64) (timestamp : Int), format.NamesAreFields m →
      let line := (datapointLine (m.defaultPath format beginning) value timestamp).toList
      line.count '\n' = 1 ∧ line.getLast? = some '\n' ∧ line.count ' ' = 2) ∧
      ∀ (t : Translator) (samples : List Sample) (beginning? : Option String) (limit? : Option Nat),
        t.config.format = format → beginning?.getD t.config.beginning = beginning →
        t.AnswersDefaults beginning samples → (∀ s ∈ samples, format.NamesAreFields s.labels) →
          (Text.splitChar '\n' (String.join (t.encodeBatch samples beginning? limit?).1).toList).map
              (Text.splitChar ' ') =
            (samples.filter (·.isWritable)).map (fun s =>
              (s.labels.defaultPath format beginning).toList ::
                datapointNumbers s.value s.timestamp) ++ [[[]]] := by
  constructor
  · intro m value timestamp names line
    have field := isField_defaultPath hb names
    have text : line = _ := toList_datapointLine (m.defaultPath format beginning) value timestamp
    rw [text, List.count_append, List.count_append,
      List.count_eq_zero.mpr (newline_notMem_datapointBody field value timestamp),
      count_space_datapointBody field]
    exact ⟨rfl, List.getLast?_concat, rfl⟩
  · intro t samples beginning? limit? hformat asked defaults names
    subst hformat
    let path (s : Sample) : String := s.labels.defaultPath t.config.format beginning
    have field (s : Sample) (mem : s ∈ samples.filter (·.isWritable)) : IsField (path s).toList :=
      isField_defaultPath hb (names s (List.mem_of_mem_filter mem))
    have output : (String.join (t.encodeBatch samples beginning? limit?).1).toList =
        ((samples.filter (·.isWritable)).map fun s =>
          datapointBody (path s) s.value s.timestamp).flatMap (· ++ ['\n']) := by
      show (String.join (Translator.buffers limit? (t.batchLines beginning? samples).1)).toList = _
      rw [join_buffers, defaults.batchLines asked, String.toList_join, List.flatMap_map,
        List.flatMap_map]
      simp only [toList_datapointLine, path]
    have closed : ∀ body ∈ (samples.filter (·.isWritable)).map fun s =>
        datapointBody (path s) s.value s.timestamp, '\n' ∉ body := by
      rw [List.forall_mem_map]
      exact fun s mem => newline_notMem_datapointBody (field s mem) s.value s.timestamp
    have fields : ∀ s ∈ samples.filter (·.isWritable),
        Text.splitChar ' ' (datapointBody (path s) s.value s.timestamp) =
          (path s).toList :: datapointNumbers s.value s.timestamp :=
      fun s mem => splitChar_datapointBody (field s mem) s.value s.timestamp
    rw [output, splitChar_lines closed, List.map_append, List.map_map, Function.comp_def,
      List.map_congr_left fields, List.map_singleton, Text.splitChar]

/-- A value that looks like a line of its own stays within the path. -/
theorem defaultPath_keeps_lines_hostile :
    let m := (LabelSet.named "up").insert "host" "a 1 1\nb"
    let samples : List Sample := [⟨m, .zero, 1500⟩, ⟨m, .nan, 1500⟩, ⟨m, .zero, 2500⟩]
    let t := Translator.new { format := .tagged, beginning := "p." } (some (.new 60 120))
    (Text.splitChar '\n' (String.join (t.encodeBatch samples none (some 9)).1).toList).map
        (Text.splitChar ' ') =
      [["p.up;host=a%201%201%0Ab".toList, "0.000000".toList, "2".toList],
        ["p.up;host=a%201%201%0Ab".toList, "0.000000".toList, "2".toList], [[]]] := by
  intro m samples t
  have beginning : IsField "p.".toList := by decide
  have names : PathFormat.tagged.NamesAreFields m := .inr (by decide)
  have labels : ∀ s ∈ samples, s.labels = m := by simp [samples]
  have defaults : t.AnswersDefaults "p." samples := by
    refine .of_empty rfl (fun c cached => ?_) fun _ s mem s' mem' _ => ?_
    · cases cached
      rfl
    · rw [labels s mem, labels s' mem']
  have fields := (defaultPath_keeps_lines .tagged "p." beginning).2 t samples none (some 9) rfl rfl
    defaults fun s mem => labels s mem ▸ names
  refine fields.trans ?_
  have path : (m.defaultPath .tagged "p.").toList = "p.up;host=a%201%201%0Ab".toList := by decide
  have written : samples.filter (·.isWritable) = [⟨m, .zero, 1500⟩, ⟨m, .zero, 2500⟩] := by decide
  have first : datapointNumbers .zero 1500 = ["0.000000".toList, "2".toList] := by decide +kernel
  have second : datapointNumbers .zero 2500 = ["0.000000".toList, "2".toList] := by decide +kernel
  rw [written, List.map_cons, List.map_cons, List.map_nil, path, first, second]
  rfl

end MetricPath
