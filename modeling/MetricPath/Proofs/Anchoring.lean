import Mathlib.Data.List.Forall2
import MetricPath.Matcher
import MetricPath.Proofs.PatternMatching
import MetricPath.Proofs.PatternScanning
import MetricPath.Rule

/-!
# Anchored patterns

An anchored pattern is made as a text, from the text of a pattern with `^(?:` before it and `)$`
behind it.  Reading it, the reader does inside a group what it does with the pattern alone
(`Reader.step_within`), up to the end of the pattern (`readAll_within`), and what it builds there is
the pattern's own expression between two anchors (`read_anchored`).

That fails for one kind of text only: one that closes a group which it has not opened, and so ends
the group that was made for it.  Alone it is no pattern, but the parts may go together again, and
then the anchors belong to some of its branches only.
-/

namespace MetricPath

namespace Pattern

variable {r r' : Reader} {b : Level} {c : Char} {cs cs' rest : List Char} {n : Nat}

/-! ## Inside a group -/

/-- The reader with one more level below those of its groups. -/
def Reader.within (r : Reader) (b : Level) : Reader := { r with outer := r.outer ++ [b] }

namespace Reader

theorem outer_within_ne_nil (r : Reader) (b : Level) : (r.within b).outer ≠ [] :=
  List.append_ne_nil_of_right_ne_nil _ (List.cons_ne_nil b [])

theorem leave_within (h : r.outer ≠ []) (b : Level) :
    (r.within b).leave = r.leave.map (·.within b) := by
  obtain ⟨flags, current, _ | ⟨level, outer⟩, groups, names⟩ := r
  · exact absurd rfl h
  · rfl

theorem enterNamed_within (r : Reader) (b : Level) (name : String) :
    (r.within b).enterNamed name = (r.enterNamed name).map (·.within b) := by
  rw [enterNamed, enterNamed]
  have same : (r.within b).names = r.names := rfl
  rw [same]
  split <;> rfl

theorem setFlags_within (r : Reader) (b : Level) (flags : Flags) (used : List Char) (colon : Bool) :
    (r.within b).setFlags flags used colon = (r.setFlags flags used colon).map (·.within b) := by
  rw [setFlags, setFlags]
  split_ifs <;> rfl

theorem openGroup_within (r : Reader) (b : Level) (cs : List Char) :
    (r.within b).openGroup cs = (r.openGroup cs).map fun p => (p.1.within b, p.2) := by
  rw [openGroup, openGroup]
  have same : (r.within b).flags = r.flags := rfl
  simp only [same]
  split_ifs
  · rfl
  · split
    · rcases readName _ with _ | ⟨name, rest⟩
      · rfl
      · show ((r.within b).enterNamed name >>= _) = Except.map _ (r.enterNamed name >>= _)
        rw [enterNamed_within]
        rcases r.enterNamed name <;> rfl
    · split
      · rcases readFlags r.flags [] false false _ with _ | ⟨⟨flags, used, colon⟩, rest⟩
        · rfl
        · show ((r.within b).setFlags flags used colon >>= _) =
            Except.map _ (r.setFlags flags used colon >>= _)
          rw [setFlags_within]
          rcases r.setFlags flags used colon <;> rfl
      · rfl

theorem rounds_within (r : Reader) (b : Level) (least : Nat) (most : Option Nat) (marked : Bool) :
    (r.within b).rounds least most marked = (r.rounds least most marked).map (·.within b) := by
  obtain ⟨flags, ⟨outside, number, branches, items⟩, outer, groups, names⟩ := r
  rcases items with _ | ⟨⟨_ | e, depth⟩, items⟩ <;> rfl

theorem repeated_within (r : Reader) (b : Level) (least : Nat) (most : Option Nat)
    (cs : List Char) :
    (r.within b).repeated least most cs =
      (r.repeated least most cs).map fun p => (p.1.within b, p.2) := by
  rw [repeated, repeated]
  rcases takeMark '?' cs with ⟨marked, rest⟩
  show ((r.within b).rounds least most marked >>= _) =
    Except.map _ (r.rounds least most marked >>= _)
  rw [rounds_within]
  rcases r.rounds least most marked <;> rfl

theorem pushAtom_within (r : Reader) (b : Level) (a : Atom) :
    (r.within b).pushAtom a = (r.pushAtom a).within b := by
  cases a <;> rfl

/-- A step in a group within a level does what it does without the level, unless it would end the
outermost group. -/
theorem step_within (h : c = ')' → r.outer ≠ []) (b : Level) (cs : List Char) :
    (r.within b).step c cs = (r.step c cs).map fun p => (p.1.within b, p.2) := by
  have flags : (r.within b).flags = r.flags := rfl
  have current : (r.within b).current = r.current := rfl
  unfold step
  split
  · exact openGroup_within r b cs
  · rw [leave_within (h rfl)]
    rcases r.leave <;> rfl
  · rfl
  · rw [flags]
    rcases readClass r.flags _ cs <;> rfl
  · exact repeated_within r b _ _ cs
  · exact repeated_within r b _ _ cs
  · exact repeated_within r b _ _ cs
  · rw [current]
    split
    · rw [flags]
      rcases readCount r.flags cs with _ | ⟨⟨least, most⟩, rest⟩
      · rfl
      · exact repeated_within r b least most _
    · rfl
  · rw [flags]
    rcases escape r.flags cs with _ | ⟨a, rest⟩
    · rfl
    · show Except.ok ((r.within b).pushAtom a, rest) = .ok ((r.pushAtom a).within b, rest)
      rw [pushAtom_within]
  · rw [flags]
    rcases dot r.flags <;> rfl
  · rfl
  · rfl
  · rfl

/-! ## The outermost group -/

/-- The flags outside the outermost group and its number. -/
def bottom (r : Reader) : Flags × Option Nat :=
  let l := r.outer.getLast?.getD r.current
  (l.outside, l.number)

theorem bottom_congr (outer : r'.outer = r.outer) (outside : r'.current.outside = r.current.outside)
    (number : r'.current.number = r.current.number) : r'.bottom = r.bottom := by
  rw [bottom, bottom, outer]
  rcases r.outer.getLast? with _ | l
  · exact Prod.ext outside number
  · rfl

theorem bottom_enter (r : Reader) (inside : Flags) (number : Option Nat) :
    (r.enter inside number).bottom = r.bottom := by
  rw [bottom, bottom, enter, List.getLast?_cons, Option.getD_some]

theorem bottom_leave (h : r.leave = .ok r') : r'.bottom = r.bottom := by
  obtain ⟨flags, current, _ | ⟨level, outer⟩, groups, names⟩ := r
  · cases h
  · cases h
    rw [bottom, bottom, push, List.getLast?_cons, Option.getD_some]
    rcases outer.getLast? <;> rfl

theorem bottom_bind {α : Type} {x : Except Fault α} {k : α → Except Fault (Reader × List Char)}
    (h : x >>= k = .ok (r', rest))
    (each : ∀ a, x = .ok a → k a = .ok (r', rest) → r'.bottom = r.bottom) :
    r'.bottom = r.bottom := by
  rcases x with e | a
  · cases h
  · exact each a rfl h

theorem bottom_enterNamed {name : String} (h : r.enterNamed name = .ok r') :
    r'.bottom = r.bottom := by
  rw [enterNamed] at h
  split at h
  · cases h
  · cases h
    exact bottom_enter r r.flags (some (r.groups + 1))

theorem bottom_setFlags {flags : Flags} {used : List Char} {colon : Bool}
    (h : r.setFlags flags used colon = .ok r') : r'.bottom = r.bottom := by
  rw [setFlags] at h
  split_ifs at h
  · cases h
    exact bottom_enter r flags none
  · cases h
    exact bottom_congr rfl rfl rfl

theorem bottom_openGroup (h : r.openGroup cs = .ok (r', rest)) : r'.bottom = r.bottom := by
  rw [openGroup] at h
  dsimp only at h
  split_ifs at h
  split at h
  · refine bottom_bind h fun name _ h => bottom_bind h fun s entered h => ?_
    cases h
    exact bottom_enterNamed entered
  · split at h
    · refine bottom_bind h fun flags _ h => bottom_bind h fun s set h => ?_
      cases h
      exact bottom_setFlags set
    · cases h
      exact bottom_enter r r.flags (some (r.groups + 1))

theorem bottom_repeated {least : Nat} {most : Option Nat}
    (h : r.repeated least most cs = .ok (r', rest)) : r'.bottom = r.bottom := by
  rw [repeated] at h
  refine bottom_bind h fun s rounds h => ?_
  cases h
  rw [Reader.rounds] at rounds
  split at rounds
  · cases rounds
    exact bottom_congr rfl rfl rfl
  · cases rounds

theorem bottom_pushAtom (r : Reader) (a : Atom) : (r.pushAtom a).bottom = r.bottom := by
  cases a <;> exact bottom_congr rfl rfl rfl

/-- No step leaves the outermost group. -/
theorem bottom_step (h : r.step c cs = .ok (r', rest)) : r'.bottom = r.bottom := by
  have push {α : Type} {x : Except Fault α} {e : α → Expr} {depth : Nat} {cs : α → List Char}
      (h : (do let a ← x; return (r.push (e a) depth, cs a)) = .ok (r', rest)) :
      r'.bottom = r.bottom := by
    refine bottom_bind h fun a _ h => ?_
    cases h
    exact bottom_congr rfl rfl rfl
  unfold step at h
  split at h
  · exact bottom_openGroup h
  · refine bottom_bind h fun s left h => ?_
    cases h
    exact bottom_leave left
  · cases h
    exact bottom_congr rfl rfl rfl
  · exact push h
  · exact bottom_repeated h
  · exact bottom_repeated h
  · exact bottom_repeated h
  · split at h
    · exact bottom_bind h fun count _ h => bottom_repeated h
    · cases h
  · refine bottom_bind h fun p _ h => ?_
    cases h
    exact bottom_pushAtom r p.1
  · exact push h
  · cases h
    exact bottom_congr rfl rfl rfl
  · cases h
    exact bottom_congr rfl rfl rfl
  · cases h
    exact bottom_congr rfl rfl rfl

/-! ## Whole runs -/

theorem readAll_nil (h : r.flags.skip cs = []) (n : Nat) : r.readAll n cs = .ok r := by
  rcases n with _ | n
  · rfl
  · rw [readAll, h]

theorem readAll_cons (h : r.flags.skip cs = c :: rest) (n : Nat) :
    r.readAll (n + 1) cs = r.step c rest >>= fun p => p.1.readAll n p.2 := by
  rw [readAll, h]

/-- A reader that is astray in a group does not come out of it any more. -/
theorem outer_ne_nil_of_lost (astray : lost r cs) (inside : r.outer ≠ [])
    (run : r.readAll n cs = .ok r') : r'.outer ≠ [] := by
  rcases n with _ | n
  · cases run
    exact inside
  · rcases astray with spent | ⟨more, rfl, skipped⟩
    · rcases skip_of_spent r.flags spent with dollar | none
      · rw [readAll_cons dollar] at run
        have run : (r.push (.assert (Pattern.dollar r.flags)) 0).readAll n [] = .ok r' := run
        rw [readAll_nil (skip_nil _)] at run
        cases run
        exact inside
      · rw [readAll_nil none] at run
        cases run
        exact inside
    · -- the brace begins no repetition, because there is no count before the ending
      have count : readCount r.flags more = .error .badCount := by
        rw [readCount, skipped]
        rfl
      rw [readAll_cons (skip_brace r.flags more)] at run
      unfold step at run
      simp only at run
      split at run
      · rw [count] at run
        cases run
      · cases run

/-- Reading a text within a level and the ending behind it comes out of the level only if reading
the text alone comes to its end outside of all groups, and then the ending is read from there; or if
the text closes a group that it has not opened. -/
theorem readAll_within {n n' : Nat} (b : Level) (h : Extended cs cs') (enough : cs.length < n)
    (enough' : cs'.length < n') (run : (r.within b).readAll n' cs' = .ok r')
    (out : r'.outer = []) :
    r.readAll n cs = .error .unopenedGroup ∨
      ∃ s m, r.readAll n cs = .ok s ∧ s.bottom = r.bottom ∧ 2 < m ∧
        (s.within b).readAll m [')', '$'] = .ok r' := by
  induction n' generalizing r n cs cs' with
  | zero => exact absurd enough' (Nat.not_lt_zero _)
  | succ n' ih =>
    obtain ⟨n, rfl⟩ := Nat.exists_eq_add_one_of_ne_zero (Nat.ne_zero_of_lt enough)
    have left := (Left.all h).skip r.flags
    have shorter := left.suffix.length_le
    have shorter' := left.suffix'.length_le
    rcases skipped : r.flags.skip cs with _ | ⟨c, ds⟩ <;> rw [skipped] at left shorter
    · rw [readAll_nil skipped]
      generalize skipped' : r.flags.skip cs' = ds' at left shorter'
      have skipped' : (r.within b).flags.skip cs' = ds' := skipped'
      rcases left.extended with _ | _
      · rw [readAll_nil skipped'] at run
        cases run
        exact absurd out (outer_within_ne_nil r b)
      · rw [List.length_cons, List.length_cons] at shorter'
        rw [readAll_cons skipped', ← readAll_cons (skip_ending _)] at run
        exact .inr ⟨r, n' + 1, rfl, rfl, by omega, run⟩
    · obtain ⟨ds', skipped', ext⟩ : ∃ ds', r.flags.skip cs' = c :: ds' ∧ Extended ds ds' := by
        generalize r.flags.skip cs' = ds' at left
        rcases left.extended with _ | _ | ⟨_, ext⟩
        exact ⟨_, rfl, ext⟩
      rw [skipped', List.length_cons] at shorter'
      rw [List.length_cons] at shorter
      have skipped' : (r.within b).flags.skip cs' = c :: ds' := skipped'
      rw [readAll_cons skipped'] at run
      rw [readAll_cons skipped]
      by_cases closes : c = ')' ∧ r.outer = []
      · obtain ⟨rfl, none⟩ := closes
        have unopened : r.step ')' ds = .error .unopenedGroup := by
          unfold step leave
          rw [none]
          rfl
        rw [unopened]
        exact .inl rfl
      · rw [step_within fun eq none => closes ⟨eq, none⟩] at run
        rcases stepped' : r.step c ds' with e | ⟨s, rest'⟩ <;> rw [stepped'] at run
        · cases run
        have run : (s.within b).readAll n' rest' = .ok r' := run
        obtain ⟨rest, stepped, left⟩ | ⟨-, astray⟩ := agrees_step ext r c s rest' stepped'
        · have := left.suffix.length_le
          have := left.suffix'.length_le
          rw [stepped, ← bottom_step stepped]
          exact ih left.extended (show rest.length < n by omega) (by omega) run
        · have astray : lost (s.within b) rest' := astray
          exact absurd out (outer_ne_nil_of_lost astray (outer_within_ne_nil s b) run)

end Reader

/-! ## What an anchored text denotes -/

/-- The level around the group of an anchored pattern, which has the first anchor in it. -/
def anchoredLevel : Level := ⟨{}, none, [], [⟨some (.assert .textStart), 0⟩]⟩

/-- The expression between two anchors. -/
def Expr.anchored (e : Expr) : Expr :=
  .seq (.assert .textStart) (.seq e (.assert .textEnd))

theorem readAll_anchor (n : Nat) (cs : List Char) :
    Reader.start.readAll (n + 2) ('^' :: '(' :: '?' :: ':' :: cs) =
      (Reader.start.within anchoredLevel).readAll n cs := by
  rfl

/-- From the end of the text on, the group is closed and the last anchor read. -/
theorem readAll_ending (enough : 2 < n) (bottom : r.bottom = Reader.start.bottom)
    (run : (r.within anchoredLevel).readAll n [')', '$'] = .ok r') (out : r'.outer = []) :
    r.outer = [] ∧ r'.names = r.names ∧
      r'.current.finish.expr = some (r.current.finish.expr.getD .empty).anchored ∧
      r'.current.finish.depth = r.current.finish.depth + 2 := by
  obtain ⟨n, rfl⟩ := Nat.exists_eq_add_of_lt enough
  rw [show 2 + n + 1 = n + 1 + 1 + 1 by omega, Reader.readAll_cons (skip_ending _)] at run
  obtain ⟨flags, ⟨outside, number, branches, items⟩, outer, groups, names⟩ := r
  rcases outer with _ | ⟨level, outer⟩
  · have outside : outside = {} := congrArg Prod.fst bottom
    have number : number = none := congrArg Prod.snd bottom
    subst outside number
    generalize inner : Level.finish ⟨{}, none, branches, items⟩ = whole
    have run : (Reader.push ⟨{}, anchoredLevel, [], groups, names⟩ (whole.expr.getD .empty)
        (whole.depth + 1)).readAll (n + 1 + 1) ['$'] = .ok r' := inner ▸ run
    rw [Reader.readAll_cons (c := '$') (show Flags.skip {} ['$'] = ['$'] from rfl)] at run
    have run : (Reader.push (Reader.push ⟨{}, anchoredLevel, [], groups, names⟩
        (whole.expr.getD .empty) (whole.depth + 1)) (.assert .textEnd) 0).readAll (n + 1) [] =
          .ok r' := run
    rw [Reader.readAll_nil (skip_nil _)] at run
    cases run
    refine ⟨rfl, rfl, rfl, ?_⟩
    show 1 + max (max (max 0 0) (whole.depth + 1)) 0 = whole.depth + 2
    omega
  · have run : (Reader.push ⟨outside, level, outer ++ [anchoredLevel], groups, names⟩ _ _).readAll
        (n + 1 + 1) ['$'] = .ok r' := run
    have inside : outer ++ [anchoredLevel] ≠ [] :=
      List.append_ne_nil_of_right_ne_nil _ (List.cons_ne_nil _ _)
    exact absurd out (Reader.outer_ne_nil_of_lost (.inl List.suffix_rfl) inside run)

/-- An anchored text denotes what the text denotes alone, between anchors, unless the text closes a
group that it has not opened. -/
theorem read_anchored {names : List (String × Nat)} {e : Expr}
    (h : read ('^' :: '(' :: '?' :: ':' :: (cs ++ [')', '$'])) = .ok (e, names)) :
    read cs = .error .unopenedGroup ∨ ∃ e', read cs = .ok (e', names) ∧ e = e'.anchored := by
  rw [read, List.length_cons, List.length_cons, readAll_anchor] at h
  rcases run : (Reader.start.within anchoredLevel).readAll _ (cs ++ [')', '$']) with _ | r' <;>
    rw [run] at h
  · cases h
  have result : r'.result = .ok (e, names) := h
  rw [Reader.result] at result
  split at result
  · cases result
  rename_i grouped
  dsimp only at result
  split at result
  · cases result
  rename_i shallow
  have out : r'.outer = [] := by simpa using grouped
  have longer : (cs ++ [')', '$']).length < (cs ++ [')', '$']).length + 3 := by omega
  have ext := extended_ending cs
  obtain unopened | ⟨s, m, alone, bottom, enough, ending⟩ :=
    Reader.readAll_within anchoredLevel ext (Nat.lt_succ_self _) longer run out
  · left
    rw [read, unopened]
    rfl
  · right
    obtain ⟨closed, same, expr, depth⟩ := readAll_ending enough bottom ending out
    rw [depth] at shallow
    rw [expr] at result
    obtain ⟨whole, rfl⟩ := Prod.mk.inj (Except.ok.inj result)
    refine ⟨s.current.finish.expr.getD .empty, ?_, whole.symm⟩
    rw [read, alone]
    show s.result = _
    rw [Reader.result, closed, if_neg (by decide), if_neg (by omega), same]

theorem anchor_toList (source : String) :
    (anchor source).toList = '^' :: '(' :: '?' :: ':' :: (source.toList ++ [')', '$']) := by
  rw [anchor, String.toList_append, String.toList_append]
  rfl

/-- An anchored pattern is the pattern between anchors, unless its text closes a group that it has
not opened. -/
theorem anchored_expr {source : String} {q : Pattern} (h : anchored source = .ok q) :
    compile source = .error .unopenedGroup ∨
      ∃ p, compile source = .ok p ∧ q.expr = p.expr.anchored := by
  rw [Pattern.anchored, compile, anchor_toList] at h
  rcases whole : read _ with _ | ⟨e, names⟩ <;> rw [whole] at h
  · cases h
  · rcases read_anchored whole with unopened | ⟨e, alone, rfl⟩
    · left
      rw [compile, unopened]
      rfl
    · right
      have h : (if sizeLimit < e.anchored.size then .error .tooLarge
        else .ok ⟨anchor source, e.anchored, names⟩ : Except Fault Pattern) = .ok q := h
      split at h
      · cases h
      · rename_i small
        cases h
        have size : e.anchored.size = stateSize + (e.size + stateSize) := rfl
        refine ⟨⟨source, e, names⟩, ?_, rfl⟩
        rw [compile, alone]
        exact if_neg (by omega)

/-- Whether a text is a pattern that takes the whole of a value. -/
def TakesWhole (source value : String) : Prop :=
  ∃ p, compile source = .ok p ∧ p.expr.MatchesWhole value.toList

theorem takesWhole_iff {source : String} {p : Pattern} (h : compile source = .ok p)
    (value : String) : TakesWhole source value ↔ p.expr.MatchesWhole value.toList := by
  constructor
  · rintro ⟨p', alone, whole⟩
    cases h.symm.trans alone
    exact whole
  · exact fun whole => ⟨p, h, whole⟩

/-- An anchored pattern matches what the pattern takes as a whole, unless its text closes a group
that it has not opened. -/
theorem isMatch_anchored_iff {source : String} {q : Pattern} (h : anchored source = .ok q)
    (opened : compile source ≠ .error .unopenedGroup) (value : String) :
    q.isMatch value ↔ TakesWhole source value := by
  obtain ⟨p, alone, expr⟩ := (anchored_expr h).resolve_left opened
  rw [isMatch, expr, Expr.anchored, Expr.isMatch_anchored, takesWhole_iff alone]

end Pattern

/-! ## Conditions on labels -/

theorem forall₂_of_mapM {ε α β : Type} {f : α → Except ε β} {xs : List α} {ys : List β}
    (h : xs.mapM f = .ok ys) : List.Forall₂ (fun x y => f x = .ok y) xs ys := by
  induction xs generalizing ys with
  | nil =>
    cases h
    exact .nil
  | cons x xs ih =>
    rw [List.mapM_cons] at h
    rcases first : f x with e | y <;> rw [first] at h
    · cases h
    rcases others : xs.mapM f with e | ys <;> rw [others] at h
    · cases h
    · cases h
      exact .cons first (ih others)

/-- A rule accepts the label sets that meet its conditions. -/
theorem Rule.accepts_iff {config : RuleConfig} {position : Nat} {r : Rule}
    (h : Rule.compile config position = .ok r) (m : LabelSet) :
    r.accepts m ↔ (∀ c ∈ config.exact, m.getOrEmpty c.1 = c.2) ∧
      ∀ c ∈ config.patterns, ∃ q, Pattern.anchored c.2 = .ok q ∧ q.isMatch (m.getOrEmpty c.1) := by
  rw [Rule.compile] at h
  rcases read : compilePatterns config.patterns with fault | patterns <;> rw [read] at h
  · cases h
  rcases template : compileTemplate config.template? with fault | t <;> rw [template] at h
  · cases h
  cases h
  have compiled := forall₂_of_mapM read
  rw [accepts, Bool.and_eq_true, List.all_eq_true]
  simp only [decide_eq_true_eq]
  refine and_congr_right fun _ => ?_
  clear read
  generalize config.patterns = configured at compiled
  induction compiled with
  | nil => exact iff_of_true rfl fun _ none => absurd none List.not_mem_nil
  | @cons c p configured patterns first _ ih =>
    rw [List.all_cons, Bool.and_eq_true, List.forall_mem_cons]
    refine and_congr ?_ ih
    dsimp only at first
    split at first
    · rename_i q anchored
      cases first
      rw [anchored]
      simp only [Except.ok.injEq, exists_eq_left']
    · cases first

/-- A matcher for a pattern accepts the label sets whose value matches it, and one against a pattern
accepts the others. -/
theorem Matcher.accepts_iff {c : Matcher} {k : Matcher.Compiled} {q : Pattern}
    (h : c.compile = .ok k) (anchored : Pattern.anchored c.value = .ok q)
    (op : c.op = .regex ∨ c.op = .notRegex) (m : LabelSet) :
    k.accepts m ↔ (q.isMatch (m.getOrEmpty c.name) ↔ c.op = .regex) := by
  rw [compile] at h
  rcases op with op | op <;> rw [op, anchored] at h <;> cases h
  · rw [Compiled.accepts, beq_true, op]
    exact (iff_true_right rfl).symm
  · rw [Compiled.accepts, beq_false, op, Bool.not_eq_true', ← Bool.not_eq_true]
    exact (iff_false_right MatchOp.noConfusion).symm

/-- Anchoring a pattern makes it match whole values.  Where a text can be anchored, it is a pattern
by itself, and the anchored pattern matches the values that the pattern takes as a whole, exactly if
the text closes no group that it has not opened.  Then a rule with the pattern for a label accepts
only label sets whose value it takes as a whole, and so does a matcher for it, while one against it
accepts the others. -/
theorem anchored_takes_whole {source : String} {q : Pattern}
    (h : Pattern.anchored source = .ok q) :
    ((∃ p, Pattern.compile source = .ok p ∧
        ∀ value, q.isMatch value ↔ p.expr.MatchesWhole value.toList) ↔
      Pattern.compile source ≠ .error .unopenedGroup) ∧
    (Pattern.compile source ≠ .error .unopenedGroup →
      (∀ config position r name m, Rule.compile config position = .ok r →
        (name, source) ∈ config.patterns → r.accepts m →
          Pattern.TakesWhole source (m.getOrEmpty name)) ∧
      ∀ (c : Matcher) k m, c.compile = .ok k → c.value = source →
        (c.op = .regex ∨ c.op = .notRegex) →
          (k.accepts m ↔ (Pattern.TakesWhole source (m.getOrEmpty c.name) ↔ c.op = .regex))) := by
  refine ⟨⟨?_, fun opened => ?_⟩, fun opened => ⟨?_, ?_⟩⟩
  · rintro ⟨p, alone, -⟩ unopened
    rw [alone] at unopened
    cases unopened
  · obtain ⟨p, alone, -⟩ := (Pattern.anchored_expr h).resolve_left opened
    refine ⟨p, alone, fun value => ?_⟩
    rw [Pattern.isMatch_anchored_iff h opened, Pattern.takesWhole_iff alone]
  · intro config position r name m compiled among accepted
    obtain ⟨q', anchored, found⟩ := ((Rule.accepts_iff compiled m).mp accepted).2 _ among
    exact (Pattern.isMatch_anchored_iff anchored opened _).mp found
  · rintro c k m compiled rfl op
    rw [Matcher.accepts_iff compiled h op m, Pattern.isMatch_anchored_iff h opened]

/-- Alternatives are anchored together: an owner that begins like one of them is not accepted, by a
rule or by a matcher. -/
theorem anchored_takes_whole_alternatives :
    Pattern.TakesWhole "ops|team" "team" ∧ ¬ Pattern.TakesWhole "ops|team" "teams" ∧
      (∃ r, Rule.compile { patterns := [("owner", "ops|team")] } 0 = .ok r ∧
        ∀ m, r.accepts m → Pattern.TakesWhole "ops|team" (m.getOrEmpty "owner")) ∧
      ∃ k, Matcher.compile ⟨"owner", .notRegex, "ops|team"⟩ = .ok k ∧
        ∀ m, k.accepts m ↔ ¬ Pattern.TakesWhole "ops|team" (m.getOrEmpty "owner") := by
  have opened : Pattern.compile "ops|team" ≠ .error .unopenedGroup := by
    obtain ⟨p, alone⟩ : ∃ p, Pattern.compile "ops|team" = .ok p := ⟨_, rfl⟩
    rw [alone]
    rintro ⟨⟩
  obtain ⟨q, anchored, team, teams⟩ : ∃ q, Pattern.anchored "ops|team" = .ok q ∧
      q.isMatch "team" = true ∧ q.isMatch "teams" = false := ⟨_, rfl, rfl, rfl⟩
  obtain ⟨takes, conditions⟩ := anchored_takes_whole anchored
  obtain ⟨p, alone, whole⟩ := takes.mpr opened
  obtain ⟨rules, matchers⟩ := conditions opened
  obtain ⟨r, rule⟩ : ∃ r, Rule.compile { patterns := [("owner", "ops|team")] } 0 = .ok r :=
    ⟨_, rfl⟩
  obtain ⟨k, matcher⟩ : ∃ k, Matcher.compile ⟨"owner", .notRegex, "ops|team"⟩ = .ok k := ⟨_, rfl⟩
  rw [Pattern.takesWhole_iff alone, Pattern.takesWhole_iff alone, ← whole, ← whole]
  refine ⟨team, ne_true_of_eq_false teams, ⟨r, rule, fun m => ?_⟩, k, matcher, fun m => ?_⟩
  · exact rules _ 0 r "owner" m rule (List.mem_singleton.mpr rfl)
  · exact (matchers _ k m matcher rfl (.inr rfl)).trans (iff_false_right MatchOp.noConfusion)

/-- The two halves of this text end the group that was made for it and begin another one.  It is no
pattern, and anchored it takes what begins with the one letter or ends with the other. -/
theorem anchored_unopened :
    Pattern.compile "a)|(?:b" = .error .unopenedGroup ∧
      (∃ q, Pattern.anchored "a)|(?:b" = .ok q ∧ q.isMatch "ax") ∧
      ∃ r, Rule.compile { patterns := [("owner", "a)|(?:b")] } 0 = .ok r ∧
        r.accepts (LabelSet.ofList [("owner", "ax")]) :=
  ⟨rfl, ⟨_, rfl, rfl⟩, _, rfl, rfl⟩

end MetricPath
