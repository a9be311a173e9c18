import MetricPath.Proofs.ActionGrammar

/-!
# The grammar of templates

The segments of a source, which are its texts and its actions, derive a list of nodes:

* a list is any number of texts, actions that are pipelines, and blocks;
* a block is an action of its keyword and a pipeline, a list, and a tail;
* a tail is an end, or an else, a list and an end; for an if it can also be an else with another if,
  a list, and a tail of that one.  The other if is then all that stands for the outer one after its
  else, and both end with the one end.

`Derives` is this grammar, with the tree of each part.  The reader has no calls for the parts: it
keeps a stack of open blocks and takes one segment after the other.  `Derives.isRead` says that over
the segments of a part it moves exactly as the tree of the part says, whatever stands on the stack
and whatever comes after; `exists_list` and `exists_tail` find the parts in a reading that succeeds,
by peeling off a list up to the next else or end, and then the tail of the innermost block.

`Holds` says how the leaves of a tree lie in the segments.  `parse_derives_iff` puts all of it
together for sources.
-/

namespace MetricPath.Template

/-! ## The grammar -/

/-- The parts of a template, with their trees. -/
inductive Part where
  | list (nodes : List Node)
  /-- What follows the body of a block, and what stands for the block after an else. -/
  | tail (kind : BlockKind) (otherwise : List Node)

/-- The segments that derive from a part. -/
inductive Derives (r : Reading) : Part → List Segment → Prop where
  | nil : Derives r (.list []) []
  | text {s : String} {nodes : List Node} {segs : List Segment} :
      Derives r (.list nodes) segs → Derives r (.list (.text s :: nodes)) (.text s :: segs)
  | action {ts : List Token} {offset : Nat} {pipe : Pipeline} {nodes : List Node}
      {segs : List Segment} :
      Spells r (.pipeline pipe) ts → Derives r (.list nodes) segs →
      Derives r (.list (.action pipe :: nodes)) (.action ts offset :: segs)
  | block {kind : BlockKind} {word : Token} {ts : List Token} {offset : Nat} {pipe : Pipeline}
      {body otherwise nodes : List Node} {inside tail segs : List Segment} :
      word.kind = .word kind.keyword → Spells r (.pipeline pipe) ts →
      Derives r (.list body) inside → Derives r (.tail kind otherwise) tail →
      Derives r (.list nodes) segs →
      Derives r (.list (.block kind pipe body otherwise :: nodes))
        (.action (word :: ts) offset :: (inside ++ (tail ++ segs)))
  | ends {kind : BlockKind} {word : Token} {offset : Nat} :
      word.kind = .word "end" → Derives r (.tail kind []) [.action [word] offset]
  | otherwise {kind : BlockKind} {word stop : Token} {offset stopOffset : Nat}
      {nodes : List Node} {segs : List Segment} :
      word.kind = .word "else" → Derives r (.list nodes) segs → stop.kind = .word "end" →
      Derives r (.tail kind nodes)
        (.action [word] offset :: (segs ++ [.action [stop] stopOffset]))
  | elseIf {word second : Token} {ts : List Token} {offset : Nat} {pipe : Pipeline}
      {body otherwise : List Node} {inside tail : List Segment} :
      word.kind = .word "else" → second.kind = .word "if" → Spells r (.pipeline pipe) ts →
      Derives r (.list body) inside → Derives r (.tail .ifBlock otherwise) tail →
      Derives r (.tail .ifBlock [.block .ifBlock pipe body otherwise])
        (.action (word :: second :: ts) offset :: (inside ++ tail))

/-! ## Directives -/

/-- The word of a directive. -/
def Directive.word? : Directive → Option String
  | .begins kind => some kind.keyword
  | .otherwise => some "else"
  | .ends => some "end"
  | .evaluates => none

section Directive

variable {d : Directive} {w : String} {t : Token} {ts : List Token}

theorem ofTokens_of_word (h : d.word? = some w) (word : t.kind = .word w) :
    Directive.ofTokens (t :: ts) = d := by
  cases d with
  | begins kind => cases kind <;> cases h <;> rw [Directive.ofTokens, word] <;> rfl
  | otherwise | ends => cases h; rw [Directive.ofTokens, word]; rfl
  | evaluates => cases h

/-- An action that does more than evaluate begins with the word of what it does. -/
theorem exists_of_ofTokens (h : Directive.ofTokens ts = d) (word : d.word? = some w) :
    ∃ t rest, ts = t :: rest ∧ t.kind = .word w := by
  subst h
  cases ts with
  | nil => cases word
  | cons t ts =>
    refine ⟨t, ts, rfl, ?_⟩
    unfold Directive.ofTokens at word
    dsimp only at word
    split at word <;> cases word <;> assumption

/-- The tokens of a pipeline are evaluated. -/
theorem Spells.ofTokens {r : Reading} {φ : Phrase} (h : Spells r φ ts) :
    Directive.ofTokens ts = .evaluates := by
  have denotes {t : Token} {o : Operand} {us : List Token} (h : t.kind.Denotes o) :
      Directive.ofTokens (t :: us) = .evaluates := by
    rw [Directive.ofTokens]
    generalize t.kind = kind at h
    cases h with
    | function f => cases f <;> rfl
    | _ => rfl
  induction h with
  | token h => exact denotes h
  | sub hl => rw [Directive.ofTokens, hl]
  | nil => rfl
  | @cons _ _ ts us spells _ _ ih =>
    obtain ⟨t, ts, rfl⟩ := List.exists_cons_of_ne_nil (spells.ne_nil (by simp))
    exact ih
  | call kind => exact denotes (denotes_call kind)
  | value _ _ ih | single _ ih => exact ih
  | @pipe _ _ _ ts _ spells _ _ ih =>
    obtain ⟨t, ts, rfl⟩ := List.exists_cons_of_ne_nil (spells.ne_nil (by simp))
    exact ih

end Directive

/-! ## What derives is read -/

section Steps

variable {total offset : Nat} {b : OpenBlock} {stack : List OpenBlock} {nodes : List Node}
  {ts : List Token} {rest : List Segment}

theorem readNodes_evaluates (h : Directive.ofTokens ts = .evaluates) :
    readNodes total stack nodes (.action ts offset :: rest)
      = readPipeline offset ts >>= fun pipe =>
          readNodes total stack (.action pipe :: nodes) rest := by
  rw [readNodes.eq_def]
  simp only [h]

theorem readNodes_begins {kind : BlockKind} (h : Directive.ofTokens ts = .begins kind) :
    readNodes total stack nodes (.action ts offset :: rest)
      = readPipeline offset ts.tail >>= fun pipe =>
          readNodes total (⟨kind, offset, pipe, nodes, none, false⟩ :: stack) [] rest := by
  rw [readNodes.eq_def]
  simp only [h]

theorem readNodes_otherwise (h : Directive.ofTokens ts = .otherwise) :
    readNodes total (b :: stack) nodes (.action ts offset :: rest)
      = elseBlock offset ts.tail nodes b stack >>= fun stack =>
          readNodes total stack [] rest := by
  rw [readNodes.eq_def]
  simp only [h]

theorem readNodes_ends (h : Directive.ofTokens ts = .ends) :
    readNodes total (b :: stack) nodes (.action ts offset :: rest)
      = if !ts.tail.isEmpty then .error ⟨offset, .endWithArguments⟩
        else readNodes total (endBlock b nodes stack).2 (endBlock b nodes stack).1 rest := by
  rw [readNodes.eq_def]
  simp only [h]

/-- Neither an else nor an end can stand outside all blocks. -/
theorem readNodes_nil_ne_ok (h : Directive.ofTokens ts = .otherwise ∨ Directive.ofTokens ts = .ends)
    (result : List Node) : readNodes total [] nodes (.action ts offset :: rest) ≠ .ok result := by
  rw [readNodes.eq_def]
  rcases h with h | h
  · simp [h]
  · simp only [h]
    split <;> simp

end Steps

/-- Ending a block looks at the node it makes, and at its place. -/
theorem endBlock_congr {b b' : OpenBlock} {nodes nodes' : List Node}
    (close : b.close nodes = b'.close nodes') (before : b.before = b'.before)
    (chained : b.chained = b'.chained) (stack : List OpenBlock) :
    endBlock b nodes stack = endBlock b' nodes' stack := by
  cases stack with
  | nil => rw [endBlock, endBlock, close, before]
  | cons outer stack => rw [endBlock, endBlock, close, before, chained]

theorem endBlock_of_not_chained {b : OpenBlock} (h : b.chained = false) (nodes : List Node)
    (stack : List OpenBlock) : endBlock b nodes stack = (b.close nodes :: b.before, stack) := by
  cases stack with
  | nil => rfl
  | cons outer stack => rw [endBlock, h]; rfl

/-- What reading the segments of a part does, whatever follows.  After a list its nodes have been
read; after a tail the block has ended with what the tail says stands for it. -/
def Part.IsRead (total : Nat) : Part → List Segment → Prop
  | .list nodes, segs => ∀ stack before rest,
      readNodes total stack before (segs ++ rest)
        = readNodes total stack (nodes.reverse ++ before) rest
  | .tail kind otherwise, segs => ∀ (b : OpenBlock) stack nodes rest,
      b.kind = kind → b.body? = none →
      let ended := endBlock { b with body? := some nodes.reverse } otherwise.reverse stack
      readNodes total (b :: stack) nodes (segs ++ rest) = readNodes total ended.2 ended.1 rest

/-- The reader finds every part in its longest reading. -/
theorem Derives.isRead (total : Nat) {p : Part} {segs : List Segment}
    (h : Derives .longest p segs) : p.IsRead total segs := by
  induction h with
  | nil => exact fun _ _ _ => rfl
  | text _ ih =>
    intro stack before rest
    rw [List.cons_append, readNodes, ih]
    simp
  | @action ts offset pipe nodes segs spells _ ih =>
    intro stack before rest
    have step : readNodes total stack before (.action ts offset :: (segs ++ rest))
        = readNodes total stack (.action pipe :: before) (segs ++ rest) := by
      rw [readNodes_evaluates spells.ofTokens, readPipeline_eq_ok_iff.mpr spells]
      rfl
    rw [List.cons_append, step, ih]
    simp
  | @block kind word ts offset pipe body otherwise nodes inside tail segs hw spells _ _ _ ihBody
      ihTail ih =>
    intro stack before rest
    have step : readNodes total stack before
          (.action (word :: ts) offset :: (inside ++ (tail ++ segs) ++ rest))
        = readNodes total (⟨kind, offset, pipe, before, none, false⟩ :: stack) []
          (inside ++ (tail ++ (segs ++ rest))) := by
      rw [readNodes_begins (ofTokens_of_word rfl hw), List.tail_cons,
        readPipeline_eq_ok_iff.mpr spells, List.append_assoc, List.append_assoc]
      rfl
    rw [List.cons_append, step, ihBody, ihTail _ _ _ _ rfl rfl, endBlock_of_not_chained rfl, ih]
    simp [OpenBlock.close]
  | @ends kind word offset hw =>
    -- without an else the block closes as it would after one with nothing behind it
    intro b stack nodes rest _ hb
    rw [List.singleton_append, readNodes_ends (ofTokens_of_word rfl hw)]
    have close : b.close nodes = { b with body? := some nodes.reverse }.close [] := by
      simp [OpenBlock.close, hb]
    rw [endBlock_congr close rfl rfl]
    rfl
  | @otherwise kind word stop offset stopOffset nodes segs hw _ hs ih =>
    intro b stack body rest _ hb
    have step : readNodes total (b :: stack) body
          (.action [word] offset :: (segs ++ [.action [stop] stopOffset] ++ rest))
        = readNodes total ({ b with body? := some body.reverse } :: stack) []
          (segs ++ .action [stop] stopOffset :: rest) := by
      rw [readNodes_otherwise (ofTokens_of_word rfl hw), List.append_assoc]
      simp [elseBlock, hb, bind, Except.bind]
    rw [List.cons_append, step, ih, List.append_nil, readNodes_ends (ofTokens_of_word rfl hs)]
    rfl
  | @elseIf word second ts offset pipe body otherwise inside tail hw hs spells _ _ ihBody ihTail =>
    intro b stack nodes rest hk hb
    have begins : Directive.ofTokens (second :: ts) = .begins .ifBlock := ofTokens_of_word rfl hs
    have step : readNodes total (b :: stack) nodes
          (.action (word :: second :: ts) offset :: (inside ++ tail ++ rest))
        = readNodes total (⟨.ifBlock, offset, pipe, [], none, true⟩ ::
            { b with body? := some nodes.reverse } :: stack) [] (inside ++ (tail ++ rest)) := by
      rw [readNodes_otherwise (ofTokens_of_word rfl hw), List.append_assoc]
      simp [elseBlock, hb, hk, begins, readPipeline_eq_ok_iff.mpr spells, bind, Except.bind, pure,
        Except.pure]
    rw [List.cons_append, step, ihBody, ihTail _ _ _ _ rfl rfl, List.append_nil,
      List.reverse_reverse]
    -- the other if is chained, so its end is that of the block around it too
    simp [endBlock, OpenBlock.close]

/-! ## What is read derives -/

/-- The segments do not go on with a list: they are at an end, or begin with an else or an end. -/
def StopsList (segs : List Segment) : Prop :=
  segs = [] ∨ ∃ ts offset rest, segs = .action ts offset :: rest ∧
    (Directive.ofTokens ts = .otherwise ∨ Directive.ofTokens ts = .ends)

/-- A part at the beginning of the segments, and what is left of a reading after it. -/
theorem Derives.resume {total : Nat} {stack : List OpenBlock} {before nodes result : List Node}
    {read rest : List Segment} (derives : Derives .longest (.list nodes) read)
    (h : readNodes total stack before (read ++ rest) = .ok result) :
    readNodes total stack (nodes.reverse ++ before) rest = .ok result := by
  rw [← derives.isRead total]
  exact h

theorem Derives.resume_tail {total : Nat} {b : OpenBlock} {stack : List OpenBlock}
    {nodes otherwise result : List Node} {read rest : List Segment}
    (derives : Derives .longest (.tail b.kind otherwise) read) (hb : b.body? = none)
    (h : readNodes total (b :: stack) nodes (read ++ rest) = .ok result) :
    ∃ stack before, readNodes total stack before rest = .ok result := by
  rw [derives.isRead total b stack nodes rest rfl hb] at h
  exact ⟨_, _, h⟩

/-- A reading in an open block cannot come to an end before the block does. -/
theorem exists_of_stopsList {total : Nat} {b : OpenBlock} {stack : List OpenBlock}
    {nodes result : List Node} {segs : List Segment} (stops : StopsList segs)
    (h : readNodes total (b :: stack) nodes segs = .ok result) :
    ∃ ts offset rest, segs = .action ts offset :: rest ∧
      (Directive.ofTokens ts = .otherwise ∨ Directive.ofTokens ts = .ends) := by
  rcases stops with rfl | found
  · rw [readNodes] at h
    cases h
  · exact found

/-- An end that is read has no arguments. -/
theorem eq_singleton_of_ends {total offset : Nat} {b : OpenBlock} {stack : List OpenBlock}
    {nodes result : List Node} {ts : List Token} {rest : List Segment}
    (ends : Directive.ofTokens ts = .ends)
    (h : readNodes total (b :: stack) nodes (.action ts offset :: rest) = .ok result) :
    ∃ word : Token, ts = [word] ∧ word.kind = .word "end" := by
  obtain ⟨word, args, rfl, kind⟩ := exists_of_ofTokens ends rfl
  rw [readNodes_ends ends] at h
  cases args with
  | nil => exact ⟨word, rfl, kind⟩
  | cons => cases h

/-- What an else does to a block that has had none: it goes on to the other list, in which an if
with a condition of its own begins if the else has one. -/
theorem elseBlock_eq_ok {offset : Nat} {ts : List Token} {nodes : List Node} {b : OpenBlock}
    {stack opened : List OpenBlock} (hb : b.body? = none)
    (h : elseBlock offset ts nodes b stack = .ok opened) :
    (ts = [] ∧ opened = { b with body? := some nodes.reverse } :: stack) ∨
      ∃ word rest pipe, ts = word :: rest ∧ word.kind = .word "if" ∧ b.kind = .ifBlock ∧
        Spells .longest (.pipeline pipe) rest ∧
        opened = ⟨.ifBlock, offset, pipe, [], none, true⟩ ::
          { b with body? := some nodes.reverse } :: stack := by
  unfold elseBlock at h
  simp only [hb, Option.isSome_none, Bool.false_eq_true, if_false] at h
  split at h
  · rename_i empty
    cases h
    exact .inl ⟨List.isEmpty_iff.mp empty, rfl⟩
  · split at h
    · rename_i kind directive
      obtain ⟨word, rest, rfl, hw⟩ := exists_of_ofTokens directive rfl
      obtain ⟨pipe, read, returned⟩ := bind_eq_ok.mp h
      cases returned
      exact .inr ⟨word, rest, pipe, rfl, hw, kind, readPipeline_eq_ok_iff.mp read, rfl⟩
    · cases h

theorem elseBlock_ne_ok {offset : Nat} {ts : List Token} {nodes : List Node} {b : OpenBlock}
    {stack opened : List OpenBlock} (hb : b.body?.isSome) :
    elseBlock offset ts nodes b stack ≠ .ok opened := by
  rw [elseBlock, if_pos hb]
  exact nofun

mutual

/-- A reading that succeeds reads a list first. -/
theorem exists_list {total : Nat} {stack : List OpenBlock} {before result : List Node}
    {segs : List Segment} (h : readNodes total stack before segs = .ok result) :
    ∃ nodes read rest, segs = read ++ rest ∧ Derives .longest (.list nodes) read ∧
      StopsList rest := by
  match segs with
  | [] => exact ⟨[], [], [], rfl, .nil, .inl rfl⟩
  | .text s :: segs =>
    rw [readNodes] at h
    obtain ⟨nodes, read, rest, rfl, derives, stops⟩ := exists_list h
    exact ⟨_, _, rest, rfl, .text derives, stops⟩
  | .action ts offset :: segs =>
    cases directive : Directive.ofTokens ts with
    | evaluates =>
      rw [readNodes_evaluates directive] at h
      obtain ⟨pipe, spells, h⟩ := bind_eq_ok.mp h
      obtain ⟨nodes, read, rest, rfl, derives, stops⟩ := exists_list h
      exact ⟨_, _, rest, rfl, .action (readPipeline_eq_ok_iff.mp spells) derives, stops⟩
    | begins kind =>
      obtain ⟨word, ts, rfl, hw⟩ := exists_of_ofTokens directive rfl
      rw [readNodes_begins directive] at h
      obtain ⟨pipe, spells, h⟩ := bind_eq_ok.mp h
      obtain ⟨body, inside, rest, rfl, derivesBody, stops⟩ := exists_list h
      -- the list stopped within the block just opened, so a tail of that block comes next
      have h := derivesBody.resume h
      obtain ⟨otherwise, tail, rest, rfl, derivesTail⟩ := exists_tail h rfl stops
      obtain ⟨stack, before, h⟩ := derivesTail.resume_tail rfl h
      obtain ⟨nodes, read, rest, rfl, derives, stops⟩ := exists_list h
      refine ⟨.block kind pipe body otherwise :: nodes,
        .action (word :: ts) offset :: (inside ++ (tail ++ read)), rest, by simp, ?_, stops⟩
      exact .block hw (readPipeline_eq_ok_iff.mp spells) derivesBody derivesTail derives
    | otherwise | ends =>
      exact ⟨[], [], _, rfl, .nil, .inr ⟨ts, offset, segs, rfl, by simp [directive]⟩⟩
termination_by segs.length

/-- A reading that succeeds goes on after the body of a block with a tail of it. -/
theorem exists_tail {total : Nat} {b : OpenBlock} {stack : List OpenBlock}
    {nodes result : List Node} {segs : List Segment}
    (h : readNodes total (b :: stack) nodes segs = .ok result) (hb : b.body? = none)
    (stops : StopsList segs) :
    ∃ otherwise read rest, segs = read ++ rest ∧
      Derives .longest (.tail b.kind otherwise) read := by
  obtain ⟨ts, offset, segs, rfl, directive | directive⟩ := exists_of_stopsList stops h
  · obtain ⟨word, args, rfl, hw⟩ := exists_of_ofTokens directive rfl
    rw [readNodes_otherwise directive] at h
    obtain ⟨opened, elses, h⟩ := bind_eq_ok.mp h
    obtain ⟨otherwise, read, rest, rfl, derives, after⟩ := exists_list h
    have h := derives.resume h
    obtain ⟨rfl, rfl⟩ | ⟨second, args, pipe, rfl, hs, kind, spells, rfl⟩ :=
      elseBlock_eq_ok hb elses
    · obtain ⟨ts, stopOffset, rest, rfl, directive | directive⟩ := exists_of_stopsList after h
      · -- a second else
        rw [readNodes_otherwise directive] at h
        obtain ⟨opened, elses, -⟩ := bind_eq_ok.mp h
        exact absurd elses (elseBlock_ne_ok rfl)
      · obtain ⟨stop, rfl, hs⟩ := eq_singleton_of_ends directive h
        refine ⟨otherwise, .action [word] offset :: (read ++ [.action [stop] stopOffset]), rest,
          by simp, ?_⟩
        exact .otherwise hw derives hs
    · obtain ⟨other, tail, rest, rfl, derivesTail⟩ := exists_tail h rfl after
      refine ⟨[.block .ifBlock pipe otherwise other],
        .action (word :: second :: args) offset :: (read ++ tail), rest, by simp, ?_⟩
      rw [kind]
      exact .elseIf hw hs spells derives derivesTail
  · obtain ⟨word, rfl, hw⟩ := eq_singleton_of_ends directive h
    exact ⟨[], _, segs, rfl, .ends hw⟩
termination_by segs.length

end

/-- **The reader of segments decides the grammar.** -/
theorem readNodes_eq_ok_iff (total : Nat) {segs : List Segment} {nodes : List Node} :
    readNodes total [] [] segs = .ok nodes ↔ Derives .longest (.list nodes) segs := by
  constructor
  · intro h
    obtain ⟨read, segs, rest, rfl, derives, stops⟩ := exists_list h
    have h := derives.resume h
    rcases stops with rfl | ⟨ts, offset, rest, rfl, directive⟩
    · rw [readNodes, List.append_nil, List.reverse_reverse] at h
      cases h
      rw [List.append_nil]
      exact derives
    · exact absurd h (readNodes_nil_ne_ok directive nodes)
  · intro h
    have read := h.isRead total [] [] []
    rw [List.append_nil, List.append_nil, readNodes, List.reverse_reverse] at read
    exact read

/-- In its longest reading the grammar gives a sequence of segments one tree at most. -/
theorem Derives.unique {segs : List Segment} {nodes nodes' : List Node}
    (h : Derives .longest (.list nodes) segs) (h' : Derives .longest (.list nodes') segs) :
    nodes = nodes' := by
  have read := (readNodes_eq_ok_iff 0).mpr h
  rw [(readNodes_eq_ok_iff 0).mpr h'] at read
  cases read
  rfl

/-! ## The longest reading -/

/-- What the longest reading derives, the other derives too. -/
theorem Derives.any {p : Part} {segs : List Segment} (h : Derives .longest p segs) :
    Derives .any p segs := by
  induction h with
  | nil => exact .nil
  | text _ ih => exact .text ih
  | action spells _ ih => exact .action spells.any ih
  | block hw spells _ _ _ ihBody ihTail ih => exact .block hw spells.any ihBody ihTail ih
  | ends hw => exact .ends hw
  | otherwise hw _ hs ih => exact .otherwise hw ih hs
  | elseIf hw hs spells _ _ ihBody ihTail => exact .elseIf hw hs spells.any ihBody ihTail

/-- A part of the same sort in the longest reading. -/
def Part.IsLongest : Part → List Segment → Prop
  | .list _, segs => ∃ nodes, Derives .longest (.list nodes) segs
  | .tail kind _, segs => ∃ otherwise, Derives .longest (.tail kind otherwise) segs

/-- Segments that derive from a part derive from one in the longest reading as well. -/
theorem Derives.longest {r : Reading} {p : Part} {segs : List Segment} (h : Derives r p segs) :
    p.IsLongest segs := by
  induction h with
  | nil => exact ⟨_, .nil⟩
  | text _ ih =>
    obtain ⟨nodes, derives⟩ := ih
    exact ⟨_, .text derives⟩
  | action spells _ ih =>
    obtain ⟨nodes, derives⟩ := ih
    obtain ⟨pipe, spells⟩ := spells.longest
    exact ⟨_, .action spells derives⟩
  | block hw spells _ _ _ ihBody ihTail ih =>
    obtain ⟨pipe, spells⟩ := spells.longest
    obtain ⟨body, derivesBody⟩ := ihBody
    obtain ⟨otherwise, derivesTail⟩ := ihTail
    obtain ⟨nodes, derives⟩ := ih
    exact ⟨_, .block hw spells derivesBody derivesTail derives⟩
  | ends hw => exact ⟨_, .ends hw⟩
  | otherwise hw _ hs ih =>
    obtain ⟨nodes, derives⟩ := ih
    exact ⟨_, .otherwise hw derives hs⟩
  | elseIf hw hs spells _ _ ihBody ihTail =>
    obtain ⟨pipe, spells⟩ := spells.longest
    obtain ⟨body, derivesBody⟩ := ihBody
    obtain ⟨otherwise, derivesTail⟩ := ihTail
    exact ⟨_, .elseIf hw hs spells derivesBody derivesTail⟩

/-! ## Leaves -/

/-- What a tree of nodes holds at its leaves. -/
inductive Leaf where
  | text (s : String)
  | pipeline (cs : Pipeline)

mutual

/-- The texts and pipelines of a node from left to right. -/
def Node.leaves : Node → List Leaf
  | .text s => [.text s]
  | .action pipe => [.pipeline pipe]
  | .block _ pipe body otherwise => .pipeline pipe :: (leavesOf body ++ leavesOf otherwise)

/-- The texts and pipelines of nodes from left to right. -/
def leavesOf : List Node → List Leaf
  | [] => []
  | node :: nodes => node.leaves ++ leavesOf nodes

end

/-- The tokens are keywords. -/
def AreKeywords (ts : List Token) : Prop := ∀ t ∈ ts, ∃ w ∈ keywords, t.kind = .word w

theorem AreKeywords.nil : AreKeywords [] := nofun

theorem AreKeywords.cons {t : Token} {ts : List Token} {w : String} (hw : t.kind = .word w)
    (known : w ∈ keywords) (h : AreKeywords ts) : AreKeywords (t :: ts) :=
  List.forall_mem_cons.mpr ⟨⟨w, known, hw⟩, h⟩

theorem BlockKind.keyword_mem (kind : BlockKind) : kind.keyword ∈ keywords := by
  cases kind <;> decide

/-- The segments hold the leaves: each text is one, and so is what an action has after its keywords.
An action that is all keywords holds none. -/
inductive Holds (r : Reading) : List Segment → List Leaf → Prop where
  | nil : Holds r [] []
  | text {s : String} {segs : List Segment} {leaves : List Leaf} :
      Holds r segs leaves → Holds r (.text s :: segs) (.text s :: leaves)
  | keywords {words : List Token} {offset : Nat} {segs : List Segment} {leaves : List Leaf} :
      AreKeywords words → Holds r segs leaves → Holds r (.action words offset :: segs) leaves
  | pipeline (words : List Token) {ts : List Token} {offset : Nat} {cs : Pipeline}
      {segs : List Segment} {leaves : List Leaf} :
      AreKeywords words → Spells r (.pipeline cs) ts → Holds r segs leaves →
      Holds r (.action (words ++ ts) offset :: segs) (.pipeline cs :: leaves)

theorem Holds.append {r : Reading} {segs segs' : List Segment} {leaves leaves' : List Leaf}
    (h : Holds r segs leaves) (h' : Holds r segs' leaves') :
    Holds r (segs ++ segs') (leaves ++ leaves') := by
  induction h with
  | nil => exact h'
  | text _ ih => exact .text ih
  | keywords words _ ih => exact .keywords words ih
  | pipeline words known spells _ ih => exact .pipeline words known spells ih

/-- The leaves of the tree of a part. -/
def Part.leaves : Part → List Leaf
  | .list nodes => leavesOf nodes
  | .tail _ otherwise => leavesOf otherwise

/-- The tree of a part has the leaves of its segments, each once and in their order. -/
theorem Derives.holds {r : Reading} {p : Part} {segs : List Segment} (h : Derives r p segs) :
    Holds r segs p.leaves := by
  induction h with
  | nil => exact .nil
  | text _ ih => exact .text ih
  | action spells _ ih => exact .pipeline [] .nil spells ih
  | @block kind word ts offset pipe body otherwise nodes inside tail segs hw spells _ _ _ ihBody
      ihTail ih =>
    have words := AreKeywords.nil.cons hw kind.keyword_mem
    simp only [Part.leaves, leavesOf, Node.leaves, List.cons_append, List.append_assoc]
    exact .pipeline [word] words spells (ihBody.append (ihTail.append ih))
  | ends hw => exact .keywords (AreKeywords.nil.cons hw (by decide)) .nil
  | @otherwise kind word stop offset stopOffset nodes segs hw _ hs ih =>
    have ends : Holds r [.action [stop] stopOffset] [] :=
      .keywords (AreKeywords.nil.cons hs (by decide)) .nil
    have whole := ih.append ends
    rw [List.append_nil] at whole
    exact .keywords (AreKeywords.nil.cons hw (by decide)) whole
  | @elseIf word second ts offset pipe body otherwise inside tail hw hs spells _ _ ihBody ihTail =>
    have words := (AreKeywords.nil.cons hs (by decide)).cons hw (by decide)
    simp only [Part.leaves, leavesOf, Node.leaves, List.append_nil]
    exact .pipeline [word, second] words spells (ihBody.append ihTail)

/-! ## Sources -/

/-- **The parser decides the grammar of templates.**  A source whose actions can be read is a
template exactly if its segments derive from a list, even if a chain behind a parenthesis may be
read either way; and the nodes returned are the tree of the longest reading.  The texts and
pipelines of that tree are those of the segments, with none left out, added or moved. -/
theorem parse_derives_iff (source : List Char) :
    ((∃ nodes, parse source = .ok nodes) ↔
      ∃ segs nodes, segments source = .ok segs ∧ Derives .any (.list nodes) segs) ∧
    (∀ nodes, parse source = .ok nodes ↔
      ∃ segs, segments source = .ok segs ∧ Derives .longest (.list nodes) segs) ∧
    ∀ segs nodes, segments source = .ok segs → parse source = .ok nodes →
      Holds .longest segs (leavesOf nodes) := by
  have decides (nodes : List Node) : parse source = .ok nodes ↔
      ∃ segs, segments source = .ok segs ∧ Derives .longest (.list nodes) segs := by
    rw [parse, bind_eq_ok]
    simp only [readNodes_eq_ok_iff]
  refine ⟨⟨?accepted, ?derived⟩, decides, ?leaves⟩
  case accepted =>
    rintro ⟨nodes, parsed⟩
    obtain ⟨segs, lexed, derives⟩ := (decides nodes).mp parsed
    exact ⟨segs, nodes, lexed, derives.any⟩
  case derived =>
    rintro ⟨segs, nodes, lexed, derives⟩
    obtain ⟨nodes, derives⟩ := derives.longest
    exact ⟨nodes, (decides nodes).mpr ⟨segs, lexed, derives⟩⟩
  case leaves =>
    intro segs nodes lexed parsed
    obtain ⟨segs', lexed', derives⟩ := (decides nodes).mp parsed
    rw [lexed] at lexed'
    cases lexed'
    exact derives.holds

end MetricPath.Template
