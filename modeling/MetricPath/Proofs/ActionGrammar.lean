import MetricPath.Template.Tree

/-!
# The grammar of actions

The tokens of an action spell a pipeline:

* a pipeline is one command or more, with a pipe between one and the next;
* a command is a function and its operands, or a single operand that is not a function;
* an operand is a token that denotes one, or a pipeline in parentheses, perhaps with a chain of
  fields right behind.

`Spells` is this grammar, with the tree of each phrase.  It is ambiguous in one point: among the
operands of a function, a chain that follows a parenthesis without white space could be a part of
the operand in parentheses or an operand of its own.  `Reading` says whether both are allowed or the
first is taken; `Spells.longest` shows that the choice does not change what can be spelled.

`readPipeline_eq_ok_iff` says that the reader of pipelines decides the grammar in its longest
reading.  The reader looks for pipes and closing parentheses by counting, and does not compare what
it skips with the grammar.  The tokens of a phrase are balanced, so counting passes over them
(`Spells.skips`) and finds the cuts of the derivation.  In the other direction nothing has to be
known about what was skipped, since it is read afterwards.
-/

namespace MetricPath.Template

/-- What a computation with two steps returns. -/
theorem bind_eq_ok {ε α β : Type} {x : Except ε α} {f : α → Except ε β} {b : β} :
    x >>= f = .ok b ↔ ∃ a, x = .ok a ∧ f a = .ok b := by
  cases x with
  | error e => simp [bind, Except.bind]
  | ok a => simp [bind, Except.bind]

/-! ## The grammar -/

/-- The operands that a single token can denote. -/
inductive TokenKind.Denotes : TokenKind → Operand → Prop where
  | dot : Denotes .dot .dot
  | field (chain : List String) : Denotes (.field chain) (.field chain)
  | root (chain : List String) : Denotes (.variable "" chain) (.root chain)
  | literal (v : Value) : Denotes (.literal v) (.literal v)
  | yes : Denotes (.word "true") (.literal (.bool true))
  | no : Denotes (.word "false") (.literal (.bool false))
  | function (f : Function) : Denotes (.word f.name) (.call f)

/-- The tokens are a chain of fields, or nothing for none, and no white space stands before them. -/
inductive Attaches : List String → List Token → Prop where
  | none : Attaches [] []
  | chain {chain : List String} {t : Token} :
      t.kind = .field chain → t.spaced = false → Attaches chain [t]

/-- A parenthesis at the end of the first tokens could take a chain at the start of the others. -/
def Joins (ts us : List Token) : Prop :=
  (∃ p, ts.getLast? = some p ∧ p.kind = .rightParen) ∧
    ∃ t rest chain, us = t :: rest ∧ t.kind = .field chain ∧ t.spaced = false

/-- How a chain right behind an operand in parentheses is read. -/
inductive Reading where
  /-- As a part of the operand or as the next operand. -/
  | any
  /-- As a part of the operand. -/
  | longest

/-- The phrases of which an action is made, with their trees. -/
inductive Phrase where
  | operand (o : Operand)
  | operands (os : List Operand)
  | command (c : Command)
  | pipeline (cs : Pipeline)

/-- The tokens that spell a phrase. -/
inductive Spells (r : Reading) : Phrase → List Token → Prop where
  | token {t : Token} {o : Operand} : t.kind.Denotes o → Spells r (.operand o) [t]
  | sub {left right : Token} {cs : Pipeline} {chain : List String} {ts us : List Token} :
      left.kind = .leftParen → Spells r (.pipeline cs) ts → right.kind = .rightParen →
      Attaches chain us → Spells r (.operand (.sub cs chain)) (left :: (ts ++ right :: us))
  | nil : Spells r (.operands []) []
  | cons {o : Operand} {os : List Operand} {ts us : List Token} :
      Spells r (.operand o) ts → Spells r (.operands os) us → (r = .longest → ¬ Joins ts us) →
      Spells r (.operands (o :: os)) (ts ++ us)
  | call {t : Token} {f : Function} {os : List Operand} {ts : List Token} :
      t.kind = .word f.name → Spells r (.operands os) ts →
      Spells r (.command (.call f os)) (t :: ts)
  | value {o : Operand} {ts : List Token} :
      Spells r (.operand o) ts → (∀ f, o ≠ .call f) → Spells r (.command (.operand o)) ts
  | single {c : Command} {ts : List Token} :
      Spells r (.command c) ts → Spells r (.pipeline [c]) ts
  | pipe {c : Command} {cs : Pipeline} {pipe : Token} {ts us : List Token} :
      Spells r (.command c) ts → pipe.kind = .pipe → Spells r (.pipeline cs) us →
      Spells r (.pipeline (c :: cs)) (ts ++ pipe :: us)

/-! ## Tokens -/

theorem Function.ofName?_name (f : Function) : Function.ofName? f.name = some f := by
  cases f <;> rfl

theorem Function.name_of_ofName? {name : String} {f : Function}
    (h : Function.ofName? name = some f) : f.name = name := by
  simpa using List.find?_some h

/-- No word with a meaning of its own is the name of a function. -/
theorem Function.name_notMem (f : Function) :
    f.name ∉ "true" :: "false" :: keywords := by
  cases f <;> decide

theorem denotes_call {t : Token} {f : Function} (h : t.kind = .word f.name) :
    t.kind.Denotes (.call f) := by
  rw [h]
  exact .function f

theorem denotes_field {t : Token} {chain : List String} (h : t.kind = .field chain) :
    t.kind.Denotes (.field chain) := by
  rw [h]
  exact .field chain

theorem simpleOperand_eq_ok_iff {t : Token} {o : Operand} :
    simpleOperand t = .ok o ↔ t.kind.Denotes o := by
  constructor
  · intro h
    unfold simpleOperand at h
    dsimp only at h
    split at h
    · rename_i kind
      cases h
      rw [kind]
      exact .dot
    · rename_i kind
      cases h
      rw [kind]
      exact .field _
    · rename_i kind
      split at h
      · rename_i unnamed
        cases h
        rw [kind, unnamed]
        exact .root _
      · cases h
    · rename_i kind
      cases h
      rw [kind]
      exact .literal _
    · rename_i kind
      rw [kind]
      split at h
      · rename_i yes
        cases h
        rw [yes]
        exact .yes
      · split at h
        · rename_i no
          cases h
          rw [no]
          exact .no
        · split at h
          · rename_i f found
            cases h
            rw [← Function.name_of_ofName? found]
            exact .function f
          · split at h <;> cases h
    all_goals cases h
  · intro h
    obtain ⟨kind, spaced, offset⟩ := t
    cases h with
    | function f =>
      have known := f.name_notMem
      simp only [List.mem_cons, not_or] at known
      simp [simpleOperand, known.1, known.2.1, Function.ofName?_name]
    | _ => simp [simpleOperand]

/-- Nothing can be attached to a token that denotes an operand by itself. -/
theorem not_joins_of_denotes {t : Token} {o : Operand} (before : List Token) {us : List Token}
    (h : t.kind.Denotes o) : ¬ Joins (before ++ [t]) us := by
  rintro ⟨⟨p, last, closes⟩, -⟩
  rw [List.getLast?_concat] at last
  cases last
  rw [closes] at h
  cases h

/-! ## Cutting at pipes and parentheses -/

/-- Tokens put in front of those that were cut off. -/
def prepend {α : Type} (ts : List Token) (cut : List Token × α) : List Token × α :=
  (ts ++ cut.1, cut.2)

@[simp] theorem prepend_nil {α : Type} : prepend (α := α) [] = id := rfl

@[simp] theorem prepend_comp_prepend {α : Type} (ts us : List Token) :
    prepend (α := α) ts ∘ prepend us = prepend (ts ++ us) := by
  funext cut
  simp [prepend]

@[simp] theorem prepend_prepend {α : Type} (ts us : List Token) (cut : List Token × α) :
    prepend ts (prepend us cut) = prepend (ts ++ us) cut :=
  congrFun (prepend_comp_prepend ts us) cut

/-- Counting passes over the tokens when it is within parentheses. -/
structure Balanced (ts : List Token) : Prop where
  cutPipe : ∀ depth rest,
    cutPipe (depth + 1) (ts ++ rest) = prepend ts (cutPipe (depth + 1) rest)
  cutParen? : ∀ depth rest,
    cutParen? depth (ts ++ rest) = (cutParen? depth rest).map (prepend ts)

/-- Counting passes over the tokens everywhere: there is no pipe among them outside parentheses. -/
structure Unbroken (ts : List Token) : Prop extends Balanced ts where
  cutPipe_zero : ∀ rest, Template.cutPipe 0 (ts ++ rest) = prepend ts (Template.cutPipe 0 rest)

section Cut

variable {t left right : Token} {ts us : List Token}

theorem Balanced.append (hts : Balanced ts) (hus : Balanced us) : Balanced (ts ++ us) where
  cutPipe depth rest := by
    rw [List.append_assoc, hts.cutPipe, hus.cutPipe, prepend_prepend]
  cutParen? depth rest := by
    rw [List.append_assoc, hts.cutParen?, hus.cutParen?, Option.map_map, prepend_comp_prepend]

theorem Unbroken.nil : Unbroken [] where
  cutPipe _ _ := rfl
  cutParen? _ _ := by simp
  cutPipe_zero _ := rfl

theorem Unbroken.append (hts : Unbroken ts) (hus : Unbroken us) : Unbroken (ts ++ us) where
  toBalanced := hts.toBalanced.append hus.toBalanced
  cutPipe_zero rest := by
    rw [List.append_assoc, hts.cutPipe_zero, hus.cutPipe_zero, prepend_prepend]

theorem Balanced.pipe (h : t.kind = .pipe) : Balanced [t] where
  cutPipe depth rest := by
    rw [List.singleton_append, Template.cutPipe, h]
    rfl
  cutParen? depth rest := by
    rw [List.singleton_append, Template.cutParen?, h]
    rfl

/-- A token that denotes an operand is neither a parenthesis nor a pipe. -/
theorem Unbroken.denotes {o : Operand} (h : t.kind.Denotes o) : Unbroken [t] where
  cutPipe depth rest := by
    rw [List.singleton_append, Template.cutPipe]
    generalize t.kind = kind at h
    cases h <;> rfl
  cutParen? depth rest := by
    rw [List.singleton_append, Template.cutParen?]
    generalize t.kind = kind at h
    cases h <;> rfl
  cutPipe_zero rest := by
    rw [List.singleton_append, Template.cutPipe]
    generalize t.kind = kind at h
    cases h <;> rfl

/-- Pipes do not count in parentheses. -/
theorem Unbroken.parens (hl : left.kind = .leftParen) (hts : Balanced ts)
    (hr : right.kind = .rightParen) : Unbroken (left :: (ts ++ [right])) := by
  have cut (depth : Nat) (rest : List Token) :
      cutPipe depth (left :: (ts ++ [right]) ++ rest)
        = prepend (left :: (ts ++ [right])) (cutPipe depth rest) := by
    rw [List.cons_append, List.append_assoc, cutPipe, hl]
    have closes : cutPipe (depth + 1) ([right] ++ rest) = prepend [right] (cutPipe depth rest) := by
      rw [List.singleton_append, cutPipe, hr]
      rfl
    simp only [hts.cutPipe, closes, prepend_prepend]
    rfl
  refine ⟨⟨fun depth rest => cut (depth + 1) rest, fun depth rest => ?_⟩, cut 0⟩
  rw [List.cons_append, List.append_assoc, cutParen?, hl]
  have closes : cutParen? (depth + 1) ([right] ++ rest)
      = (cutParen? depth rest).map (prepend [right]) := by
    rw [List.singleton_append, cutParen?, hr]
    rfl
  simp only [hts.cutParen?, closes, Option.map_map, prepend_comp_prepend]
  rfl

theorem Attaches.unbroken {chain : List String} (h : Attaches chain ts) : Unbroken ts := by
  cases h with
  | none => exact .nil
  | chain kind _ => exact .denotes (denotes_field kind)

end Cut

/-- What is known of how the cuts treat the tokens of a phrase. -/
def Phrase.Skips : Phrase → List Token → Prop
  | .pipeline _, ts => Balanced ts
  | _, ts => Unbroken ts

/-- The cuts pass over the tokens of a phrase as a whole. -/
theorem Spells.skips {r : Reading} {φ : Phrase} {ts : List Token} (h : Spells r φ ts) :
    φ.Skips ts := by
  induction h with
  | token denotes => exact .denotes denotes
  | @sub left right cs chain ts us hl _ hr attaches ih =>
    have whole := (Unbroken.parens hl ih hr).append attaches.unbroken
    rw [List.cons_append, List.append_assoc, List.singleton_append] at whole
    exact whole
  | nil => exact .nil
  | cons _ _ _ iho ihos => exact Unbroken.append iho ihos
  | call kind _ ih => exact (Unbroken.denotes (denotes_call kind)).append ih
  | value _ _ ih => exact ih
  | single _ ih => exact Unbroken.toBalanced ih
  | pipe _ kind _ ihc ihcs =>
    exact (Unbroken.toBalanced ihc).append ((Balanced.pipe kind).append ihcs)

/-! ## What a phrase spells is read -/

section Read

variable {t : Token} {ts us : List Token}

theorem takeChain_append {chain : List String} {p : Token} (h : Attaches chain us)
    (hp : p.kind = .rightParen) {rest : List Token} (apart : ¬ Joins (ts ++ p :: us) rest) :
    takeChain (us ++ rest) = (chain, rest) := by
  cases h with
  | chain kind unspaced => simp [takeChain, kind, unspaced]
  | none =>
    cases rest with
    | nil => rfl
    | cons t rest =>
      simp only [List.nil_append, takeChain]
      split
      · rename_i chain kind
        by_cases spaced : t.spaced
        · simp [spaced]
        · exact absurd ⟨⟨p, by simp, hp⟩, t, rest, chain, rfl, kind, by simpa using spaced⟩ apart
      · rfl

theorem readOperands_of_ne_leftParen (h : t.kind ≠ .leftParen) :
    readOperands (t :: ts) = do
      let o ← simpleOperand t
      return o :: (← readOperands ts) := by
  rw [readOperands]
  split
  · rename_i leftParen
    exact absurd leftParen h
  · rfl

theorem readOperands_denotes {o : Operand} (h : t.kind.Denotes o) :
    readOperands (t :: ts) = do return o :: (← readOperands ts) := by
  have noParen : t.kind ≠ .leftParen := by
    intro leftParen
    rw [leftParen] at h
    cases h
  rw [readOperands_of_ne_leftParen noParen, simpleOperand_eq_ok_iff.mpr h]
  rfl

theorem readOperands_unclosed (h : t.kind = .leftParen) (cut : cutParen? 0 ts = none) :
    readOperands (t :: ts) = .error ⟨t.offset, .unclosedLeftParen⟩ := by
  rw [readOperands]
  split
  · split
    · rfl
    · rename_i some
      rw [cut] at some
      cases some
  · rename_i other
    exact absurd h other

theorem readOperands_leftParen (h : t.kind = .leftParen) {inside rest : List Token}
    (cut : cutParen? 0 ts = some (inside, rest)) :
    readOperands (t :: ts) = do
      let commands ← readPipeline t.offset inside
      return .sub commands (takeChain rest).1 :: (← readOperands (takeChain rest).2) := by
  rw [readOperands]
  split
  · split
    · rename_i none
      rw [cut] at none
      cases none
    · rename_i i r some
      rw [cut] at some
      cases some
      rfl
  · rename_i other
    exact absurd h other

theorem readCommands_of_cutPipe_none {last : Nat} {command : List Token}
    (cut : cutPipe 0 ts = (command, none)) :
    readCommands last ts = do return [← readCommand last command] := by
  rw [readCommands]
  split
  · rename_i c same
    rw [cut] at same
    cases same
    rfl
  · rename_i c p r other
    rw [cut] at other
    cases other

theorem readCommands_of_cutPipe_some {last : Nat} {command rest : List Token} {pipe : Token}
    (cut : cutPipe 0 ts = (command, some (pipe, rest))) :
    readCommands last ts = do
      let c ← readCommand pipe.offset command
      return c :: (← readCommands last rest) := by
  rw [readCommands]
  split
  · rename_i c other
    rw [cut] at other
    cases other
  · rename_i c p r same
    rw [cut] at same
    cases same
    rfl

end Read

/-- What reading the tokens of a phrase gives. -/
def Phrase.IsRead : Phrase → List Token → Prop
  | .operand o, ts => ∀ rest, ¬ Joins ts rest →
      readOperands (ts ++ rest) = do return o :: (← readOperands rest)
  | .operands os, ts => readOperands ts = .ok os
  | .command c, ts => ∀ offset, readCommand offset ts = .ok c
  | .pipeline cs, ts => ∀ offset, readPipeline offset ts = .ok cs ∧ readCommands offset ts = .ok cs

theorem Spells.ne_nil {r : Reading} {φ : Phrase} {ts : List Token} (h : Spells r φ ts)
    (some : ∀ os, φ ≠ .operands os) : ts ≠ [] := by
  induction h with
  | nil | cons => exact absurd rfl (some _)
  | value _ _ ih | single _ ih => exact ih (by simp)
  | token | sub | call | pipe => simp

theorem readPipeline_of_readCommands {ts : List Token} {cs : Pipeline} (some : ts ≠ [])
    (read : ∀ offset, readCommands offset ts = .ok cs) (offset : Nat) :
    readPipeline offset ts = .ok cs ∧ readCommands offset ts = .ok cs := by
  rw [readPipeline, List.getLast?_eq_some_getLast some]
  exact ⟨read _, read offset⟩

/-- The readers find every phrase in its longest reading. -/
theorem Spells.isRead {φ : Phrase} {ts : List Token} (h : Spells .longest φ ts) :
    φ.IsRead ts := by
  induction h with
  | token denotes => exact fun rest _ => readOperands_denotes denotes
  | @sub left right cs chain ts us hl spells hr attaches ih =>
    intro rest apart
    have closes : cutParen? 0 (right :: (us ++ rest)) = some ([], us ++ rest) := by
      rw [cutParen?, hr]
      rfl
    have cut : cutParen? 0 (ts ++ right :: (us ++ rest)) = some (ts, us ++ rest) := by
      rw [spells.skips.cutParen?, closes]
      simp [prepend]
    have chained : takeChain (us ++ rest) = (chain, rest) := by
      rw [← List.cons_append] at apart
      exact takeChain_append attaches hr apart
    rw [List.cons_append, List.append_assoc, List.cons_append, readOperands_leftParen hl cut,
      chained, (ih left.offset).1]
    rfl
  | nil => rw [Phrase.IsRead, readOperands]
  | cons _ _ apart iho ihos =>
    rw [Phrase.IsRead, iho _ (apart rfl), ihos]
    rfl
  | call kind _ ih =>
    intro offset
    rw [readCommand, readOperands_denotes (denotes_call kind), ih]
    rfl
  | @value o ts spells noCall ih =>
    -- nothing follows, so no chain is left out
    intro offset
    have read : readOperands ts = .ok [o] := by
      have read := ih [] (by simp [Joins])
      rw [List.append_nil, readOperands] at read
      exact read
    obtain ⟨t, ts, rfl⟩ := List.exists_cons_of_ne_nil (spells.ne_nil (by simp))
    rw [readCommand, read]
    cases o with
    | call f => exact absurd rfl (noCall f)
    | _ => rfl
  | @single c ts spells ih =>
    have cut : cutPipe 0 ts = (ts, none) := by
      have cut := (Unbroken.cutPipe_zero spells.skips) []
      simpa [prepend, cutPipe] using cut
    have read (offset : Nat) : readCommands offset ts = .ok [c] := by
      rw [readCommands_of_cutPipe_none cut, ih]
      rfl
    exact readPipeline_of_readCommands (spells.ne_nil (by simp)) read
  | @pipe c cs pipe ts us spells kind _ ihc ihcs =>
    have cut : cutPipe 0 (ts ++ pipe :: us) = (ts, some (pipe, us)) := by
      rw [Unbroken.cutPipe_zero spells.skips, cutPipe, kind]
      simp [prepend]
    have read (offset : Nat) : readCommands offset (ts ++ pipe :: us) = .ok (c :: cs) := by
      rw [readCommands_of_cutPipe_some cut, ihc, (ihcs offset).2]
      rfl
    exact readPipeline_of_readCommands (by simp) read

/-! ## What is read spells a phrase -/

section Cuts

variable {ts : List Token}

/-- The tokens up to a pipe, the pipe and the tokens after it are all the tokens, in order. -/
theorem append_cutPipe (depth : Nat) (ts : List Token) :
    (cutPipe depth ts).1 ++ (cutPipe depth ts).2.elim [] (fun cut => cut.1 :: cut.2) = ts ∧
      ∀ cut ∈ (cutPipe depth ts).2, cut.1.kind = .pipe := by
  induction ts generalizing depth with
  | nil => exact ⟨rfl, by simp [cutPipe]⟩
  | cons t ts ih =>
    have goOn (depth : Nat) := And.intro (congrArg (t :: ·) (ih depth).1) (ih depth).2
    rw [cutPipe]
    split
    · exact goOn _
    · exact goOn _
    · rename_i kind
      split
      · refine ⟨rfl, fun cut h => ?_⟩
        cases h
        exact kind
      · exact goOn _
    · exact goOn _

theorem eq_of_cutParen? {depth : Nat} {inside rest : List Token}
    (h : cutParen? depth ts = some (inside, rest)) :
    ∃ right : Token, right.kind = .rightParen ∧ ts = inside ++ right :: rest := by
  induction ts generalizing depth inside with
  | nil => cases h
  | cons t ts ih =>
    have goOn (depth : Nat) (h : (cutParen? depth ts).map (prepend [t]) = some (inside, rest)) :
        ∃ right : Token, right.kind = .rightParen ∧ t :: ts = inside ++ right :: rest := by
      obtain ⟨⟨i, r⟩, found, eq⟩ := Option.map_eq_some_iff.mp h
      cases eq
      obtain ⟨right, closes, rfl⟩ := ih found
      exact ⟨right, closes, rfl⟩
    rw [cutParen?] at h
    split at h
    · exact goOn _ h
    · rename_i closes
      split at h
      · cases h
        exact ⟨t, closes, rfl⟩
      · exact goOn _ h
    · exact goOn _ h

/-- The chain taken after a parenthesis is the longest one. -/
theorem exists_takeChain (ts : List Token) :
    ∃ us, Attaches (takeChain ts).1 us ∧ ts = us ++ (takeChain ts).2 ∧
      ∀ before right, ¬ Joins (before ++ right :: us) (takeChain ts).2 := by
  unfold takeChain
  split
  · exact ⟨[], .none, rfl, by simp [Joins]⟩
  · rename_i t ts
    split
    · rename_i chain kind
      split
      · rename_i spaced
        exact ⟨[], .none, rfl, by simp [Joins, spaced]⟩
      · rename_i unspaced
        refine ⟨[t], .chain kind (by simpa using unspaced), rfl, fun before right => ?_⟩
        simp [Joins, kind]
    · rename_i other
      refine ⟨[], .none, rfl, fun before right joins => ?_⟩
      obtain ⟨-, u, us, chain, eq, kind, -⟩ := joins
      cases eq
      exact other chain kind

end Cuts

/-- The command that operands make is spelled by their tokens. -/
theorem Spells.commandOf {r : Reading} {offset : Nat} {os : List Operand} {c : Command}
    {ts : List Token} (h : Spells r (.operands os) ts) (made : commandOf offset os = .ok c) :
    Spells r (.command c) ts := by
  unfold Template.commandOf at made
  split at made
  · cases made
  · cases made
    cases h with
    | @cons _ _ word us operand operands =>
      cases operand with
      | @token t _ denotes =>
        generalize kind : t.kind = k at denotes
        cases denotes
        exact .call kind operands
  · rename_i o noCall
    cases made
    cases h with
    | cons operand none =>
      cases none
      rw [List.append_nil]
      exact .value operand noCall
  · cases made

/-- The readers accept only what the grammar has, and return its tree. -/
theorem spells_of_read :
    (∀ last ts cs, readCommands last ts = .ok cs → Spells .longest (.pipeline cs) ts) ∧
    (∀ offset ts c, readCommand offset ts = .ok c → Spells .longest (.command c) ts) ∧
    (∀ ts os, readOperands ts = .ok os → Spells .longest (.operands os) ts) ∧
    (∀ offset ts cs, readPipeline offset ts = .ok cs → Spells .longest (.pipeline cs) ts) := by
  refine readCommands.mutual_induct
    (fun last ts => ∀ cs, readCommands last ts = .ok cs → Spells .longest (.pipeline cs) ts)
    (fun offset ts => ∀ c, readCommand offset ts = .ok c → Spells .longest (.command c) ts)
    (fun ts => ∀ os, readOperands ts = .ok os → Spells .longest (.operands os) ts)
    (fun offset ts => ∀ cs, readPipeline offset ts = .ok cs → Spells .longest (.pipeline cs) ts)
    ?lastCommand ?moreCommands ?noCommand ?command ?noOperand ?unclosed ?sub ?token ?empty ?pipeline
  case lastCommand =>
    intro last ts command cut ih cs h
    obtain ⟨all, -⟩ := append_cutPipe 0 ts
    rw [readCommands_of_cutPipe_none cut] at h
    obtain ⟨c, read, returned⟩ := bind_eq_ok.mp h
    cases returned
    rw [cut, Option.elim_none, List.append_nil] at all
    rw [← all]
    exact .single (ih c read)
  case moreCommands =>
    intro last ts command pipe rest cut ihCommand ihRest cs h
    obtain ⟨all, pipes⟩ := append_cutPipe 0 ts
    rw [readCommands_of_cutPipe_some cut] at h
    obtain ⟨c, read, h⟩ := bind_eq_ok.mp h
    obtain ⟨cs, readRest, returned⟩ := bind_eq_ok.mp h
    cases returned
    rw [cut, Option.elim_some] at all
    rw [← all]
    exact .pipe (ihCommand c read) (pipes (pipe, rest) (by rw [cut]; rfl)) (ihRest cs readRest)
  case noCommand =>
    intro offset c h
    rw [readCommand] at h
    cases h
  case command =>
    intro offset t ts ih c h
    rw [readCommand] at h
    obtain ⟨os, read, made⟩ := bind_eq_ok.mp h
    exact (ih os read).commandOf made
  case noOperand =>
    intro os h
    rw [readOperands] at h
    cases h
    exact .nil
  case unclosed =>
    intro t ts kind cut os h
    rw [readOperands_unclosed kind cut] at h
    cases h
  case sub =>
    intro t ts kind inside rest cut ihInside ihRest os h
    rw [readOperands_leftParen kind cut] at h
    obtain ⟨commands, read, h⟩ := bind_eq_ok.mp h
    obtain ⟨others, readRest, returned⟩ := bind_eq_ok.mp h
    cases returned
    obtain ⟨right, closes, all⟩ := eq_of_cutParen? cut
    obtain ⟨us, attaches, rest_eq, apart⟩ := exists_takeChain rest
    have operand := Spells.sub kind (ihInside commands read) closes attaches
    have whole := operand.cons (ihRest others readRest) fun _ => apart (t :: inside) right
    rw [List.cons_append, List.append_assoc, List.cons_append, ← rest_eq, ← all] at whole
    exact whole
  case token =>
    intro t ts kind ih os h
    rw [readOperands_of_ne_leftParen kind] at h
    obtain ⟨o, simple, h⟩ := bind_eq_ok.mp h
    obtain ⟨others, read, returned⟩ := bind_eq_ok.mp h
    cases returned
    have denotes := simpleOperand_eq_ok_iff.mp simple
    exact .cons (.token denotes) (ih others read) fun _ => not_joins_of_denotes [] denotes
  case empty =>
    intro offset ts empty cs h
    rw [readPipeline, empty] at h
    cases h
  case pipeline =>
    intro offset ts t last ih cs h
    rw [readPipeline, last] at h
    exact ih cs h

/-- **The reader of pipelines decides the grammar.** -/
theorem readPipeline_eq_ok_iff {offset : Nat} {ts : List Token} {cs : Pipeline} :
    readPipeline offset ts = .ok cs ↔ Spells .longest (.pipeline cs) ts :=
  ⟨spells_of_read.2.2.2 offset ts cs, fun h => (h.isRead offset).1⟩

/-! ## The longest reading -/

/-- What the longest reading spells, the other spells too. -/
theorem Spells.any {φ : Phrase} {ts : List Token} (h : Spells .longest φ ts) :
    Spells .any φ ts := by
  induction h with
  | token denotes => exact .token denotes
  | sub hl _ hr attaches ih => exact .sub hl ih hr attaches
  | nil => exact .nil
  | cons _ _ _ iho ihos => exact .cons iho ihos nofun
  | call kind _ ih => exact .call kind ih
  | value _ noCall ih => exact .value ih noCall
  | single _ ih => exact .single ih
  | pipe _ kind _ ihc ihcs => exact .pipe ihc kind ihcs

/-- A chain that could belong to the operand before becomes a part of it. -/
theorem Spells.join {o : Operand} {os : List Operand} {ts us : List Token}
    (ho : Spells .longest (.operand o) ts) (hos : Spells .longest (.operands os) us)
    (joins : Joins ts us) : ∃ os, Spells .longest (.operands os) (ts ++ us) := by
  cases ho with
  | token denotes => exact absurd joins (not_joins_of_denotes [] denotes)
  | @sub left right cs chain inside behind hl hcs hr attaches =>
    cases attaches with
    | @chain _ t kind _ =>
      have apart : ¬ Joins (left :: (inside ++ [right]) ++ [t]) us :=
        not_joins_of_denotes _ (denotes_field kind)
      exact absurd (by simpa using joins) apart
    | none =>
      obtain ⟨-, t, rest, chain, begins, kind, unspaced⟩ := joins
      cases hos with
      | nil => cases begins
      | @cons _ os' _ others next operands _ =>
        cases next with
        | sub hl' _ _ _ =>
          cases begins
          rw [kind] at hl'
          cases hl'
        | token denotes =>
          cases begins
          have operand := Spells.sub hl hcs hr (.chain kind unspaced)
          have apart : ¬ Joins (left :: (inside ++ [right]) ++ [t]) others :=
            not_joins_of_denotes _ denotes
          rw [List.cons_append, List.append_assoc, List.singleton_append] at apart
          have whole := operand.cons operands fun _ => apart
          exact ⟨.sub cs chain :: os', by simpa using whole⟩

/-- A phrase of the same sort in the longest reading. -/
def Phrase.IsLongest : Phrase → List Token → Prop
  | .operand o, ts => ∃ o', Spells .longest (.operand o') ts ∧ ∀ f, o' = .call f → o = .call f
  | .operands _, ts => ∃ os, Spells .longest (.operands os) ts
  | .command _, ts => ∃ c, Spells .longest (.command c) ts
  | .pipeline _, ts => ∃ cs, Spells .longest (.pipeline cs) ts

/-- Tokens that spell a phrase spell one in the longest reading as well. -/
theorem Spells.longest {r : Reading} {φ : Phrase} {ts : List Token} (h : Spells r φ ts) :
    φ.IsLongest ts := by
  induction h with
  | token denotes => exact ⟨_, .token denotes, fun _ => id⟩
  | sub hl _ hr attaches ih =>
    obtain ⟨cs, spells⟩ := ih
    exact ⟨_, .sub hl spells hr attaches, nofun⟩
  | nil => exact ⟨_, .nil⟩
  | @cons o os ts us _ _ _ iho ihos =>
    obtain ⟨o', operand, -⟩ := iho
    obtain ⟨os', operands⟩ := ihos
    by_cases joins : Joins ts us
    · exact operand.join operands joins
    · exact ⟨_, .cons operand operands fun _ => joins⟩
  | call kind _ ih =>
    obtain ⟨os, spells⟩ := ih
    exact ⟨_, .call kind spells⟩
  | value _ noCall ih =>
    obtain ⟨o', spells, call⟩ := ih
    exact ⟨_, .value spells fun f isCall => noCall f (call f isCall)⟩
  | single _ ih =>
    obtain ⟨c, spells⟩ := ih
    exact ⟨_, .single spells⟩
  | pipe _ kind _ ihc ihcs =>
    obtain ⟨c, command⟩ := ihc
    obtain ⟨cs, pipeline⟩ := ihcs
    exact ⟨_, .pipe command kind pipeline⟩

end MetricPath.Template
