import Mathlib.Tactic.ByContra
import Mathlib.Tactic.SplitIfs
import MetricPath.Pattern.Parser
import MetricPath.Proofs.Split

/-!
# Reading a pattern with something behind it

An anchored pattern is the text of a pattern between `^(?:` and `)$`.  Here every scanner of the
notation is run on a text and on the same text with `)$` behind it.  Where it succeeds on the longer
text, it succeeds on the shorter one with the same result, and what it leaves differs in the ending
only; or else it has gone astray, that is, it has taken a part of the ending for something of its
own (`Agrees`).  How a scanner can go astray is said case by case, and mostly it has used up the
parenthesis then (`spent`).

A comment that the text leaves open swallows the ending.  From there on both texts are the same,
which `Extended` allows.
-/

namespace MetricPath.Pattern

open MetricPath.Unicode (CharSet)

/-! ## Texts -/

/-- The text on the right is the one on the left, with or without the ending of an anchored
pattern. -/
inductive Extended : List Char → List Char → Prop
  | nil : Extended [] []
  | ending : Extended [] [')', '$']
  | cons (c : Char) {cs cs' : List Char} : Extended cs cs' → Extended (c :: cs) (c :: cs')

variable {α β : Type} {f : Flags} {c : Char} {cs cs' ds ds' rest rest' : List Char} {a : α}

theorem Extended.refl : (cs : List Char) → Extended cs cs
  | [] => .nil
  | c :: cs => .cons c (.refl cs)

theorem extended_ending : (cs : List Char) → Extended cs (cs ++ [')', '$'])
  | [] => .ending
  | c :: cs => .cons c (extended_ending cs)

theorem Extended.tail (h : Extended (c :: cs) (c :: cs')) : Extended cs cs' := by
  rcases h with _ | _ | ⟨_, h⟩
  exact h

theorem Extended.dropWhile (h : Extended cs cs') {p : Char → Bool} (stops : p ')' = false) :
    Extended (cs.dropWhile p) (cs'.dropWhile p) := by
  induction h with
  | nil => exact .nil
  | ending =>
    rw [List.dropWhile_cons_of_neg (by simp [stops])]
    exact .ending
  | cons c h ih =>
    rw [List.dropWhile_cons, List.dropWhile_cons]
    split
    · exact ih
    · exact .cons c h

theorem Extended.takeWhile (h : Extended cs cs') {p : Char → Bool} (stops : p ')' = false) :
    cs'.takeWhile p = cs.takeWhile p := by
  induction h with
  | nil => rfl
  | ending => rw [List.takeWhile_cons_of_neg (by simp [stops]), List.takeWhile_nil]
  | cons c h ih => rw [List.takeWhile_cons, List.takeWhile_cons, ih]

theorem Extended.dropSpacing (h : Extended cs cs') (inComment : Bool) :
    Extended (dropSpacing inComment cs) (dropSpacing inComment cs') := by
  induction h generalizing inComment with
  | nil => rw [Pattern.dropSpacing]; exact .nil
  | ending =>
    rcases inComment with _ | _
    · exact .ending
    · exact .nil
  | cons c h ih =>
    rcases inComment with _ | _
    · rw [Pattern.dropSpacing, Pattern.dropSpacing]
      split_ifs
      · exact ih false
      · exact ih true
      · exact .cons c h
    · exact ih _

theorem Extended.skip (h : Extended cs cs') (f : Flags) : Extended (f.skip cs) (f.skip cs') := by
  rw [Flags.skip, Flags.skip]
  split
  · exact h.dropSpacing false
  · exact h

theorem dropSpacing_suffix (inComment : Bool) : dropSpacing inComment cs <:+ cs := by
  induction cs generalizing inComment with
  | nil => rw [dropSpacing]
  | cons c cs ih =>
    have ih {inComment} := (ih inComment).trans (List.suffix_cons c cs)
    rcases inComment with _ | _
    · rw [dropSpacing]
      split_ifs
      · exact ih
      · exact ih
      · exact List.suffix_rfl
    · exact ih

theorem skip_suffix (f : Flags) (cs : List Char) : f.skip cs <:+ cs := by
  rw [Flags.skip]
  split
  · exact dropSpacing_suffix false
  · exact List.suffix_rfl

theorem skip_nil (f : Flags) : f.skip [] = [] := List.suffix_nil.mp (skip_suffix f [])

theorem skip_of_spent (f : Flags) (h : rest <:+ ['$']) : f.skip rest = ['$'] ∨ f.skip rest = [] :=
  (List.suffix_cons_iff.mp ((skip_suffix f rest).trans h)).imp_right List.suffix_nil.mp

theorem skip_brace (f : Flags) (cs : List Char) : f.skip ('\x7b' :: cs) = '\x7b' :: cs := by
  rw [Flags.skip]
  split <;> rfl

theorem skip_ending (f : Flags) : f.skip [')', '$'] = [')', '$'] := by
  rw [Flags.skip]
  split <;> rfl

/-- What two runs leave of their texts `cs` and `cs'`: ends that differ in the ending only. -/
structure Left (cs cs' rest rest' : List Char) : Prop where
  extended : Extended rest rest'
  suffix : rest <:+ cs
  suffix' : rest' <:+ cs'

namespace Left

theorem all (h : Extended cs cs') : Left cs cs' cs cs' := ⟨h, List.suffix_rfl, List.suffix_rfl⟩

theorem trans (h : Left cs cs' ds ds') (h' : Left ds ds' rest rest') : Left cs cs' rest rest' :=
  ⟨h'.extended, h'.suffix.trans h.suffix, h'.suffix'.trans h.suffix'⟩

theorem tail (h : Left cs cs' (c :: rest) (c :: rest')) : Left cs cs' rest rest' :=
  ⟨h.extended.tail, (List.suffix_cons c rest).trans h.suffix,
    (List.suffix_cons c rest').trans h.suffix'⟩

theorem skip (h : Left cs cs' rest rest') (f : Flags) : Left cs cs' (f.skip rest) (f.skip rest') :=
  ⟨h.extended.skip f, (skip_suffix f rest).trans h.suffix, (skip_suffix f rest').trans h.suffix'⟩

theorem dropWhile (h : Left cs cs' rest rest') {p : Char → Bool} (stops : p ')' = false) :
    Left cs cs' (rest.dropWhile p) (rest'.dropWhile p) :=
  ⟨h.extended.dropWhile stops, (List.dropWhile_suffix p).trans h.suffix,
    (List.dropWhile_suffix p).trans h.suffix'⟩

theorem of_cons (c : Char) (h : Extended cs cs') : Left (c :: cs) (c :: cs') cs cs' :=
  (all (.cons c h)).tail

end Left

/-- After what does not count, nothing is left, or the ending, or both texts have the same character
next. -/
@[elab_as_elim]
theorem Extended.skip_cases {P : List Char → List Char → Prop} (h : Extended cs cs') (f : Flags)
    (nil : P [] []) (ending : [')', '$'] <:+ cs' → P [] [')', '$'])
    (cons : ∀ c ds ds', Left cs cs' (c :: ds) (c :: ds') → P (c :: ds) (c :: ds')) :
    P (f.skip cs) (f.skip cs') := by
  have left := (Left.all h).skip f
  generalize f.skip cs = ds at *
  generalize f.skip cs' = ds' at *
  rcases left.extended with _ | _ | ⟨c, _⟩
  · exact nil
  · exact ending left.suffix'
  · exact cons c _ _ left

/-! ## Results -/

/-- What two runs of a search for something have found: nothing, or the same with what is left of
their texts `cs` and `cs'`. -/
inductive Finds (cs cs' : List Char) : Option (α × List Char) → Option (α × List Char) → Prop
  | none : Finds cs cs' none none
  | some (a : α) {rest rest' : List Char} : Left cs cs' rest rest' →
    Finds cs cs' (some (a, rest)) (some (a, rest'))

namespace Finds

variable {x x' : Option (α × List Char)}

@[elab_as_elim]
theorem elim {P : Option (α × List Char) → Option (α × List Char) → Prop} (h : Finds cs cs' x x')
    (absent : P Option.none Option.none)
    (found : ∀ a rest rest', Left cs cs' rest rest' →
      P (Option.some (a, rest)) (Option.some (a, rest'))) : P x x' := by
  rcases h with _ | ⟨a, left⟩
  · exact absent
  · exact found a _ _ left

theorem imp (h : Finds ds ds' x x') (left : Left cs cs' ds ds') : Finds cs cs' x x' := by
  rcases h with _ | ⟨a, of⟩
  · exact .none
  · exact .some a (left.trans of)

theorem suffix (h : Finds cs cs' x x') (found : x' = Option.some (a, rest')) : rest' <:+ cs' := by
  rcases h with _ | ⟨_, left⟩
  · cases found
  · cases found
    exact left.suffix'

theorem map (h : Finds cs cs' x x') (g : α → β) :
    Finds cs cs' (x.map fun p => (g p.1, p.2)) (x'.map fun p => (g p.1, p.2)) := by
  rcases h with _ | ⟨a, left⟩
  · exact .none
  · exact .some (g a) left

end Finds

/-- What two runs say of the beginnings of their texts, with what follows. -/
structure Begins (cs cs' : List Char) (x x' : α × List Char) : Prop where
  eq : x.1 = x'.1
  left : Left cs cs' x.2 x'.2

@[elab_as_elim]
theorem Begins.elim {P : α × List Char → α × List Char → Prop} {x x' : α × List Char}
    (h : Begins cs cs' x x')
    (each : ∀ a rest rest', Left cs cs' rest rest' → P (a, rest) (a, rest')) : P x x' := by
  obtain ⟨a, rest⟩ := x
  obtain ⟨a', rest'⟩ := x'
  obtain ⟨rfl, left⟩ := h
  exact each a rest rest' left

/-- If the run on the longer text `cs'` succeeds, so does the run on the shorter one `cs`, and with
the same result, unless the first has gone astray. -/
def Agrees (astray : α → List Char → Prop) (cs cs' : List Char)
    (x x' : Except Fault (α × List Char)) : Prop :=
  ∀ a rest', x' = .ok (a, rest') →
    (∃ rest, x = .ok (a, rest) ∧ Left cs cs' rest rest') ∨ (rest' <:+ cs' ∧ astray a rest')

/-- Not astray in any case. -/
def never (_ : α) (_ : List Char) : Prop := False

/-- Astray with at most the dollar left. -/
def spent (_ : α) (rest : List Char) : Prop := rest <:+ ['$']

namespace Agrees

variable {D : α → List Char → Prop} {E : β → List Char → Prop}
  {x x' : Except Fault (α × List Char)} {k k' : α × List Char → Except Fault (β × List Char)}

theorem error (e : Fault) : Agrees D cs cs' x (.error e) := fun _ _ h => by cases h

theorem ok (left : Left cs cs' rest rest') :
    Agrees D cs cs' (.ok (a, rest)) (.ok (a, rest')) := by
  rintro _ _ ⟨⟩
  exact .inl ⟨rest, rfl, left⟩

theorem astray (suffix : rest' <:+ cs') (h : D a rest') : Agrees D cs cs' x (.ok (a, rest')) := by
  rintro _ _ ⟨⟩
  exact .inr ⟨suffix, h⟩

theorem within (h : Agrees D ds ds' x x') (left : Left cs cs' ds ds') : Agrees D cs cs' x x' := by
  intro a rest' eq
  obtain ⟨rest, alone, of⟩ | ⟨suffix, gone⟩ := h a rest' eq
  · exact .inl ⟨rest, alone, left.trans of⟩
  · exact .inr ⟨suffix.trans left.suffix', gone⟩

theorem imp {D' : α → List Char → Prop} (h : Agrees D cs cs' x x')
    (more : ∀ a rest', D a rest' → D' a rest') : Agrees D' cs cs' x x' :=
  fun a rest' eq => (h a rest' eq).imp_right (And.imp_right (more a rest'))

theorem bind (h : Agrees D cs cs' x x')
    (go : ∀ a rest rest', Left cs cs' rest rest' →
      Agrees E cs cs' (k (a, rest)) (k' (a, rest')))
    (lost : ∀ a rest', rest' <:+ cs' → D a rest' →
      Agrees E cs cs' (x >>= k) (k' (a, rest'))) :
    Agrees E cs cs' (x >>= k) (x' >>= k') := by
  rcases x' with e | ⟨a, rest'⟩
  · exact error e
  · obtain ⟨rest, rfl, left⟩ | ⟨suffix, gone⟩ := h a rest' rfl
    · exact go a rest rest' left
    · exact lost a rest' suffix gone

/-- Without a way to go astray, only the case of success is left. -/
theorem bind_never (h : Agrees never cs cs' x x')
    (go : ∀ a rest rest', Left cs cs' rest rest' →
      Agrees E cs cs' (k (a, rest)) (k' (a, rest'))) :
    Agrees E cs cs' (x >>= k) (x' >>= k') :=
  h.bind go fun _ _ _ => False.elim

theorem map (h : Agrees D cs cs' x x') (g : α → β)
    (lost : ∀ a rest', D a rest' → E (g a) rest') :
    Agrees E cs cs' (do let (a, rest) ← x; return (g a, rest))
      (do let (a, rest) ← x'; return (g a, rest)) :=
  h.bind (fun _ _ _ left => .ok left) fun a rest' suffix gone =>
    .astray suffix (lost a rest' gone)

/-- What does not depend on the text. -/
theorem of (y : Except Fault β) (g : β → α) (left : Left cs cs' rest rest') :
    Agrees D cs cs' (do let b ← y; return (g b, rest)) (do let b ← y; return (g b, rest')) := by
  rcases y with e | b
  · exact error e
  · exact ok left

theorem astray_of (y : Except Fault β) (g : β → α) (suffix : rest' <:+ cs')
    (h : ∀ b, y = .ok b → D (g b) rest') :
    Agrees D cs cs' x (do let b ← y; return (g b, rest')) := by
  rcases y with e | b
  · exact error e
  · exact astray suffix (h b rfl)

/-- A run leaves an end of its text. -/
theorem suffix (h : Agrees D cs cs' x x') (eq : x' = .ok (a, rest')) : rest' <:+ cs' := by
  obtain ⟨rest, -, left⟩ | ⟨suffix, -⟩ := h a rest' eq
  · exact left.suffix'
  · exact suffix

end Agrees

/-! ## Searching for one character -/

theorem begins_takeMark (h : Extended cs cs') (mark : Char) (other : mark ≠ ')') :
    Begins cs cs' (takeMark mark cs) (takeMark mark cs') := by
  rcases h with _ | _ | ⟨c, h⟩
  · exact ⟨rfl, .all .nil⟩
  · rw [takeMark, takeMark, if_neg other.symm]
    exact ⟨rfl, .all .ending⟩
  · rw [takeMark, takeMark]
    split_ifs
    · exact ⟨rfl, .of_cons c h⟩
    · exact ⟨rfl, .all (.cons c h)⟩

theorem finds_cutAt? (h : Extended cs cs') (sep : Char) (other : sep ∉ [')', '$']) :
    Finds cs cs' (Text.cutAt? [sep] cs) (Text.cutAt? [sep] cs') := by
  have step (c : Char) (cs : List Char) : Text.cutAt? [sep] (c :: cs) =
      if sep = c then some ([], cs)
      else (Text.cutAt? [sep] cs).map fun p => (c :: p.1, p.2) := by
    rw [Text.cutAt?, Text.dropBeginning?]
    split_ifs <;> rfl
  induction h with
  | nil => exact .none
  | ending =>
    have nowhere : Text.cutAt? [sep] [')', '$'] = none := by
      by_contra found
      exact other (Text.mem_of_cutAt? (Option.isSome_iff_ne_none.mpr found))
    rw [nowhere]
    exact .none
  | cons c h ih =>
    rw [step, step]
    split_ifs
    · exact .some [] (.of_cons c h)
    · exact (ih.imp (.of_cons c h)).map _

theorem finds_untilBrace (h : Extended cs cs') (f : Flags) :
    Finds cs cs' (untilBrace f cs) (untilBrace f cs') := by
  induction h with
  | nil => exact .none
  | ending =>
    have nowhere : untilBrace f [')', '$'] = none := by
      rcases spaced : f.spaced <;> simp [untilBrace, spaced]
    rw [nowhere]
    exact .none
  | cons c h ih =>
    by_cases brace : c = '\x7d'
    · subst brace
      exact .some [] (.of_cons _ h)
    · rw [untilBrace, untilBrace]
      · split_ifs
        · exact ih.imp (.of_cons c h)
        · exact (ih.imp (.of_cons c h)).map _
      · exact brace
      · exact brace

/-! ## Escapes -/

theorem agrees_hexDigits (h : Extended cs cs') (f : Flags) (n value : Nat) :
    Agrees never cs cs' (hexDigits f n value cs) (hexDigits f n value cs') := by
  induction n generalizing value cs cs' with
  | zero => exact .ok (.all h)
  | succ n ih =>
    rw [hexDigits, hexDigits]
    refine h.skip_cases f (.error _) (fun _ => .error _) ?_
    intro c ds ds' left
    dsimp only
    split
    · have left := left.tail.skip f
      exact (ih left.extended _).within left
    · exact .error _

theorem agrees_hexNumber (h : Extended cs cs') (f : Flags) (count : Nat) :
    Agrees never cs cs' (hexNumber f count cs) (hexNumber f count cs') := by
  rw [hexNumber, hexNumber]
  have left := (Left.all h).skip f
  refine (begins_takeMark left.extended '\x7b' (by decide)).elim ?_
  intro brace ds ds' of
  have left := left.trans of
  rcases brace with _ | _
  · apply ((agrees_hexDigits left.extended f count 0).within left).bind_never
    intro n rest rest' left
    dsimp only
    split_ifs
    · exact .error _
    · exact .ok left
  · dsimp only
    refine (finds_untilBrace left.extended f).elim (.error _) ?_
    intro digits rest rest' of
    dsimp only
    split_ifs
    · exact .error _
    · split
      · exact .ok ((left.trans of).skip f)
      · exact .error _

/-- A character given by its code point never goes astray: a parenthesis is no digit. -/
theorem agrees_hexEscape (h : Extended cs cs') (f : Flags) (count : Nat) :
    Agrees never cs cs' (hexEscape f count cs) (hexEscape f count cs') := by
  apply (agrees_hexNumber h f count).bind_never
  intro n rest rest' left
  dsimp only
  split
  · exact .ok left
  · exact .error _

theorem agrees_propertyQuery (h : Extended cs cs') (f : Flags) :
    Agrees spent cs cs' (propertyQuery f cs) (propertyQuery f cs') := by
  rw [propertyQuery, propertyQuery]
  refine h.skip_cases f (.error _) ?_ ?_
  · intro suffix
    exact .astray ((List.suffix_cons _ _).trans suffix) List.suffix_rfl
  · intro c ds ds' left
    dsimp only
    split_ifs
    · refine (finds_untilBrace left.tail.extended f).elim (.error _) ?_
      exact fun query rest rest' of => .ok (left.tail.trans of)
    · exact .error _
    · exact .ok left.tail

/-- A property takes the parenthesis for its name if nothing else follows. -/
theorem agrees_propertyEscape (h : Extended cs cs') (f : Flags) (negated : Bool) :
    Agrees spent cs cs' (propertyEscape f negated cs) (propertyEscape f negated cs') := by
  rw [propertyEscape, propertyEscape]
  apply (agrees_propertyQuery h f).bind
  · intro query rest rest' left
    dsimp only
    split_ifs
    · exact .error _
    · split
      · exact .error _
      · exact .of _ _ left
  · intro query rest' suffix gone
    dsimp only
    split_ifs
    · exact .error _
    · split
      · exact .error _
      · exact .astray_of _ _ suffix fun _ _ => gone

/-- Astray after a boundary and a brace, with only what does not count before the ending. -/
def unnamed (f : Flags) (a : Assertion) (rest : List Char) : Prop :=
  a = .wordBoundary f.wordKind ∧ ∃ more, rest = '\x7b' :: more ∧ f.skip more = [')', '$']

/-- A boundary with a brace after it and nothing else is refused, but with the parenthesis behind
them the brace is no name. -/
theorem agrees_boundary (h : Extended cs cs') (f : Flags) :
    Agrees (unnamed f) cs cs' (boundary f cs) (boundary f cs') := by
  rcases h with _ | _ | ⟨c, h⟩
  · exact .ok (.all .nil)
  · exact .ok (.all .ending)
  · rename_i cs cs'
    have all := Left.all (.cons c h)
    by_cases brace : c = '\x7b'
    · subst brace
      rw [boundary, boundary]
      have ext := h.skip f
      generalize f.skip cs = ds at *
      generalize skipped : f.skip cs' = ds' at *
      rcases ext with _ | _ | ⟨c, ext⟩
      · exact .error _
      · exact .astray List.suffix_rfl ⟨rfl, cs', rfl, skipped⟩
      · dsimp only
        split_ifs
        · exact .ok all
        · refine (finds_untilBrace h f).elim (.error _) ?_
          intro name rest rest' of
          dsimp only
          split
          · exact .ok (all.tail.trans of)
          · exact .error _
    · rw [boundary, boundary]
      · exact .ok all
      · rintro _ ⟨⟩
        exact brace rfl
      · rintro _ ⟨⟩
        exact brace rfl

/-- How an escape goes astray: it takes the parenthesis for itself, or it is a boundary with a brace
after it. -/
def escaped (f : Flags) : Atom → List Char → Prop
  | .assertion a, rest => rest <:+ ['$'] ∨ unnamed f a rest
  | _, rest => rest <:+ ['$']

theorem escaped_cases {a : Atom} (h : escaped f a rest) :
    rest <:+ ['$'] ∨ ∃ b more, a = .assertion b ∧ rest = '\x7b' :: more := by
  rcases a with _ | _ | b
  · exact .inl h
  · exact .inl h
  · exact h.imp_right fun ⟨_, more, brace, _⟩ => ⟨b, more, rfl, brace⟩

theorem agrees_escape (h : Extended cs cs') (f : Flags) :
    Agrees (escaped f) cs cs' (escape f cs) (escape f cs') := by
  rcases h with _ | _ | ⟨c, h⟩
  · exact .error _
  · exact .astray (List.suffix_cons _ _) List.suffix_rfl
  · have left := Left.of_cons c h
    have hex (count : Nat) := (agrees_hexEscape h f count).within left
    have property (negated : Bool) := (agrees_propertyEscape h f negated).within left
    have boundary := (agrees_boundary h f).within left
    unfold escape
    dsimp only
    split_ifs
    · exact .error _
    · split
      · exact (hex 2).map Atom.literal fun _ _ => False.elim
      · exact (hex 4).map Atom.literal fun _ _ => False.elim
      · exact (hex 8).map Atom.literal fun _ _ => False.elim
      · exact (property false).map Atom.set fun _ _ gone => gone
      · exact (property true).map Atom.set fun _ _ gone => gone
      · exact boundary.map Atom.assertion fun _ _ => .inr
      · exact .of _ _ left

/-! ## Classes -/

theorem agrees_classItem (h : Extended cs cs') (f : Flags) (c : Char) :
    Agrees (escaped f) cs cs' (classItem f (c :: cs)) (classItem f (c :: cs')) := by
  rw [classItem, classItem]
  split_ifs
  · exact agrees_escape h f
  · exact .ok (.all h)

/-- Astray where no class can end. -/
def unclosable (_ : α) (rest : List Char) : Prop := ']' ∉ rest

theorem unclosable_of_spent (h : rest <:+ ['$']) : unclosable a rest := fun among =>
  absurd (h.subset among) (by decide)

theorem agrees_classRange (h : Extended cs cs') (f : Flags) (c : Char) :
    Agrees unclosable cs cs' (classRange f (c :: cs)) (classRange f (c :: cs')) := by
  rw [classRange, classRange]
  apply (agrees_classItem h f c).bind
  · intro first rest rest' left
    dsimp only
    refine left.extended.skip_cases f (.error _) ?_ ?_
    · intro suffix
      exact .astray_of _ _ (suffix.trans left.suffix') fun _ _ => by simp [unclosable]
    · intro c ds ds' of
      have left := left.trans of
      dsimp only
      split_ifs
      · refine left.tail.extended.skip_cases f (.error _) ?_ ?_
        · -- the parenthesis is taken for the end of the range
          intro suffix
          have suffix := ((List.suffix_cons _ _).trans suffix).trans left.tail.suffix'
          exact .astray_of (first.range f _) _ suffix fun _ _ => unclosable_of_spent List.suffix_rfl
        · intro d last last' of
          have ended := (left.tail.trans of).tail
          dsimp only
          split_ifs
          · exact .of _ _ left
          · apply ((agrees_classItem ended.extended f d).within ended).bind
            · exact fun last rest rest' left => .of _ _ left
            · rintro (_ | _ | _) rest' suffix gone
              · exact .astray_of _ _ suffix fun _ _ => unclosable_of_spent gone
              · exact .astray_of _ _ suffix fun _ _ => unclosable_of_spent gone
              · rcases first with _ | _ | _ <;> exact .error _
      · exact .of _ _ left
  · intro first rest' suffix gone
    dsimp only
    rcases escaped_cases gone with spent | ⟨b, more, rfl, rfl⟩
    · have suffix := (skip_suffix f rest').trans suffix
      rcases skip_of_spent f spent with eq | eq <;> rw [eq] at suffix ⊢
      · exact .astray_of (first.members f) _ suffix fun _ _ => unclosable_of_spent List.suffix_rfl
      · exact .error _
    · rw [skip_brace]
      exact .error _

theorem finds_setOp? (h : Extended cs cs') (c : Char) :
    Finds cs cs' (setOp? (c :: cs)) (setOp? (c :: cs')) := by
  rcases h with _ | _ | ⟨d, h⟩
  · exact .none
  · have none : setOp? [c, ')', '$'] = none := by
      rw [setOp?]
      split_ifs with same
      · rw [same]
        rfl
      · rfl
    rw [none]
    exact .none
  · rw [setOp?, setOp?]
    split_ifs
    · rcases SetOp.ofChar? c with _ | op
      · exact .none
      · exact .some op (.of_cons d h)
    · exact .none

theorem begins_leadingHyphens (h : Extended cs cs') (f : Flags) {bound bound' : Nat}
    (enough : cs.length ≤ bound) (enough' : cs'.length ≤ bound') :
    Begins cs cs' (leadingHyphens f bound cs) (leadingHyphens f bound' cs') := by
  have atEnd {cs' : List Char} (h : Extended [] cs') (bound bound' : Nat) :
      Begins [] cs' (leadingHyphens f bound []) (leadingHyphens f bound' cs') := by
    have same : leadingHyphens f bound [] = (false, []) := by rcases bound with _ | _ <;> rfl
    have same' : leadingHyphens f bound' cs' = (false, cs') := by
      rcases h with _ | _ <;> rcases bound' with _ | _ <;> rfl
    rw [same, same']
    exact ⟨rfl, .all h⟩
  induction bound generalizing bound' cs cs' with
  | zero =>
    obtain rfl := List.length_eq_zero_iff.mp (Nat.le_zero.mp enough)
    exact atEnd h _ _
  | succ bound ih =>
    rcases h with _ | _ | ⟨c, h⟩
    · exact atEnd .nil _ _
    · exact atEnd .ending _ _
    · obtain ⟨bound', rfl⟩ := Nat.exists_eq_add_one_of_ne_zero (Nat.ne_zero_of_lt enough')
      have left := (Left.all h).skip f
      have := left.suffix.length_le
      have := left.suffix'.length_le
      rw [List.length_cons] at enough enough'
      rw [leadingHyphens, leadingHyphens, takeMark, takeMark]
      split_ifs
      · refine ⟨rfl, (Left.of_cons c h).trans (left.trans ?_)⟩
        exact (ih left.extended (by omega) (by omega)).left
      · exact ⟨rfl, .all (.cons c h)⟩

theorem begins_classStart (h : Extended cs cs') (f : Flags) :
    Begins cs cs' (classStart f cs) (classStart f cs') := by
  rw [classStart, classStart]
  have left := (Left.all h).skip f
  refine (begins_takeMark left.extended '^' (by decide)).elim ?_
  intro negated ds ds' of
  have left := (left.trans of).skip f
  dsimp only
  refine (begins_leadingHyphens left.extended f le_rfl le_rfl).elim ?_
  exact fun hyphen rest rest' of => ⟨rfl, left.trans of⟩

theorem finds_bracketName? (h : Extended cs cs') :
    Finds cs cs' (bracketName? cs) (bracketName? cs') := by
  rw [bracketName?, bracketName?]
  refine (begins_takeMark h ':' (by decide)).elim ?_
  rintro (_ | _) ds ds' left
  · exact .none
  dsimp only
  refine (begins_takeMark left.extended '^' (by decide)).elim ?_
  intro negated ds ds' of
  have left := left.trans of
  dsimp only
  refine (finds_cutAt? left.extended ':' (by decide)).elim .none ?_
  intro name rest rest' of
  have left := left.trans of
  dsimp only
  refine (begins_takeMark left.extended ']' (by decide)).elim ?_
  rintro (_ | _) rest rest' of
  · exact .none
  dsimp only
  rcases namedSet? name with _ | s
  · exact .none
  · exact .some (negated, s) (left.trans of)

/-- What a reader of classes leaves begins after a bracket. -/
def Closed (cs : List Char) (x : Except Fault (α × List Char)) : Prop :=
  ∀ a rest, x = .ok (a, rest) → ']' :: rest <:+ cs

namespace Closed

theorem error (e : Fault) : Closed (α := α) cs (.error e) := fun _ _ h => by cases h

theorem within {x : Except Fault (α × List Char)} (h : Closed ds x) (left : ds <:+ cs) :
    Closed cs x :=
  fun a rest eq => (h a rest eq).trans left

theorem bind {x : Except Fault (α × List Char)} {k : α × List Char → Except Fault (β × List Char)}
    (left : ∀ a rest, x = .ok (a, rest) → rest <:+ cs)
    (go : ∀ a rest, rest <:+ cs → Closed cs (k (a, rest))) : Closed cs (x >>= k) := by
  rcases x with e | ⟨a, rest⟩
  · exact error e
  · exact go a rest (left a rest rfl)

/-- Where there is no bracket, no class is read. -/
theorem agrees {D : α → List Char → Prop} {x x' : Except Fault (α × List Char)} (h : Closed ds x')
    (none : ']' ∉ ds) : Agrees D cs cs' x x' :=
  fun a rest eq => absurd ((h a rest eq).subset (.head _)) none

end Closed

theorem closed_class (f : Flags) (bound : Nat) :
    (∀ cs, Closed cs (readClass f bound cs)) ∧
      ∀ negated part pending cs, Closed cs (classParts f bound negated part pending cs) := by
  induction bound with
  | zero =>
    refine ⟨fun cs => ?_, fun negated part pending cs => ?_⟩
    · rw [readClass]
      exact .error _
    · rw [classParts]
      exact .error _
  | succ bound ih =>
    obtain ⟨ihClass, ihParts⟩ := ih
    constructor
    · intro cs
      rw [readClass]
      refine (begins_classStart (.refl cs) f).elim ?_
      rintro ⟨negated, hyphen⟩ _ ds left
      have parts (start : CharSet) := (ihParts negated start none ds).within left.suffix'
      dsimp only
      refine (begins_takeMark (.refl ds) ']' (by decide)).elim ?_
      rintro (_ | _) _ rest of
      · rcases hyphen <;> exact parts _
      · rcases hyphen
        · have left := (of.skip f).suffix'.trans left.suffix'
          exact (ihParts _ _ _ _).within left
        · exact parts _
    · intro negated part pending cs
      rw [classParts]
      have left := skip_suffix f cs
      generalize f.skip cs = ds at *
      rcases ds with _ | ⟨c, ds⟩
      · exact .error _
      · have left' := (List.suffix_cons c ds).trans left
        dsimp only
        split_ifs with opening closing
        · split
          · rename_i inverse s rest found
            rcases finishSet f inverse s with _ | s
            · exact .error _
            · have of := (finds_bracketName? (.refl ds)).suffix found
              exact (ihParts _ _ _ _).within (of.trans left')
          · refine .bind (fun s rest read => ?_) fun s rest of => (ihParts _ _ _ _).within of
            exact (List.suffix_cons _ _).trans ((ihClass ds s rest read).trans left')
        · rcases finishSet f negated (combine f pending part) with _ | s
          · exact .error _
          · rintro _ _ ⟨⟩
            exact closing ▸ left
        · split
          · rename_i op rest found
            have of := (finds_setOp? (.refl ds) c).suffix found
            exact (ihParts _ _ _ _).within (of.trans left')
          · refine .bind (fun s rest read => ?_) fun s rest of => (ihParts _ _ _ _).within of
            exact ((agrees_classRange (.refl ds) f c).suffix read).trans left'

/-- Classes are read alike, and never astray, if the bound lets the shorter text be read. -/
def ClassesAgree (f : Flags) (bound : Nat) : Prop :=
  ∀ bound' cs cs', Extended cs cs' → 2 * cs.length + 2 ≤ bound →
    Agrees never cs cs' (readClass f bound cs) (readClass f bound' cs')

/-- And so are the parts of classes. -/
def PartsAgree (f : Flags) (bound : Nat) : Prop :=
  ∀ bound' negated part pending cs cs', Extended cs cs' → 2 * cs.length + 1 ≤ bound →
    Agrees never cs cs' (classParts f bound negated part pending cs)
      (classParts f bound' negated part pending cs')

theorem classesAgree_succ {bound : Nat} (parts : PartsAgree f bound) :
    ClassesAgree f (bound + 1) := by
  intro bound' cs cs' h enough
  rcases bound' with _ | bound'
  · rw [readClass.eq_def f 0]
    exact .error _
  rw [readClass, readClass]
  refine (begins_classStart h f).elim ?_
  rintro ⟨negated, hyphen⟩ ds ds' left
  have goOn (start : CharSet) {rest rest' : List Char} (left : Left cs cs' rest rest') :
      Agrees never cs cs' (classParts f bound negated start none rest)
        (classParts f bound' negated start none rest') := by
    have shorter := left.suffix.length_le
    exact (parts _ _ _ _ _ _ left.extended (by omega)).within left
  dsimp only
  refine (begins_takeMark left.extended ']' (by decide)).elim ?_
  intro bracket rest rest' of
  rcases hyphen with _ | _
  · rcases bracket with _ | _
    · exact goOn _ left
    · exact goOn _ ((left.trans of).skip f)
  · exact goOn _ left

theorem partsAgree_succ {bound : Nat} (classes : ClassesAgree f bound)
    (parts : PartsAgree f bound) : PartsAgree f (bound + 1) := by
  intro bound' negated part pending cs cs' h enough
  rcases bound' with _ | bound'
  · rw [classParts.eq_def f 0]
    exact .error _
  have atEnd := (closed_class f (bound' + 1)).2 negated part pending [')', '$']
  rw [classParts, skip_ending] at atEnd
  rw [classParts, classParts]
  refine h.skip_cases f (.error _) (fun _ => atEnd.agrees (by decide)) ?_
  intro c ds ds' left
  have shorter := left.suffix.length_le
  rw [List.length_cons] at shorter
  have goOn (part : CharSet) (pending : Option (SetOp × CharSet)) {rest rest' : List Char}
      (left : Left ds ds' rest rest') :
      Agrees never ds ds' (classParts f bound negated part pending rest)
        (classParts f bound' negated part pending rest') := by
    have shorter := left.suffix.length_le
    exact (parts _ _ _ _ _ _ left.extended (by omega)).within left
  refine Agrees.within ?_ left.tail
  have ext := left.tail.extended
  dsimp only
  split_ifs
  · refine (finds_bracketName? ext).elim ?_ ?_
    · apply (classes bound' _ _ ext (by omega)).bind_never
      exact fun s rest rest' left => goOn _ _ left
    · rintro ⟨inverse, s⟩ rest rest' left
      dsimp only
      rcases finishSet f inverse s with _ | s
      · exact .error _
      · exact goOn _ _ left
  · exact .of _ _ (.all ext)
  · refine (finds_setOp? ext c).elim ?_ ?_
    · apply (agrees_classRange ext f c).bind
      · exact fun s rest rest' left => goOn _ _ left
      · exact fun s rest' _ gone => ((closed_class f bound').2 _ _ _ rest').agrees gone
    · exact fun op rest rest' left => goOn _ _ left

theorem agrees_class (f : Flags) (bound : Nat) : ClassesAgree f bound ∧ PartsAgree f bound := by
  induction bound with
  | zero => exact ⟨fun _ _ _ _ none => by omega, fun _ _ _ _ _ _ _ none => by omega⟩
  | succ bound ih => exact ⟨classesAgree_succ ih.2, partsAgree_succ ih.1 ih.2⟩

/-! ## Groups and repetitions -/

theorem rel_dropBeginning? (h : Extended cs cs') (start : List Char) (other : ')' ∉ start) :
    Option.Rel (Left cs cs') (Text.dropBeginning? start cs) (Text.dropBeginning? start cs') := by
  induction start generalizing cs cs' with
  | nil => exact .some (.all h)
  | cons p start ih =>
    obtain ⟨ne, other⟩ := List.ne_and_not_mem_of_not_mem_cons other
    rcases h with _ | _ | ⟨c, h⟩
    · exact .none
    · rw [Text.dropBeginning?, Text.dropBeginning?, if_neg ne.symm]
      exact .none
    · rw [Text.dropBeginning?, Text.dropBeginning?]
      split_ifs
      · have rest := ih h other
        generalize Text.dropBeginning? start _ = x at *
        generalize Text.dropBeginning? start _ = x' at *
        rcases rest with left | _
        · exact .some ((Left.of_cons c h).trans left)
        · exact .none
      · exact .none

theorem looksAround_extended (h : Extended cs cs') : looksAround cs' = looksAround cs := by
  have same (start : List Char) (other : ')' ∉ start) :
      Text.beginsWith start cs' = Text.beginsWith start cs := by
    rw [Text.beginsWith, Text.beginsWith]
    have rest := rel_dropBeginning? h start other
    generalize Text.dropBeginning? start cs = x at *
    generalize Text.dropBeginning? start cs' = x' at *
    rcases rest with _ | _ <;> rfl
  simp only [looksAround, List.any_cons]
  rw [same _ (by decide), same _ (by decide), same _ (by decide), same _ (by decide)]
  rfl

theorem rel_nameStart? (h : Extended cs cs') :
    Option.Rel (Left cs cs') (nameStart? cs) (nameStart? cs') := by
  rw [nameStart?, nameStart?]
  have rest := rel_dropBeginning? h ['?', 'P', '<'] (by decide)
  generalize Text.dropBeginning? ['?', 'P', '<'] cs = x at *
  generalize Text.dropBeginning? ['?', 'P', '<'] cs' = x' at *
  rcases rest with left | _
  · exact .some left
  · exact rel_dropBeginning? h ['?', '<'] (by decide)

theorem agrees_readName (h : Extended cs cs') :
    Agrees never cs cs' (readName cs) (readName cs') := by
  rw [readName, readName]
  refine (finds_cutAt? h '>' (by decide)).elim (.error _) ?_
  rintro (_ | ⟨c, name⟩) rest rest' left
  · exact .error _
  · dsimp only
    split_ifs
    · exact .ok left
    · exact .error _

/-- Flags that do not end take the parenthesis for their end. -/
theorem agrees_readFlags (h : Extended cs cs') (f : Flags) (used : List Char)
    (negative dangling : Bool) :
    Agrees spent cs cs' (readFlags f used negative dangling cs)
      (readFlags f used negative dangling cs') := by
  induction h generalizing f used negative dangling with
  | nil => exact .error _
  | ending =>
    rw [readFlags.eq_def _ _ _ _ [')', '$']]
    dsimp only
    rw [if_pos (by decide)]
    split_ifs
    · exact .error _
    · exact .astray (List.suffix_cons _ _) List.suffix_rfl
  | cons c h ih =>
    have left := Left.of_cons c h
    rw [readFlags, readFlags]
    split_ifs
    · exact .error _
    · exact .ok left
    · exact .error _
    · exact (ih _ _ _ _).within left
    · split
      · exact (ih _ _ _ _).within left
      · exact .error _

theorem agrees_openGroup (h : Extended cs cs') (r : Reader) :
    Agrees spent cs cs' (r.openGroup cs) (r.openGroup cs') := by
  rw [Reader.openGroup, Reader.openGroup]
  have left := (Left.all h).skip r.flags
  generalize r.flags.skip cs = ds at *
  generalize r.flags.skip cs' = ds' at *
  refine Agrees.within ?_ left
  dsimp only
  rw [looksAround_extended left.extended]
  split_ifs
  · exact .error _
  have name := rel_nameStart? left.extended
  generalize nameStart? ds = x at *
  generalize nameStart? ds' = x' at *
  rcases name with of | _
  · apply ((agrees_readName of.extended).within of).bind_never
    exact fun name rest rest' left => .of _ _ left
  dsimp only
  have flags := rel_dropBeginning? left.extended ['?'] (by decide)
  generalize Text.dropBeginning? ['?'] ds = x at *
  generalize Text.dropBeginning? ['?'] ds' = x' at *
  rcases flags with of | _
  · apply ((agrees_readFlags of.extended r.flags [] false false).within of).bind
    · exact fun flags rest rest' left => .of _ _ left
    · exact fun flags rest' suffix gone => .astray_of _ _ suffix fun _ _ => gone
  · exact .ok (.all left.extended)

theorem begins_countNumber (h : Extended cs cs') :
    Begins cs cs' (countNumber cs) (countNumber cs') := by
  rw [countNumber, countNumber]
  have left := (Left.all h).dropWhile (p := Text.isBlank) (by decide)
  have digits := left.extended.takeWhile (p := Decimal.isDigit) (by decide)
  exact ⟨congrArg Decimal.natOf? digits.symm, (left.dropWhile (by decide)).dropWhile (by decide)⟩

theorem agrees_readCount (h : Extended cs cs') (f : Flags) :
    Agrees never cs cs' (readCount f cs) (readCount f cs') := by
  rw [readCount, readCount]
  have left := (Left.all h).skip f
  refine (begins_countNumber left.extended).elim ?_
  rintro (_ | least) ds ds' of
  · exact .error _
  have left := left.trans of
  rcases left.extended with _ | _ | ⟨c, _⟩
  · exact .error _
  · dsimp only
    rw [if_neg (c := ')' = '\x7d') (by decide), if_neg (c := ')' = ',') (by decide)]
    split_ifs <;> exact .error _
  dsimp only
  split_ifs
  · exact .error _
  · exact .ok left.tail
  · refine left.tail.extended.skip_cases f (.error _) (fun _ => .error _) ?_
    intro d ds ds' of
    have left := left.tail.trans of
    dsimp only
    split_ifs
    · exact .ok left.tail
    · refine (begins_countNumber left.extended).elim ?_
      rintro (_ | most) ds ds' of
      · exact .error _
      have left := left.trans of
      rcases left.extended with _ | _ | ⟨e, _⟩
      · exact .error _
      · exact .error _
      dsimp only
      split_ifs
      · exact .error _
      · exact .ok left.tail
  · exact .error _

/-! ## Steps -/

theorem agrees_repeated (h : Extended cs cs') (r : Reader) (least : Nat) (most : Option Nat) :
    Agrees never cs cs' (r.repeated least most cs) (r.repeated least most cs') := by
  rw [Reader.repeated, Reader.repeated]
  refine (begins_takeMark h '?' (by decide)).elim ?_
  exact fun marked rest rest' left => .of _ _ left

/-- How a step goes astray: it leaves at most the dollar, or a brace with only what does not count
between it and the ending. -/
def lost (r : Reader) (rest : List Char) : Prop :=
  rest <:+ ['$'] ∨ ∃ more, rest = '\x7b' :: more ∧ r.flags.skip more = [')', '$']

/-- A step with the ending behind the text does what it does without, unless it goes astray. -/
theorem agrees_step (h : Extended cs cs') (r : Reader) (c : Char) :
    Agrees lost cs cs' (r.step c cs) (r.step c cs') := by
  have all := Left.all h
  unfold Reader.step
  split
  · exact (agrees_openGroup h r).imp fun _ _ => .inl
  · exact .of _ _ all
  · exact .ok all
  · have members := (agrees_class r.flags _).1 (2 * cs'.length + 2) cs cs' h (Nat.le_refl _)
    exact members.map (fun s => r.push (.set s) 2) fun _ _ => False.elim
  · exact (agrees_repeated h r _ _).imp fun _ _ => False.elim
  · exact (agrees_repeated h r _ _).imp fun _ _ => False.elim
  · exact (agrees_repeated h r _ _).imp fun _ _ => False.elim
  · split
    · apply (agrees_readCount h r.flags).bind_never
      intro count rest rest' left
      have left := left.skip r.flags
      have rounds := (agrees_repeated left.extended r count.1 count.2).within left
      exact rounds.imp fun _ _ => False.elim
    · exact .error _
  · apply (agrees_escape h r.flags).bind
    · exact fun atom rest rest' left => .ok left
    · rintro (_ | _ | a) rest' suffix gone
      · exact .astray suffix (.inl gone)
      · exact .astray suffix (.inl gone)
      · exact .astray suffix (gone.imp_right And.right)
  · exact .of _ _ all
  · exact .ok all
  · exact .ok all
  · exact .ok all

end MetricPath.Pattern
