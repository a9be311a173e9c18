import MetricPath.Proofs.NestedCalls

/-!
# String literals

Any text can be written into a template as a literal, between quotes with escapes or, if it has no
backquote, between backquotes as it is (`IsLiteral`).  A template that is one action with such a
literal in it renders the text, whatever the context (`execute_literal`).

A literal is one token, whatever stands in it: braces, trim markers and comments that its text may
have are passed over (`IsLiteral.lexes`), and reading a quotation undoes its escapes
(`readQuotation_quotedChars`).
-/

namespace MetricPath.Template

/-! ## Literals -/

/-- A character between quotes. -/
def quotedChar (c : Char) : List Char :=
  if c = '\\' then ['\\', '\\']
  else if c = '"' then ['\\', '"']
  else if c = '\n' then ['\\', 'n']
  else [c]

/-- A text between quotes: backslashes and quotes stand behind a backslash, the end of a line is
written as an escape, and every other character stands for itself. -/
def quotedLiteral (cs : List Char) : List Char := '"' :: (cs.flatMap quotedChar ++ ['"'])

/-- A text between backquotes, as it is. -/
def rawLiteral (cs : List Char) : List Char := rawQuote :: (cs ++ [rawQuote])

/-- The literals of a text. -/
inductive IsLiteral (cs : List Char) : List Char → Prop where
  | quoted : IsLiteral cs (quotedLiteral cs)
  | raw : rawQuote ∉ cs → IsLiteral cs (rawLiteral cs)

/-- Reading a quotation undoes the escapes of one character. -/
theorem readQuotation_quotedChar (c : Char) (cs : List Char) :
    readQuotation (quotedChar c ++ cs) = (readQuotation cs).cons c := by
  unfold quotedChar
  split_ifs with backslash quote line
  · rw [backslash]
    exact readQuotation_escape rfl cs
  · rw [quote]
    exact readQuotation_escape rfl cs
  · rw [line]
    exact readQuotation_escape rfl cs
  · exact readQuotation_verbatim quote backslash line cs

/-- Reading a quotation undoes its escapes, and ends at the quote that closes it. -/
theorem readQuotation_quotedChars (cs rest : List Char) :
    readQuotation (cs.flatMap quotedChar ++ '"' :: rest) = .closed cs rest := by
  induction cs with
  | nil => exact readQuotation_quote rest
  | cons c cs ih =>
    rw [List.flatMap_cons, List.append_assoc, readQuotation_quotedChar, ih]
    rfl

variable {s : String} {literal source : List Char}

/-- A literal is one token, whatever comes after it. -/
theorem IsLiteral.lexes (h : IsLiteral s.toList literal) (rest : List Char) :
    ∃ c cs, literal ++ rest = c :: cs ∧ Lexes c cs (.literal (.string s)) rest := by
  cases h with
  | quoted =>
    have token := Lexes.quoted (readQuotation_quotedChars s.toList rest)
    rw [String.ofList_toList] at token
    exact ⟨_, _, by rw [quotedLiteral, List.cons_append, List.append_assoc]; rfl, token⟩
  | raw whole =>
    have token := Lexes.raw (Text.cutAt?_append whole rest)
    rw [String.ofList_toList] at token
    exact ⟨_, _, by rw [rawLiteral, List.cons_append, List.append_assoc]; rfl, token⟩

/-! ## Actions -/

/-- The sources that are one action with a text in it, and white space around the text. -/
inductive IsAction (text : List Char) : List Char → Prop where
  | braces {ws ws' marker ending : List Char} {opens trims : Bool} : Blank ws → Blank ws' →
      Marker (ws ++ (text ++ ws') ++ ending) marker opens → Ending ending trims →
      IsAction text (opening ++ (marker ++ (ws ++ (text ++ ws') ++ ending)))

/-- A literal with white space around it is a pipeline. -/
theorem IsLiteral.writes (h : IsLiteral s.toList literal) {ws ws' : List Char} (blank : Blank ws)
    (blank' : Blank ws') :
    Writes (ws ++ (literal ++ ws')) [.operand (.literal (.string s))] := by
  obtain ⟨c, cs, begins, token⟩ := h.lexes ws'
  have inside : Inside true (c :: cs) [⟨.literal (.string s), true, 0⟩] :=
    .token token (.blank blank' false)
  rw [← begins] at inside
  exact writes_iff.mpr ⟨_, inside.blank_append blank,
    .single (.value (.token (.literal (.string s))) fun f => by simp)⟩

/-- An action with a literal in it evaluates the literal. -/
theorem IsLiteral.parse (h : IsLiteral s.toList literal) (holds : IsAction literal source) :
    Template.parse source = .ok [.action [.operand (.literal (.string s))]] := by
  cases holds with
  | braces blank blank' begins ends => exact (h.writes blank blank').parse_braces begins ends

/-- An action that evaluates a literal renders its text. -/
theorem renderNodes_literal (root : Value) (dot : Datum) (s : String) :
    renderNodes root dot [.action [.operand (.literal (.string s))]] = pure s := by
  simp only [renderNodes, renderNode, evalPipeline, evalCommand, evalOperand, renderDatum,
    Option.isSome_none, Option.getD_some, pure_bind, String.append_empty]
  rfl

/-- **Literals are faithful.**  A template that is one action with a literal of a text in it compiles
and renders that text in every context, whatever the text has in it, and it compiles no pattern. -/
theorem execute_literal (denotes : IsLiteral s.toList literal) (holds : IsAction literal source) :
    ∃ t, compile (String.ofList source) = .ok t ∧
      ∀ (context : Value) (c : PatternCache), (t.execute context).run.run c = (.ok s, c) := by
  have compiled : compile (String.ofList source)
      = .ok ⟨String.ofList source, [.action [.operand (.literal (.string s))]]⟩ := by
    rw [compile, String.toList_ofList, denotes.parse holds]
    rfl
  refine ⟨_, compiled, fun context c => ?_⟩
  rw [execute, renderNodes_literal]
  rfl

/-- A text full of delimiters, between quotes with trim markers around, and between backquotes. -/
theorem execute_literal_delimiters :
    let s := "-\x7d\x7d \x7b\x7b/* \" \\ \n é"
    let quoted := "\x7b\x7b- \"-\x7d\x7d \x7b\x7b/* \\\" \\\\ \\n é\" -\x7d\x7d".toList
    let raw := "\x7b\x7b\x60-\x7d\x7d \x7b\x7b/* \" \\ \n é\x60\x7d\x7d".toList
    ((IsLiteral s.toList (quotedLiteral s.toList) ∧ IsAction (quotedLiteral s.toList) quoted) ∧
      ∃ t, compile (String.ofList quoted) = .ok t ∧
        ∀ (context : Value) (c : PatternCache), (t.execute context).run.run c = (.ok s, c)) ∧
    (IsLiteral s.toList (rawLiteral s.toList) ∧ IsAction (rawLiteral s.toList) raw) ∧
      ∃ t, compile (String.ofList raw) = .ok t ∧
        ∀ (context : Value) (c : PatternCache), (t.execute context).run.run c = (.ok s, c) := by
  intro s quoted raw
  have nothing : Blank [] := List.forall_mem_nil _
  have space : Blank [' '] := List.forall_mem_singleton.mpr rfl
  have whole : rawQuote ∉ s.toList := by decide
  have quotedParts : quoted = opening ++ (['-'] ++
      ([' '] ++ (quotedLiteral s.toList ++ []) ++ ' ' :: trimClosing)) := by decide
  have rawParts : raw = opening ++ ([] ++ ([] ++ (rawLiteral s.toList ++ []) ++ closing)) := by
    decide
  have inQuotes : IsAction (quotedLiteral s.toList) quoted :=
    quotedParts ▸ .braces space nothing (.trims rfl) (.trims rfl)
  have inBackquotes : IsAction (rawLiteral s.toList) raw :=
    rawParts ▸ .braces nothing nothing .none .closes
  exact ⟨⟨⟨.quoted, inQuotes⟩, execute_literal .quoted inQuotes⟩, ⟨.raw whole, inBackquotes⟩,
    execute_literal (.raw whole) inBackquotes⟩

end MetricPath.Template
