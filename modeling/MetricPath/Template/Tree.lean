import MetricPath.Template.Segment

/-!
# Trees of templates

A template is a list of nodes: text, actions, and blocks that hold further nodes.  An action is a
pipeline of commands, each of which is a call of a function or an operand by itself.

Commands are read from the tokens of one action.  Blocks are read in one pass over the segments with
a stack of the blocks that are open: an action that opens a block puts it on the stack, and an end
takes it off and makes it a node of the list around it.
-/

namespace MetricPath.Template

/-! ## Nodes -/

/-- The functions that templates can call. -/
inductive Function where
  | replace
  | split
  | escape
  | isSet
  | replaceRegex
  | index
  | len
  | eq
  | ne
  | not
  | and
  | or
  | print
deriving DecidableEq, Repr

/-- The name of a function. -/
def Function.name : Function → String
  | .replace => "replace"
  | .split => "split"
  | .escape => "escape"
  | .isSet => "isSet"
  | .replaceRegex => "replaceRegex"
  | .index => "index"
  | .len => "len"
  | .eq => "eq"
  | .ne => "ne"
  | .not => "not"
  | .and => "and"
  | .or => "or"
  | .print => "print"

/-- All functions. -/
def Function.all : List Function :=
  [.replace, .split, .escape, .isSet, .replaceRegex, .index, .len, .eq, .ne, .not, .and, .or,
    .print]

/-- The function of a name. -/
def Function.ofName? (name : String) : Option Function :=
  Function.all.find? fun f => f.name = name

mutual

/-- A value within a command. -/
inductive Operand where
  /-- The value that the block around is about. -/
  | dot
  /-- A chain of fields of that value. -/
  | field (chain : List String)
  /-- A chain of fields, perhaps none, of the context of the whole template. -/
  | root (chain : List String)
  | literal (v : Value)
  /-- A function called without arguments. -/
  | call (f : Function)
  /-- A pipeline in parentheses, and a chain of fields of its value. -/
  | sub (commands : List Command) (chain : List String)

/-- A step of a pipeline. -/
inductive Command where
  | call (f : Function) (args : List Operand)
  | operand (o : Operand)

end

/-- Commands of which each gets the value of the one before as its last argument. -/
abbrev Pipeline := List Command

/-- A part of a template. -/
inductive Node where
  | text (s : String)
  | action (pipe : Pipeline)
  /-- A block, and what stands for it after an else. -/
  | block (kind : BlockKind) (pipe : Pipeline) (body otherwise : List Node)

/-! ## Commands -/

/-- The words that are not names of functions. -/
def keywords : List String := ["if", "else", "end", "with", "range"]

/-- The tokens up to the first pipe outside parentheses, that pipe, and the tokens after it. -/
def cutPipe (depth : Nat) : List Token → List Token × Option (Token × List Token)
  | [] => ([], none)
  | t :: ts =>
    let goOn (depth : Nat) : List Token × Option (Token × List Token) :=
      let (command, rest) := cutPipe depth ts
      (t :: command, rest)
    match t.kind with
    | .leftParen => goOn (depth + 1)
    | .rightParen => goOn (depth - 1)
    | .pipe => if depth = 0 then ([], some (t, ts)) else goOn depth
    | _ => goOn depth

/-- The tokens up to the parenthesis that closes the one before them, and the tokens after it.
`depth` parentheses have been opened since. -/
def cutParen? (depth : Nat) : List Token → Option (List Token × List Token)
  | [] => none
  | t :: ts =>
    let goOn (depth : Nat) : Option (List Token × List Token) :=
      (cutParen? depth ts).map fun (inside, rest) => (t :: inside, rest)
    match t.kind with
    | .leftParen => goOn (depth + 1)
    | .rightParen => if depth = 0 then some ([], ts) else goOn (depth - 1)
    | _ => goOn depth

/-- A chain of fields that directly follows a parenthesis, and the tokens after it. -/
def takeChain : List Token → List String × List Token
  | [] => ([], [])
  | t :: ts =>
    match t.kind with
    | .field chain => if t.spaced then ([], t :: ts) else (chain, ts)
    | _ => ([], t :: ts)

theorem cutPipe_length (depth : Nat) (ts : List Token) :
    (cutPipe depth ts).1.length +
      ((cutPipe depth ts).2.map fun r => r.2.length + 1).getD 0 = ts.length := by
  induction ts generalizing depth with
  | nil => rfl
  | cons t ts ih =>
    have h := fun d => ih d
    simp only [cutPipe]
    split
    · have := h (depth + 1); simp only [List.length_cons]; omega
    · have := h (depth - 1); simp only [List.length_cons]; omega
    · split
      · simp
      · have := h depth; simp only [List.length_cons]; omega
    · have := h depth; simp only [List.length_cons]; omega

theorem cutParen?_length {depth : Nat} {ts inside rest : List Token}
    (h : cutParen? depth ts = some (inside, rest)) :
    inside.length + rest.length < ts.length := by
  induction ts generalizing depth inside with
  | nil => simp [cutParen?] at h
  | cons t ts ih =>
    simp only [cutParen?] at h
    have goOn : ∀ d, (cutParen? d ts).map (fun (i, r) => (t :: i, r)) = some (inside, rest) →
        inside.length + rest.length < (t :: ts).length := by
      intro d found
      simp only [Option.map_eq_some_iff, Prod.mk.injEq] at found
      obtain ⟨⟨i, r⟩, found, hi, rfl⟩ := found
      have := ih found
      simp only [← hi, List.length_cons] at this ⊢
      omega
    split at h
    · exact goOn _ h
    · split at h
      · simp only [Option.some.injEq, Prod.mk.injEq] at h
        simp [← h.1, ← h.2]
      · exact goOn _ h
    · exact goOn _ h

theorem takeChain_length (ts : List Token) : (takeChain ts).2.length ≤ ts.length := by
  unfold takeChain
  split
  · simp
  · split
    · split <;> simp
    · simp

/-- The command that operands make: a function takes the others as arguments, and any other operand
stands alone.  `offset` is that of the first one. -/
def commandOf (offset : Nat) : List Operand → Except ParseError Command
  | [] => .error ⟨offset, .missingValue⟩
  | .call f :: args => .ok (.call f args)
  | [o] => .ok (.operand o)
  | _ => .error ⟨offset, .argumentToValue⟩

/-- The operand that a token other than a left parenthesis stands for. -/
def simpleOperand (t : Token) : Except ParseError Operand :=
  let fail (fault : ParseFault) : Except ParseError Operand := .error ⟨t.offset, fault⟩
  match t.kind with
  | .dot => .ok .dot
  | .field chain => .ok (.field chain)
  | .variable name chain => if name = "" then .ok (.root chain) else fail (.undefinedVariable name)
  | .literal v => .ok (.literal v)
  | .word name =>
    if name = "true" then .ok (.literal (.bool true))
    else if name = "false" then .ok (.literal (.bool false))
    else
      match Function.ofName? name with
      | some f => .ok (.call f)
      | none =>
        if name ∈ keywords then fail (.unexpectedKeyword name) else fail (.undefinedFunction name)
  | .leftParen => fail .unclosedLeftParen
  | .rightParen => fail .unexpectedRightParen
  | .pipe => fail .unexpectedPipe

mutual

/-- The commands between the pipes of the tokens.  `last` is where a missing last one is missed. -/
def readCommands (last : Nat) (ts : List Token) : Except ParseError Pipeline :=
  match _h : cutPipe 0 ts with
  | (command, none) => do return [← readCommand last command]
  | (command, some (pipe, rest)) => do
    let c ← readCommand pipe.offset command
    let cs ← readCommands last rest
    return c :: cs
termination_by (ts.length, 2)
decreasing_by
  all_goals
    have := cutPipe_length 0 ts
    simp only [_h, Option.map_none, Option.map_some, Option.getD_none, Option.getD_some] at this
    first
      | (apply Prod.Lex.left; omega)
      | (rcases Nat.lt_or_eq_of_le (show command.length ≤ ts.length by omega) with lt | eq
         · exact Prod.Lex.left _ _ lt
         · rw [eq]; exact Prod.Lex.right _ (by omega))

/-- One command; if there are no tokens, a value is missing at `offset`. -/
def readCommand (offset : Nat) (ts : List Token) : Except ParseError Command :=
  match ts with
  | [] => .error ⟨offset, .missingValue⟩
  | t :: ts => do commandOf t.offset (← readOperands (t :: ts))
termination_by (ts.length, 1)

/-- The operands of a command. -/
def readOperands : List Token → Except ParseError (List Operand)
  | [] => .ok []
  | t :: ts =>
    match t.kind with
    | .leftParen =>
      match _h : cutParen? 0 ts with
      | none => .error ⟨t.offset, .unclosedLeftParen⟩
      | some (inside, rest) => do
        let commands ← readPipeline t.offset inside
        let os ← readOperands (takeChain rest).2
        return .sub commands (takeChain rest).1 :: os
    | _ => do
      let o ← simpleOperand t
      let os ← readOperands ts
      return o :: os
termination_by ts => (ts.length, 0)
decreasing_by
  · have := cutParen?_length _h
    apply Prod.Lex.left; simp only [List.length_cons]; omega
  · have := cutParen?_length _h
    have := takeChain_length rest
    apply Prod.Lex.left; simp only [List.length_cons]; omega
  · apply Prod.Lex.left; simp

/-- A pipeline; if there are no tokens, a value is missing at `offset`. -/
def readPipeline (offset : Nat) (ts : List Token) : Except ParseError Pipeline :=
  match ts.getLast? with
  | none => .error ⟨offset, .missingValue⟩
  | some t => readCommands t.offset ts
termination_by (ts.length, 3)

end

/-! ## Blocks -/

/-- A block that is open. -/
structure OpenBlock where
  kind : BlockKind
  /-- The byte at which its first action opens. -/
  offset : Nat
  pipe : Pipeline
  /-- The nodes before it in the list around it, latest first. -/
  before : List Node
  /-- Its body, once an else has been read. -/
  body? : Option (List Node)
  /-- It began as an else with a condition, so that it shares the end of the block around it. -/
  chained : Bool

/-- The node of a block that ends after `nodes`, latest first. -/
def OpenBlock.close (b : OpenBlock) (nodes : List Node) : Node :=
  match b.body? with
  | none => .block b.kind b.pipe nodes.reverse []
  | some body => .block b.kind b.pipe body nodes.reverse

/-- End the innermost block `b` after `nodes`, and with it those that share its end.  Returned are
the nodes of the list around, latest first, and the blocks still open. -/
def endBlock (b : OpenBlock) (nodes : List Node) : List OpenBlock → List Node × List OpenBlock
  | [] => (b.close nodes :: b.before, [])
  | outer :: stack =>
    if b.chained then endBlock outer (b.close nodes :: b.before) stack
    else (b.close nodes :: b.before, outer :: stack)

/-- What an action does to the blocks. -/
inductive Directive where
  | begins (kind : BlockKind)
  | otherwise
  | ends
  | evaluates

/-- The directive of an action, by its first token. -/
def Directive.ofTokens : List Token → Directive
  | [] => .evaluates
  | t :: _ =>
    match t.kind with
    | .word "if" => .begins .ifBlock
    | .word "with" => .begins .withBlock
    | .word "range" => .begins .rangeBlock
    | .word "else" => .otherwise
    | .word "end" => .ends
    | _ => .evaluates

/-- An else at the byte `offset` with the tokens after the word, while `nodes` of the block `b` have
been read: the nodes read next, latest first, and the blocks that then are open. -/
def elseBlock (offset : Nat) (tokens : List Token) (nodes : List Node) (b : OpenBlock)
    (stack : List OpenBlock) : Except ParseError (List OpenBlock) :=
  let other : OpenBlock := { b with body? := some nodes.reverse }
  if b.body?.isSome then .error ⟨offset, .secondElse⟩
  else if tokens.isEmpty then .ok (other :: stack)
  else
    match b.kind, Directive.ofTokens tokens with
    | .ifBlock, .begins .ifBlock => do
      let pipe ← readPipeline offset tokens.tail
      return ⟨.ifBlock, offset, pipe, [], none, true⟩ :: other :: stack
    | _, _ => .error ⟨offset, .elseWithArguments⟩

/-- Read segments while the blocks of `stack` are open, the innermost first, and `nodes` of the list
within it have been read, latest first.  `total` is the length of the source in bytes. -/
def readNodes (total : Nat) (stack : List OpenBlock) (nodes : List Node) :
    List Segment → Except ParseError (List Node)
  | [] =>
    match stack with
    | [] => .ok nodes.reverse
    | b :: _ => .error ⟨b.offset, .missingEnd b.kind⟩
  | .text s :: rest => readNodes total stack (.text s :: nodes) rest
  | .action tokens offset :: rest =>
    match Directive.ofTokens tokens with
    | .evaluates => do
      let pipe ← readPipeline offset tokens
      readNodes total stack (.action pipe :: nodes) rest
    | .begins kind => do
      let pipe ← readPipeline offset tokens.tail
      readNodes total (⟨kind, offset, pipe, nodes, none, false⟩ :: stack) [] rest
    | .otherwise =>
      match stack with
      | [] => .error ⟨offset, .unexpectedElse⟩
      | b :: stack => do
        let stack ← elseBlock offset tokens.tail nodes b stack
        readNodes total stack [] rest
    | .ends =>
      if !tokens.tail.isEmpty then .error ⟨offset, .endWithArguments⟩
      else
        match stack with
        | [] => .error ⟨total, .unexpectedEnd⟩
        | b :: stack =>
          let (nodes, stack) := endBlock b nodes stack
          readNodes total stack nodes rest

/-- The nodes of a source. -/
def parse (source : List Char) : Except ParseError (List Node) := do
  readNodes (Text.byteLength source) [] [] (← segments source)

end MetricPath.Template
