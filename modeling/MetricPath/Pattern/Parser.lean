import MetricPath.Pattern.Expr
import MetricPath.Unicode.CaseFolding
import MetricPath.Unicode.Script
import MetricPath.Text.Blank
import MetricPath.Number.Decimal

/-!
# The notation of regular expressions

The reader goes through the text of a pattern once and keeps a stack of the groups that are open.
Flags are applied while reading: in the tree that results, the case of letters, the meaning of the
dot and of line anchors, and the preference of repetitions are settled.

Every step of the reader takes at least one character, so its bound is the length of the text.
-/

namespace MetricPath.Pattern

open MetricPath.Unicode (CharSet)

/-! ## Faults -/

/-- Why a text is not a pattern. -/
inductive Fault where
  | unopenedGroup
  | unclosedGroup
  | lookAround
  | badGroupName
  | repeatedGroupName (name : String)
  | badFlag
  | missingOperand
  | badCount
  | unclosedClass
  | badClassItem
  | badRange
  | badEscape
  | backreference
  | unknownProperty
  | notText
  | tooDeep
  | tooLarge
deriving DecidableEq, Repr

/-- The greatest size of a compiled pattern. -/
def sizeLimit : Nat := 10485760

/-- How deep the parts of a pattern may be nested. -/
def depthLimit : Nat := 250

namespace Fault

/-- What is wrong. -/
def reason : Fault → String
  | .unopenedGroup => "unopened group"
  | .unclosedGroup => "unclosed group"
  | .lookAround => "look-around, including look-ahead and look-behind, is not supported"
  | .badGroupName => "invalid capture group name"
  | .repeatedGroupName name => "duplicate capture group name " ++ name
  | .badFlag => "invalid flags"
  | .missingOperand => "repetition operator missing expression"
  | .badCount => "invalid repetition count"
  | .unclosedClass => "unclosed character class"
  | .badClassItem => "invalid item in character class"
  | .badRange => "invalid character class range, the start must be <= the end"
  | .badEscape => "unrecognized escape sequence"
  | .backreference => "backreferences are not supported"
  | .unknownProperty => "Unicode property not found"
  | .notText => "pattern can match invalid UTF-8"
  | .tooDeep => "exceeded the maximum number of nested parentheses/brackets"
  | .tooLarge => "too large"

/-- The message of a fault. -/
def message : Fault → String
  | .tooLarge => s!"Compiled regex exceeds size limit of {sizeLimit} bytes."
  | f => "regex parse error: " ++ f.reason

end Fault

/-! ## Flags -/

/-- The flags in force at a place of the pattern. -/
structure Flags where
  /-- `i`: letters match in either case. -/
  caseless : Bool := false
  /-- `m`: anchors also match at line ends. -/
  multiline : Bool := false
  /-- `s`: the dot also takes line ends. -/
  dotAll : Bool := false
  /-- `U`: repetitions prefer fewer rounds unless marked. -/
  ungreedy : Bool := false
  /-- `u`: characters are those of Unicode. -/
  unicode : Bool := true
  /-- `R`: a carriage return ends a line as well. -/
  returns : Bool := false
  /-- `x`: white space and comments are not part of the pattern. -/
  spaced : Bool := false
deriving DecidableEq, Repr

/-- The flags with one of them set or cleared. -/
def Flags.set? (f : Flags) (letter : Char) (on : Bool) : Option Flags :=
  match letter with
  | 'i' => some { f with caseless := on }
  | 'm' => some { f with multiline := on }
  | 's' => some { f with dotAll := on }
  | 'U' => some { f with ungreedy := on }
  | 'u' => some { f with unicode := on }
  | 'R' => some { f with returns := on }
  | 'x' => some { f with spaced := on }
  | _ => none

/-- Whether a set may have a character that is written as itself: without Unicode only ASCII. -/
def Flags.admits (f : Flags) (c : Char) : Bool := f.unicode || c.toNat < 0x80

/-- Which characters make words. -/
def Flags.wordKind (f : Flags) : WordKind := if f.unicode then .unicode else .ascii

/-- The text without white space and comments at its beginning. -/
def dropSpacing : (inComment : Bool) → List Char → List Char
  | _, [] => []
  | true, c :: cs => dropSpacing (c ≠ '\n') cs
  | false, c :: cs =>
    if Text.isBlank c then dropSpacing false cs
    else if c = '#' then dropSpacing true cs
    else c :: cs

/-- The text without what the flag `x` makes no part of the pattern. -/
def Flags.skip (f : Flags) (cs : List Char) : List Char :=
  if f.spaced then dropSpacing false cs else cs

/-- Whether a text begins with a character, and what follows it. -/
def takeMark (mark : Char) : List Char → Bool × List Char
  | [] => (false, [])
  | c :: cs => if c = mark then (true, cs) else (false, c :: cs)

/-! ## Sets -/

/-- The set with every character that differs from a member only in case. -/
def closeCase (unicode : Bool) (s : CharSet) : CharSet :=
  if unicode then
    let s := s.normalize
    let folded := Unicode.foldPairs.filter fun p => s.hasPoint p.1
    let s := (s.union ⟨folded.map fun p => (p.2, p.2)⟩).normalize
    let sources := Unicode.foldPairs.filter fun p => s.hasPoint p.2
    (s.union ⟨sources.map fun p => (p.1, p.1)⟩).normalize
  else
    let other (low high : Nat) (shift : Nat → Nat) : List (Nat × Nat) :=
      (List.range (high - low + 1)).filterMap fun i =>
        if s.hasPoint (low + i) then some (shift (low + i), shift (low + i)) else none
    (s.union ⟨other 0x41 0x5A (· + 32) ++ other 0x61 0x7A (· - 32)⟩).normalize

/-- Finish a set of characters: close it under case, then take the complement if it is negated.
Without Unicode a complement would have bytes that are no text. -/
def finishSet (f : Flags) (negated : Bool) (s : CharSet) : Except Fault CharSet :=
  let s := if f.caseless then closeCase f.unicode s else s.normalize
  if !negated then .ok s
  else if f.unicode then .ok s.complement
  else .error .notText

/-- The sets named by a letter after a backslash, in lower case. -/
def letterSet (f : Flags) : Char → CharSet
  | 'd' => if f.unicode then Unicode.decimalNumber else CharSet.read "30-39"
  | 's' => if f.unicode then Unicode.whiteSpace else CharSet.read "9-D 20"
  | _ => if f.unicode then Unicode.word else asciiWord

/-- The sets with a name between brackets and colons. -/
def namedSet? (name : List Char) : Option CharSet :=
  match String.ofList name with
  | "alnum" => some (CharSet.read "30-39 41-5A 61-7A")
  | "alpha" => some (CharSet.read "41-5A 61-7A")
  | "ascii" => some CharSet.ascii
  | "blank" => some (CharSet.read "9 20")
  | "cntrl" => some (CharSet.read "0-1F 7F")
  | "digit" => some (CharSet.read "30-39")
  | "graph" => some (CharSet.read "21-7E")
  | "lower" => some (CharSet.read "61-7A")
  | "print" => some (CharSet.read "20-7E")
  | "punct" => some (CharSet.read "21-2F 3A-40 5B-60 7B-7E")
  | "space" => some (CharSet.read "9-D 20")
  | "upper" => some (CharSet.read "41-5A")
  | "word" => some asciiWord
  | "xdigit" => some (CharSet.read "30-39 41-46 61-66")
  | _ => none

/-! ## Properties -/

/-- A property name without what does not count: a leading `is`, spaces, underscores, hyphens and
case.  The name `isc` is one by itself. -/
def plainName (name : List Char) : String :=
  let named := (name.take 2).map Char.toLower = ['i', 's']
  let rest := if named then name.drop 2 else name
  let kept := rest.filter fun c => c.toNat < 0x80 && c ≠ ' ' && c ≠ '_' && c ≠ '-'
  let plain := kept.map Char.toLower
  String.ofList (if named && plain = ['c'] then ['i', 's', 'c'] else plain)

/-- The set of a property query: a name, or a name and a value. -/
def propertySet? (query : List Char) : Option CharSet :=
  let valued (name value : List Char) : Option CharSet :=
    match plainName name with
    | "gc" | "generalcategory" => Unicode.category? (plainName value)
    | "sc" | "script" | "scx" | "scriptextensions" => Unicode.script? (plainName value)
    | _ => none
  match Text.cutAt? ['!', '='] query with
  | some (name, value) => (valued name value).map CharSet.complement
  | none =>
    match Text.cutAt? [':'] query with
    | some (name, value) => valued name value
    | none =>
      match Text.cutAt? ['='] query with
      | some (name, value) => valued name value
      | none =>
        let name := plainName query
        (Unicode.property? name).orElse fun _ =>
          (Unicode.category? name).orElse fun _ => Unicode.script? name

/-! ## Escapes -/

/-- What an escape stands for. -/
inductive Atom where
  | literal (c : Char)
  | set (s : CharSet)
  | assertion (a : Assertion)

/-- The character with a code point, if there is one. -/
def charOf? (n : Nat) : Option Char := if n.isValidChar then some (Char.ofNat n) else none

/-- As many hexadecimal digits as the number says. -/
def hexDigits (f : Flags) : Nat → (value : Nat) → List Char → Except Fault (Nat × List Char)
  | 0, value, cs => .ok (value, cs)
  | n + 1, value, cs =>
    match f.skip cs with
    | [] => .error .badEscape
    | c :: rest =>
      match CharSet.hexValue? c with
      | some d => hexDigits f n (16 * value + d) (f.skip rest)
      | none => .error .badEscape

/-- Characters up to a closing brace. -/
def untilBrace (f : Flags) : List Char → Option (List Char × List Char)
  | [] => none
  | '\x7d' :: rest => some ([], rest)
  | c :: rest =>
    if f.spaced && Text.isBlank c then untilBrace f rest
    else (untilBrace f rest).map fun (cs, rest) => (c :: cs, rest)

/-- A number of so many hexadecimal digits, or of any between braces.  Without Unicode two digits
stand for a byte, and one outside ASCII is no text. -/
def hexNumber (f : Flags) (count : Nat) (cs : List Char) : Except Fault (Nat × List Char) :=
  match takeMark '\x7b' (f.skip cs) with
  | (true, more) =>
    match untilBrace f more with
    | none => .error .badEscape
    | some (digits, rest) =>
      if digits.isEmpty then .error .badEscape
      else
        match digits.mapM CharSet.hexValue? with
        | some values => .ok (values.foldl (fun n d => 16 * n + d) 0, f.skip rest)
        | none => .error .badEscape
  | (false, more) => do
    let (n, rest) ← hexDigits f count 0 more
    if !f.unicode && count = 2 && 0x7F < n then .error .notText else .ok (n, rest)

/-- A character given by its code point. -/
def hexEscape (f : Flags) (count : Nat) (cs : List Char) : Except Fault (Char × List Char) := do
  let (n, rest) ← hexNumber f count cs
  match charOf? n with
  | some c => .ok (c, rest)
  | none => .error .badEscape

/-- What a property is asked for by: one character, or several between braces. -/
def propertyQuery (f : Flags) (cs : List Char) : Except Fault (List Char × List Char) :=
  match f.skip cs with
  | [] => .error .badEscape
  | c :: more =>
    if c = '\x7b' then
      match untilBrace f more with
      | none => .error .badEscape
      | some found => .ok found
    else if c = '\\' then .error .badEscape
    else .ok ([c], more)

/-- A set given by a property. -/
def propertyEscape (f : Flags) (negated : Bool) (cs : List Char) :
    Except Fault (CharSet × List Char) := do
  let (query, rest) ← propertyQuery f cs
  if !f.unicode then .error .notText
  else
    match propertySet? query with
    | none => .error .unknownProperty
    | some s => .ok (← finishSet f negated s, rest)

/-- The boundary with a name. -/
def namedBoundary? (k : WordKind) (name : List Char) : Option Assertion :=
  match String.ofList name with
  | "start" => some (.wordStart k)
  | "end" => some (.wordEnd k)
  | "start-half" => some (.notAfterWord k)
  | "end-half" => some (.notBeforeWord k)
  | _ => none

/-- What `\b` stands for: a boundary named between braces after it, or else any.  Braces that do not
begin with a name are a repetition. -/
def boundary (f : Flags) (cs : List Char) : Except Fault (Assertion × List Char) :=
  let isNameChar (c : Char) : Bool := c.isAlpha || c = '-'
  let k := f.wordKind
  match cs with
  | '\x7b' :: more =>
    match f.skip more with
    | [] => .error .badEscape
    | c :: _ =>
      if !isNameChar c then .ok (.wordBoundary k, cs)
      else
        match untilBrace f more with
        | none => .error .badEscape
        | some (name, rest) =>
          match namedBoundary? k name with
          | some a => .ok (a, rest)
          | none => .error .badEscape
  | _ => .ok (.wordBoundary k, cs)

/-- Characters that a backslash makes literal: ASCII but letters, digits and angle brackets. -/
def isEscapable (c : Char) : Bool := c.toNat < 0x80 && !c.isAlphanum && c ≠ '<' && c ≠ '>'

/-- An escape of one character. -/
def letterEscape (f : Flags) (c : Char) : Except Fault Atom :=
  match c with
  | 'd' | 's' | 'w' => .ok (.set (letterSet f c))
  | 'D' | 'S' | 'W' =>
    if f.unicode then .ok (.set (letterSet f c.toLower).complement) else .error .notText
  | 'a' => .ok (.literal '\x07')
  | 'f' => .ok (.literal '\x0c')
  | 't' => .ok (.literal '\t')
  | 'n' => .ok (.literal '\n')
  | 'r' => .ok (.literal '\r')
  | 'v' => .ok (.literal '\x0b')
  | 'A' => .ok (.assertion .textStart)
  | 'z' => .ok (.assertion .textEnd)
  | 'B' => .ok (.assertion (.noWordBoundary f.wordKind))
  | '<' => .ok (.assertion (.wordStart f.wordKind))
  | '>' => .ok (.assertion (.wordEnd f.wordKind))
  | _ => if isEscapable c then .ok (.literal c) else .error .badEscape

/-- What follows a backslash. -/
def escape (f : Flags) : List Char → Except Fault (Atom × List Char)
  | [] => .error .badEscape
  | c :: cs =>
    if Decimal.isDigit c then .error .backreference
    else
      match c with
      | 'x' => do let (v, rest) ← hexEscape f 2 cs; return (.literal v, rest)
      | 'u' => do let (v, rest) ← hexEscape f 4 cs; return (.literal v, rest)
      | 'U' => do let (v, rest) ← hexEscape f 8 cs; return (.literal v, rest)
      | 'p' => do let (s, rest) ← propertyEscape f false cs; return (.set s, rest)
      | 'P' => do let (s, rest) ← propertyEscape f true cs; return (.set s, rest)
      | 'b' => do let (a, rest) ← boundary f cs; return (.assertion a, rest)
      | _ => do let a ← letterEscape f c; return (a, cs)

/-! ## Classes -/

/-- Operations between the parts of a class. -/
inductive SetOp where
  | intersection
  | difference
  | symmetricDifference

/-- Combine two parts of a class. -/
def SetOp.apply (op : SetOp) (f : Flags) (s t : CharSet) : CharSet :=
  let s := if f.caseless then closeCase f.unicode s else s
  let t := if f.caseless then closeCase f.unicode t else t
  match op with
  | .intersection => s.intersect t
  | .difference => s.difference t
  | .symmetricDifference => s.symmetricDifference t

/-- Combine a part with what stands before it. -/
def combine (f : Flags) (pending : Option (SetOp × CharSet)) (part : CharSet) : CharSet :=
  match pending with
  | none => part
  | some (op, before) => op.apply f before part

/-- A set by name, between `[:` and `:]`, and whether it is negated; the text begins after the
bracket. -/
def bracketName? (cs : List Char) : Option ((Bool × CharSet) × List Char) :=
  match takeMark ':' cs with
  | (false, _) => none
  | (true, cs) =>
    let (negated, cs) := takeMark '^' cs
    match Text.cutAt? [':'] cs with
    | none => none
    | some (name, rest) =>
      match takeMark ']' rest with
      | (false, _) => none
      | (true, rest) => (namedSet? name).map fun s => ((negated, s), rest)

/-- The operation that a doubled character stands for. -/
def SetOp.ofChar? : Char → Option SetOp
  | '&' => some .intersection
  | '-' => some .difference
  | '~' => some .symmetricDifference
  | _ => none

/-- An operation at the beginning of a text. -/
def setOp? : List Char → Option (SetOp × List Char)
  | c :: d :: rest => if c = d then (SetOp.ofChar? c).map fun op => (op, rest) else none
  | _ => none

/-- The members that an atom gives to a class. -/
def Atom.members (f : Flags) : Atom → Except Fault CharSet
  | .literal c => if f.admits c then .ok (CharSet.single c.toNat) else .error .notText
  | .set s => .ok s
  | .assertion _ => .error .badClassItem

/-- The members that a range gives to a class. -/
def Atom.range (f : Flags) : Atom → Atom → Except Fault CharSet
  | .literal a, .literal b =>
    if b.toNat < a.toNat then .error .badRange
    else if f.admits b then .ok (CharSet.range a.toNat b.toNat)
    else .error .notText
  | _, _ => .error .badClassItem

/-- One item of a class: a character or an escape. -/
def classItem (f : Flags) : List Char → Except Fault (Atom × List Char)
  | [] => .error .unclosedClass
  | c :: cs => if c = '\\' then escape f cs else .ok (.literal c, cs)

/-- An item or a range of a class. -/
def classRange (f : Flags) (cs : List Char) : Except Fault (CharSet × List Char) := do
  let (first, rest) ← classItem f cs
  match f.skip rest with
  | [] => .error .unclosedClass
  | c :: more =>
    if c = '-' then
      match f.skip more with
      | [] => .error .unclosedClass
      | d :: last =>
        if d = ']' || d = '-' then do
          let s ← first.members f
          return (s, c :: more)
        else do
          let (last, rest) ← classItem f (d :: last)
          let s ← first.range f last
          return (s, rest)
    else do
      let s ← first.members f
      return (s, c :: more)

/-- Whether a class begins with hyphens, and what follows them. -/
def leadingHyphens (f : Flags) : (bound : Nat) → List Char → Bool × List Char
  | 0, cs => (false, cs)
  | bound + 1, cs =>
    match takeMark '-' cs with
    | (true, rest) => (true, (leadingHyphens f bound (f.skip rest)).2)
    | (false, cs) => (false, cs)

/-- Whether a class begins with a caret, and whether hyphens come next; and what follows. -/
def classStart (f : Flags) (cs : List Char) : (Bool × Bool) × List Char :=
  let (negated, cs) := takeMark '^' (f.skip cs)
  let cs := f.skip cs
  let (hyphen, cs) := leadingHyphens f cs.length cs
  ((negated, hyphen), cs)

mutual

/-- A class; the text begins after its bracket. -/
def readClass (f : Flags) : (bound : Nat) → List Char → Except Fault (CharSet × List Char)
  | 0, _ => .error .unclosedClass
  | bound + 1, cs =>
    let ((negated, hyphen), cs) := classStart f cs
    let start := if hyphen then CharSet.single '-'.toNat else CharSet.empty
    match hyphen, takeMark ']' cs with
    | false, (true, rest) =>
      classParts f bound negated (CharSet.single ']'.toNat) none (f.skip rest)
    | _, _ => classParts f bound negated start none cs

/-- The parts of a class: `part` is the union being read, `pending` what stands before the operation
that precedes it. -/
def classParts (f : Flags) : (bound : Nat) → (negated : Bool) → (part : CharSet) →
    (pending : Option (SetOp × CharSet)) → List Char → Except Fault (CharSet × List Char)
  | 0, _, _, _, _ => .error .unclosedClass
  | bound + 1, negated, part, pending, cs =>
    match f.skip cs with
    | [] => .error .unclosedClass
    | c :: rest =>
      if c = '[' then
        match bracketName? rest with
        | some ((inverse, s), rest) => do
          let s ← finishSet f inverse s
          classParts f bound negated (part.union s) pending rest
        | none => do
          let (s, rest) ← readClass f bound rest
          classParts f bound negated (part.union s) pending rest
      else if c = ']' then do
        let s ← finishSet f negated (combine f pending part)
        return (s, rest)
      else
        match setOp? (c :: rest) with
        | some (op, rest) =>
          classParts f bound negated CharSet.empty (some (op, combine f pending part)) rest
        | none => do
          let (s, rest) ← classRange f (c :: rest)
          classParts f bound negated (part.union s) pending rest

end

/-! ## Groups and repetitions -/

/-- One item of a sequence: an expression, or a directive that set flags, and how deep it nests. -/
structure Item where
  expr : Option Expr
  depth : Nat

/-- A group that is open: the flags outside, its number if it has one, the finished branches and the
items of the current one, both latest first. -/
structure Level where
  outside : Flags
  number : Option Nat
  branches : List Item
  items : List Item

/-- The items of a branch as one expression. -/
def Level.branch (l : Level) : Item :=
  match l.items with
  | [] => ⟨some .empty, 0⟩
  | [i] => ⟨some (i.expr.getD .empty), i.depth⟩
  | items =>
    ⟨some (Expr.seqAll (items.reverse.filterMap Item.expr)),
      1 + (items.map Item.depth).foldl max 0⟩

/-- The branches of a group as one expression. -/
def Level.finish (l : Level) : Item :=
  match l.branches with
  | [] => l.branch
  | branches =>
    let all := l.branch :: branches
    ⟨some (Expr.altAll (all.reverse.filterMap Item.expr)), 1 + (all.map Item.depth).foldl max 0⟩

/-- Where the reader stands. -/
structure Reader where
  flags : Flags
  current : Level
  outer : List Level
  /-- How many numbered groups have been opened. -/
  groups : Nat
  /-- The named groups and their numbers. -/
  names : List (String × Nat)

/-- The reader after one more item. -/
def Reader.push (r : Reader) (e : Expr) (depth : Nat) : Reader :=
  { r with current := { r.current with items := ⟨some e, depth⟩ :: r.current.items } }

/-- The reader inside a new group. -/
def Reader.enter (r : Reader) (inside : Flags) (number : Option Nat) : Reader :=
  { r with
    flags := inside
    current := ⟨r.flags, number, [], []⟩
    outer := r.current :: r.outer }

/-- The reader after the innermost group. -/
def Reader.leave (r : Reader) : Except Fault Reader :=
  match r.outer with
  | [] => .error .unopenedGroup
  | level :: outer =>
    let inner := r.current.finish
    let e := inner.expr.getD .empty
    let e := match r.current.number with
      | some n => Expr.group n e
      | none => e
    .ok (Reader.push { r with flags := r.current.outside, current := level, outer } e
      (inner.depth + 1))

/-- The reader after a repetition of its last item. -/
def Reader.rounds (r : Reader) (least : Nat) (most : Option Nat) (marked : Bool) :
    Except Fault Reader :=
  match r.current.items with
  | ⟨some e, depth⟩ :: items =>
    let greedy := marked == r.flags.ungreedy
    let e := match least, most with
      | 0, some 0 => Expr.empty
      | 1, some 1 => e
      | _, _ => .rounds least most greedy e
    .ok { r with current := { r.current with items := ⟨some e, depth + 1⟩ :: items } }
  | _ => .error .missingOperand

/-- A number within a repetition count, white space around it allowed. -/
def countNumber (cs : List Char) : Option Nat × List Char :=
  let cs := cs.dropWhile Text.isBlank
  (Decimal.natOf? (cs.takeWhile Decimal.isDigit),
    (cs.dropWhile Decimal.isDigit).dropWhile Text.isBlank)

/-- The greatest repetition count. -/
def greatestCount : Nat := 4294967295

/-- A repetition count; the text begins after the opening brace. -/
def readCount (f : Flags) (cs : List Char) : Except Fault ((Nat × Option Nat) × List Char) :=
  match countNumber (f.skip cs) with
  | (some least, c :: rest) =>
    if greatestCount < least then .error .badCount
    else if c = '\x7d' then .ok ((least, some least), rest)
    else if c = ',' then
      match f.skip rest with
      | [] => .error .badCount
      | d :: more =>
        if d = '\x7d' then .ok ((least, none), more)
        else
          match countNumber (d :: more) with
          | (some most, e :: rest) =>
            if e ≠ '\x7d' || most < least || greatestCount < most then .error .badCount
            else .ok ((least, some most), rest)
          | _ => .error .badCount
    else .error .badCount
  | _ => .error .badCount

/-- Whether a character may stand in the name of a group. -/
def isNameChar (first : Bool) (c : Char) : Bool :=
  c = '_' || (if first then Unicode.alphabetic.contains c
    else c = '.' || c = '[' || c = ']' || Unicode.alphanumeric.contains c)

/-- The name of a group; the text begins after the opening angle bracket. -/
def readName (cs : List Char) : Except Fault (String × List Char) :=
  match Text.cutAt? ['>'] cs with
  | some (c :: name, rest) =>
    if isNameChar true c && name.all (isNameChar false) then .ok (String.ofList (c :: name), rest)
    else .error .badGroupName
  | _ => .error .badGroupName

/-- Flags up to a colon or a closing parenthesis, and the letters among them.  No letter may occur
twice, and a minus sign has a letter after it. -/
def readFlags (f : Flags) (used : List Char) (negative dangling : Bool) :
    List Char → Except Fault ((Flags × List Char × Bool) × List Char)
  | [] => .error .badFlag
  | c :: cs =>
    if c = ':' || c = ')' then
      if dangling then .error .badFlag else .ok ((f, used, c = ':'), cs)
    else if c ∈ used then .error .badFlag
    else if c = '-' then readFlags f (c :: used) true true cs
    else
      match f.set? c !negative with
      | some g => readFlags g (c :: used) negative false cs
      | none => .error .badFlag

/-- The reader in a group with a number. -/
def Reader.enterNumbered (r : Reader) : Reader :=
  { r.enter r.flags (some (r.groups + 1)) with groups := r.groups + 1 }

/-- The reader in a group with a name, and a number like any other. -/
def Reader.enterNamed (r : Reader) (name : String) : Except Fault Reader :=
  if r.names.any fun n => n.1 = name then .error (.repeatedGroupName name)
  else .ok { r.enterNumbered with names := r.names ++ [(name, r.groups + 1)] }

/-- The reader after flags: in a group of their own after a colon, or else where they are set for
the rest of the group. -/
def Reader.setFlags (r : Reader) (flags : Flags) (used : List Char) (colon : Bool) :
    Except Fault Reader :=
  if colon then .ok (r.enter flags none)
  else if used.isEmpty then .error .missingOperand
  else
    .ok { r with
      flags, current := { r.current with items := ⟨none, 0⟩ :: r.current.items } }

/-- Whether a group looks ahead or behind; the text begins after its parenthesis. -/
def looksAround (cs : List Char) : Bool :=
  [['?', '='], ['?', '!'], ['?', '<', '='], ['?', '<', '!']].any fun start =>
    Text.beginsWith start cs

/-- The text from the name of a group on, if it has one; the text begins after its parenthesis. -/
def nameStart? (cs : List Char) : Option (List Char) :=
  match Text.dropBeginning? ['?', 'P', '<'] cs with
  | some cs => some cs
  | none => Text.dropBeginning? ['?', '<'] cs

/-- The reader after an opening parenthesis. -/
def Reader.openGroup (r : Reader) (cs : List Char) : Except Fault (Reader × List Char) :=
  let cs := r.flags.skip cs
  if looksAround cs then .error .lookAround
  else
    match nameStart? cs with
    | some cs => do
      let (name, rest) ← readName cs
      let r ← r.enterNamed name
      return (r, rest)
    | none =>
      match Text.dropBeginning? ['?'] cs with
      | some cs => do
        let ((flags, used, colon), rest) ← readFlags r.flags [] false false cs
        let r ← r.setFlags flags used colon
        return (r, rest)
      | none => .ok (r.enterNumbered, cs)

/-! ## Reading a pattern -/

/-- The expression of a character.  Without Unicode only ASCII letters have a case. -/
def literal (f : Flags) (c : Char) : Expr :=
  if !f.caseless then .set (CharSet.single c.toNat)
  else if f.unicode then
    .set (⟨(Unicode.caseVariants c.toNat).map fun n => (n, n)⟩ : CharSet).normalize
  else .set (closeCase false (CharSet.single c.toNat))

/-- The expression of the dot. -/
def dot (f : Flags) : Except Fault Expr :=
  if !f.unicode then .error .notText
  else if f.dotAll then .ok (.set CharSet.any)
  else if f.returns then .ok (.set (CharSet.read "A D").complement)
  else .ok (.set (CharSet.single 0xA).complement)

/-- The anchor at the beginning. -/
def caret (f : Flags) : Assertion :=
  if f.multiline then if f.returns then .lineStartEither else .lineStart else .textStart

/-- The anchor at the end. -/
def dollar (f : Flags) : Assertion :=
  if f.multiline then if f.returns then .lineEndEither else .lineEnd else .textEnd

/-- The reader after an escape. -/
def Reader.pushAtom (r : Reader) : Atom → Reader
  | .literal c => r.push (literal r.flags c) 0
  | .set s => r.push (.set s) 0
  | .assertion a => r.push (.assert a) 0

/-- The reader after a repetition and the mark that reverses its preference. -/
def Reader.repeated (r : Reader) (least : Nat) (most : Option Nat) (cs : List Char) :
    Except Fault (Reader × List Char) := do
  let (marked, rest) := takeMark '?' cs
  let r ← r.rounds least most marked
  return (r, rest)

/-- One step: the next element of the pattern. -/
def Reader.step (r : Reader) (c : Char) (cs : List Char) : Except Fault (Reader × List Char) :=
  match c with
  | '(' => r.openGroup cs
  | ')' => do
    let r ← r.leave
    return (r, cs)
  | '|' =>
    .ok ({ r with current := { r.current with
      branches := r.current.branch :: r.current.branches, items := [] } }, cs)
  | '[' => do
    let (s, rest) ← readClass r.flags (2 * cs.length + 2) cs
    return (r.push (.set s) 2, rest)
  | '?' => r.repeated 0 (some 1) cs
  | '*' => r.repeated 0 none cs
  | '+' => r.repeated 1 none cs
  | '\x7b' =>
    match r.current.items with
    | ⟨some _, _⟩ :: _ => do
      let ((least, most), rest) ← readCount r.flags cs
      r.repeated least most (r.flags.skip rest)
    | _ => .error .missingOperand
  | '\\' => do
    let (atom, rest) ← escape r.flags cs
    return (r.pushAtom atom, rest)
  | '.' => do
    let e ← dot r.flags
    return (r.push e 0, cs)
  | '^' => .ok (r.push (.assert (caret r.flags)) 0, cs)
  | '$' => .ok (r.push (.assert (dollar r.flags)) 0, cs)
  | c => .ok (r.push (literal r.flags c) 0, cs)

/-- Read the rest of a pattern; the number bounds the steps. -/
def Reader.readAll : (bound : Nat) → Reader → List Char → Except Fault Reader
  | 0, r, _ => .ok r
  | bound + 1, r, cs =>
    match r.flags.skip cs with
    | [] => .ok r
    | c :: cs => do
      let (r, rest) ← r.step c cs
      r.readAll bound rest

/-- The reader before any text. -/
def Reader.start : Reader := ⟨{}, ⟨{}, none, [], []⟩, [], 0, []⟩

/-- What has been read, with the names of its groups and their numbers. -/
def Reader.result (r : Reader) : Except Fault (Expr × List (String × Nat)) :=
  if !r.outer.isEmpty then .error .unclosedGroup
  else
    let whole := r.current.finish
    if depthLimit < whole.depth then .error .tooDeep
    else .ok (whole.expr.getD .empty, r.names)

/-- The expression that a text denotes, and the names of its groups with their numbers. -/
def read (text : List Char) : Except Fault (Expr × List (String × Nat)) := do
  let r ← Reader.start.readAll (text.length + 1) text
  r.result

end MetricPath.Pattern
