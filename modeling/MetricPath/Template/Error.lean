import MetricPath.Text.Quoted

/-!
# Errors of templates

A template can fail in two ways: its source may not be a template (`ParseError`, with a place in the
source), and rendering may come upon data that an operation cannot use (`ExecFault`).
-/

namespace MetricPath.Template

/-- Blocks, which hold text and actions up to an end. -/
inductive BlockKind where
  | ifBlock
  | withBlock
  | rangeBlock
deriving DecidableEq, Repr

/-- The word that opens a block. -/
def BlockKind.keyword : BlockKind → String
  | .ifBlock => "if"
  | .withBlock => "with"
  | .rangeBlock => "range"

/-- Why a source is not a template. -/
inductive ParseFault where
  | unclosedAction
  | unclosedComment
  | commentNotClosing
  | unterminatedRawString
  | unterminatedString
  | unknownEscape (c : Char)
  | badNumber
  | badNumberText (text : String)
  | unexpectedChar (c : Char)
  | unexpectedEnd
  | unexpectedElse
  | endWithArguments
  | elseWithArguments
  | missingEnd (kind : BlockKind)
  | secondElse
  | missingValue
  | argumentToValue
  | undefinedVariable (name : String)
  | unexpectedKeyword (word : String)
  | undefinedFunction (name : String)
  | unexpectedRightParen
  | unexpectedPipe
  | unclosedLeftParen
deriving DecidableEq, Repr

/-- A word between the braces of an action. -/
private def inBraces (word : String) : String := "\x7b\x7b" ++ word ++ "\x7d\x7d"

/-- What is wrong. -/
def ParseFault.message : ParseFault → String
  | .unclosedAction => "unclosed action"
  | .unclosedComment => "unclosed comment"
  | .commentNotClosing => "comment ends before closing delimiter"
  | .unterminatedRawString => "unterminated raw quoted string"
  | .unterminatedString => "unterminated quoted string"
  | .unknownEscape c => "unknown escape sequence \\" ++ String.singleton c
  | .badNumber => "bad number syntax"
  | .badNumberText text => "bad number syntax: " ++ text
  | .unexpectedChar c => "unexpected " ++ Text.quotedChar c ++ " in action"
  | .unexpectedEnd => "unexpected " ++ inBraces "end"
  | .unexpectedElse => "unexpected " ++ inBraces "else"
  | .endWithArguments => "unexpected arguments to " ++ inBraces "end"
  | .elseWithArguments => "unexpected arguments to " ++ inBraces "else"
  | .missingEnd kind => "missing " ++ inBraces "end" ++ " for " ++ inBraces kind.keyword
  | .secondElse => "expected " ++ inBraces "end" ++ ", found " ++ inBraces "else"
  | .missingValue => "missing value for command"
  | .argumentToValue => "can't give argument to non-function"
  | .undefinedVariable name => "undefined variable $" ++ name
  | .unexpectedKeyword word => "unexpected keyword " ++ Text.quoted word
  | .undefinedFunction name => "function " ++ Text.quoted name ++ " not defined"
  | .unexpectedRightParen => "unexpected right paren"
  | .unexpectedPipe => "unexpected pipe"
  | .unclosedLeftParen => "unclosed left paren"

/-- A fault and the byte of the source at which it was found. -/
structure ParseError where
  offset : Nat
  fault : ParseFault
deriving DecidableEq, Repr

/-- The message of a parse error. -/
def ParseError.message (e : ParseError) : String :=
  s!"template parse error at offset {e.offset}: " ++ e.fault.message

/-- Why rendering failed. -/
inductive ExecFault where
  /-- The input of a replacement is absent or null. -/
  | nothingToReplace
  | missingArgument (function : String)
  | notString (function kind : String)
  | badPattern (reason : String)
  | argumentCount (function : String) (want got : Nat)
  | noArguments (function : String)
  | indexOfNil
  | indexOutOfRange (index : String)
  | notIndexable (kind : String)
  | noLength (kind : String)
  | lengthOfNil
  | missingComparison
  | noField (name kind : String)
  | notIterable (kind : String)
  | argumentToValue
deriving DecidableEq, Repr

/-- What went wrong. -/
def ExecFault.reason : ExecFault → String
  | .nothingToReplace => "input does not exist, cannot replace"
  | .missingArgument function => function ++ ": input does not exist"
  | .notString function kind => function ++ ": expected string, got " ++ kind
  | .badPattern reason => "failed to parse incoming regex string: " ++ reason
  | .argumentCount function want got =>
    s!"wrong number of args for {function}: want {want} got {got}"
  | .noArguments function => s!"wrong number of args for {function}: want at least 1 got 0"
  | .indexOfNil => "index of untyped nil"
  | .indexOutOfRange index => "index out of range: " ++ index
  | .notIndexable kind => "can't index item of type " ++ kind
  | .noLength kind => "len of type " ++ kind
  | .lengthOfNil => "len of nil pointer"
  | .missingComparison => "missing argument for comparison"
  | .noField name kind => s!"can't evaluate field {name} in type {kind}"
  | .notIterable kind => "range can't iterate over " ++ kind
  | .argumentToValue => "can't give argument to non-function"

/-- The message of a failed execution. -/
def ExecFault.message (f : ExecFault) : String := "template execution failed: " ++ f.reason

end MetricPath.Template
