import MetricPath.Path.Read

/-!
# Matchers and queries

A read request selects series by matchers on their labels.  A backend with dotted paths is asked
for everything below the metric name and its answers are filtered here; a backend with tags gets
the whole selection as one expression.
-/

namespace MetricPath

/-- How a matcher compares. -/
inductive MatchOp where
  | equal
  | notEqual
  | regex
  | notRegex
deriving DecidableEq, Repr

/-- The comparison that a code of the request stands for. -/
def MatchOp.ofCode (code : Int) : Except PathError MatchOp :=
  match code with
  | 0 => .ok .equal
  | 1 => .ok .notEqual
  | 2 => .ok .regex
  | 3 => .ok .notRegex
  | _ => .error (.unknownMatchType code)

/-- The sign of a comparison. -/
def MatchOp.sign : MatchOp → String
  | .equal => "="
  | .notEqual => "!="
  | .regex => "=~"
  | .notRegex => "!~"

/-- A condition on one label.  The value is a pattern where the comparison asks for one. -/
structure Matcher where
  name : String
  op : MatchOp
  value : String
deriving DecidableEq, Repr

namespace Matcher

/-- A matcher as people write it. -/
def render (m : Matcher) : String := m.name ++ m.op.sign ++ Text.quoted m.value

/-- A matcher that is ready to be applied. -/
inductive Compiled where
  | text (name : String) (equal : Bool) (value : String)
  | pattern (name : String) (isMatch : Bool) (p : Pattern)

/-- Make a matcher ready; a pattern has to match the whole of a label's value. -/
def compile (m : Matcher) : Except PathError Compiled :=
  let pattern (isMatch : Bool) : Except PathError Compiled :=
    match Pattern.anchored m.value with
    | .ok p => .ok (.pattern m.name isMatch p)
    | .error fault => .error (.invalidRegex ⟨m.value, fault⟩)
  match m.op with
  | .equal => .ok (.text m.name true m.value)
  | .notEqual => .ok (.text m.name false m.value)
  | .regex => pattern true
  | .notRegex => pattern false

/-- Whether a label set meets the condition.  An absent label counts as the empty text. -/
def Compiled.accepts (c : Compiled) (m : LabelSet) : Bool :=
  match c with
  | .text name equal value => (m.getOrEmpty name = value : Bool) == equal
  | .pattern name isMatch p => p.isMatch (m.getOrEmpty name) == isMatch

/-- The metric name that the last matcher for equality with it asks for. -/
def nameOf? (matchers : List Matcher) : Option String :=
  (matchers.reverse.find? fun m => m.name = LabelSet.nameLabel && m.op = .equal).map Matcher.value

end Matcher

/-- The query for every leaf below the metric name. -/
def expandQuery (matchers : List Matcher) (beginning : String) : Except PathError String :=
  match Matcher.nameOf? matchers with
  | none => .error .missingMetricName
  | some name =>
    if name = "" then .error .missingMetricName else .ok (beginning ++ name ++ ".**")

/-- The expression of one matcher in a tag query. -/
def Matcher.tagExpression (beginning : String) (m : Matcher) : String :=
  let (name, value) :=
    if m.name = LabelSet.nameLabel then (nameTag, beginning ++ m.value) else (m.name, m.value)
  match m.op with
  | .equal => "\"" ++ name ++ "=" ++ value ++ "\""
  | .notEqual => "\"" ++ name ++ "!=" ++ value ++ "\""
  | .regex => "\"" ++ name ++ "=~^(" ++ value ++ ")$\""
  | .notRegex => "\"" ++ name ++ "!=~^(" ++ value ++ ")$\""

/-- The query that selects series by their tags. -/
def seriesByTagQuery (matchers : List Matcher) (beginning : String) : String :=
  "seriesByTag(" ++ ",".intercalate (matchers.map (Matcher.tagExpression beginning)) ++ ")"

/-- Whether a path can be read and its labels meet all conditions. -/
def keepsTarget (compiled : List Matcher.Compiled) (beginning target : String) : Bool :=
  match LabelSet.ofPath target beginning with
  | .ok m => compiled.all fun c => c.accepts m
  | .error _ => false

/-- The targets whose labels meet all conditions, in their order. -/
def filterTargets (targets : List String) (matchers : List Matcher) (beginning : String) :
    Except PathError (List String) := do
  let compiled ← matchers.mapM Matcher.compile
  return targets.filter (keepsTarget compiled beginning)

end MetricPath
