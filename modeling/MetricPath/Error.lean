import MetricPath.Pattern
import MetricPath.Template

/-!
# Errors of path generation and path reading

Each error says what is wrong in the terms of the library; `PathError.message` words it.
-/

namespace MetricPath

/-- A text that is no pattern, and why. -/
structure BadPattern where
  source : String
  fault : Pattern.Fault
deriving DecidableEq, Repr

/-- The message about a text that is no pattern. -/
def BadPattern.message (b : BadPattern) : String :=
  "invalid regex " ++ Text.quoted b.source ++ ": " ++ b.fault.message

/-- Why a rule cannot be compiled. -/
inductive RuleFault where
  | pattern (b : BadPattern)
  | template (e : Template.ParseError)
deriving DecidableEq, Repr

/-- The message about a rule that cannot be compiled. -/
def RuleFault.message : RuleFault → String
  | .pattern b => b.message
  | .template e => e.message

/-- What can go wrong with paths. -/
inductive PathError where
  /-- The template of a matching rule failed. -/
  | template (rule : Nat) (fault : Template.ExecFault)
  /-- A path whose labels do not come in pairs. -/
  | malformedPath (path : String)
  /-- A sample value that cannot be written. -/
  | invalidSampleValue (value : Binary64)
  | unknownMatchType (code : Int)
  | missingMetricName
  | invalidRegex (b : BadPattern)
  | invalidRule (rule : Nat) (fault : RuleFault)
deriving DecidableEq, Repr

/-- Sample values in messages: in the fewest digits, never with an exponent. -/
def plainStyle : Decimal.Style where
  leastPoint := -1000
  greatestPoint := 1000
  keepsPoint := false
  infinityText := ['i', 'n', 'f']

/-- The message of an error. -/
def PathError.message : PathError → String
  | .template rule fault => s!"template of rule #{rule} failed: " ++ fault.message
  | .malformedPath path =>
    "unable to parse labels from path " ++ Text.quoted path ++ ": odd number of nodes in path"
  | .invalidSampleValue value =>
    "invalid sample value " ++ String.ofList (plainStyle.render value)
  | .unknownMatchType code => s!"unknown match type {code}"
  | .missingMetricName => "invalid remote query: no __name__ label provided"
  | .invalidRegex b => b.message
  | .invalidRule rule fault => s!"invalid rule #{rule}: " ++ fault.message

end MetricPath
