/-!
# Path formats

Default paths come in three formats, which differ in how they carry the labels.
-/

namespace MetricPath

/-- How a default path carries labels. -/
inductive PathFormat where
  /-- As nodes of the path: `name.label.value`. -/
  | dotted
  /-- As tags: `name;label=value`. -/
  | tagged
  /-- In braces: `name` and then `label="value"` within them. -/
  | braced
deriving DecidableEq, Repr, Inhabited

namespace PathFormat

/-- The format that two switches select; braces win over tags. -/
def ofFlags (enableTags openMetrics : Bool) : PathFormat :=
  if openMetrics then .braced else if enableTags then .tagged else .dotted

/-- Whether labels are carried otherwise than as nodes. -/
def isTagged : PathFormat → Bool
  | .dotted => false
  | _ => true

/-- The name of a format. -/
def name : PathFormat → String
  | .dotted => "carbon"
  | .tagged => "carbon-tags"
  | .braced => "carbon-openmetrics"

/-- The format of a name. -/
def ofName? : String → Option PathFormat
  | "carbon" => some .dotted
  | "carbon-tags" => some .tagged
  | "carbon-openmetrics" => some .braced
  | _ => none

end PathFormat

end MetricPath
