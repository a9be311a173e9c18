import MetricPath.Escape
import MetricPath.LabelSet
import MetricPath.Path.Format
import MetricPath.Text.Split

/-!
# Default paths

The default path of a label set is a given beginning, the escaped metric name and then every other
label in the order of the names.  Labels without a name are left out.
-/

namespace MetricPath

/-- The labels that a default path carries. -/
def LabelSet.pathLabels (m : LabelSet) : List (String × String) :=
  m.others.filter fun p => p.1 ≠ ""

namespace PathFormat

/-- A label as two nodes. -/
def nodes (p : String × String) : List Char :=
  '.' :: (Escape.escapeChars p.1.toList ++ '.' :: Escape.escapeChars p.2.toList)

/-- A label as a tag. -/
def tag (p : String × String) : List Char :=
  ';' :: (p.1.toList ++ '=' :: Escape.escapeChars p.2.toList)

/-- A label as it stands in braces. -/
def assignment (p : String × String) : List Char :=
  p.1.toList ++ '=' :: '"' :: (Escape.escapeChars p.2.toList ++ ['"'])

/-- Labels in a format. -/
def labelText (format : PathFormat) (labels : List (String × String)) : List Char :=
  match format with
  | .dotted => labels.flatMap nodes
  | .tagged => labels.flatMap tag
  | .braced =>
    if labels.isEmpty then []
    else '\x7b' :: (Text.join [','] (labels.map assignment) ++ ['\x7d'])

end PathFormat

/-- The characters of a default path. -/
def LabelSet.pathChars (m : LabelSet) (format : PathFormat) (beginning : String) : List Char :=
  beginning.toList ++ Escape.escapeChars (m.getOrEmpty LabelSet.nameLabel).toList ++
    format.labelText m.pathLabels

/-- The default path of a label set. -/
def LabelSet.defaultPath (m : LabelSet) (format : PathFormat) (beginning : String) : String :=
  String.ofList (m.pathChars format beginning)

end MetricPath
