import MetricPath.Error
import MetricPath.Escape
import MetricPath.LabelSet

/-!
# Reading labels back

A path in the dotted format gives back its labels: the first node is the metric name and the
others are names and values in turn.  A series found by its tags gives them back as they are, but
for the tag that holds the metric name.
-/

namespace MetricPath

/-- The text without the given beginning, if it begins so. -/
def dropBeginning (beginning s : List Char) : List Char :=
  (Text.dropBeginning? beginning s).getD s

/-- The labels of nodes that are names and values in turn, added to `m`; nothing if one is left
over. -/
def LabelSet.insertNodes? (m : LabelSet) : List (List Char) → Option LabelSet
  | [] => some m
  | [_] => none
  | name :: value :: rest =>
    (m.insert (String.ofList (Escape.unescapeChars name))
      (String.ofList (Escape.unescapeChars value))).insertNodes? rest

/-- The nodes of a path: the beginning and the dots at both ends do not count. -/
def pathNodes (path beginning : String) : List (List Char) :=
  Text.splitChar '.'
    (Text.trim (fun c => c = '.') (dropBeginning beginning.toList path.toList))

/-- The label set of a path in the dotted format. -/
def LabelSet.ofPath (path beginning : String) : Except PathError LabelSet :=
  match pathNodes path beginning with
  | [] => .ok (LabelSet.named "")
  | name :: nodes =>
    match (LabelSet.named (String.ofList (Escape.unescapeChars name))).insertNodes? nodes with
    | some m => .ok m
    | none => .error (.malformedPath path)

/-- The tag that holds the metric name. -/
def nameTag : String := "name"

/-- The label of a tag.  The metric name loses the given beginning. -/
def labelOfTag (beginning : String) (tag : String × String) : String × String :=
  if tag.1 = nameTag then
    (LabelSet.nameLabel, String.ofList (dropBeginning beginning.toList tag.2.toList))
  else tag

/-- The label set of a series found by its tags. -/
def LabelSet.ofTags (tags : List (String × String)) (beginning : String) : LabelSet :=
  LabelSet.ofList (tags.map (labelOfTag beginning))

end MetricPath
