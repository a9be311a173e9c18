import MetricPath.Path.Default
import MetricPath.Rule

/-!
# Paths of a label set

The rules are walked in their order.  Each one that matches and has a template contributes a path,
and the first one that matches and does not continue ends the walk; if it is silencing, no path
remains.  A walk that comes to its end adds the default path.

The walk renders templates, so it changes an `Activity`: the patterns compiled so far and how
often the template of each rule has been executed.
-/

namespace MetricPath

/-- Data that every template finds in its context. -/
abbrev TemplateData := List (String × Value)

/-- What rendering leaves behind: compiled patterns, and how often the template of each rule has
been executed, failures included. -/
structure Activity where
  patterns : Template.PatternCache
  executions : List Nat

/-- Nothing rendered yet, for a number of rules. -/
def Activity.fresh (rules : Nat) : Activity :=
  ⟨Template.PatternCache.empty, List.replicate rules 0⟩

/-- A computation that may fail and leaves activity behind. -/
abbrev Routing := ExceptT PathError (StateM Activity)

/-- How a walk of the rules ends. -/
inductive Ending where
  /-- No rule ended it. -/
  | exhausted
  /-- A rule with a template did. -/
  | stopped
  /-- A silencing rule did. -/
  | silenced
deriving DecidableEq, Repr

/-- A walk: the rendered paths, and how it ended. -/
structure Walk where
  rendered : List String
  ending : Ending
deriving DecidableEq, Repr

/-- The name under which templates find the labels. -/
def labelsField : String := "labels"

/-- The context of templates: the template data, and the labels in a field that hides any of the
same name. -/
def templateContext (m : LabelSet) (data : TemplateData) : Value :=
  .object (Fields.insert labelsField (.object (m.pairs.map fun p => (p.1, .string p.2))) data)

/-- Render the template of the rule at a position. -/
def renderRule (context : Value) (position : Nat) (t : Template) : Routing String := fun activity =>
  let (rendered, patterns) := (t.execute context).run.run activity.patterns
  let after : Activity := ⟨patterns, activity.executions.modify position (· + 1)⟩
  match rendered with
  | .ok path => (.ok path, after)
  | .error fault => (.error (.template position fault), after)

/-- Walk the rules from a position on. -/
def walkFrom (m : LabelSet) (context : Value) : (position : Nat) → List Rule → Routing Walk
  | _, [] => return ⟨[], .exhausted⟩
  | position, r :: rs =>
    if !r.accepts m then walkFrom m context (position + 1) rs
    else
      match r.template? with
      | none =>
        if r.continues then walkFrom m context (position + 1) rs else return ⟨[], .silenced⟩
      | some t => do
        let path ← renderRule context position t
        if r.continues then
          let w ← walkFrom m context (position + 1) rs
          return { w with rendered := path :: w.rendered }
        else return ⟨[path], .stopped⟩

/-- What path generation depends on besides the labels. -/
structure PathConfig where
  format : PathFormat := .dotted
  /-- The beginning of default paths. -/
  beginning : String := ""
  rules : List Rule := []
  data : TemplateData := []

/-- The paths of a walk. -/
def Walk.paths (w : Walk) (default : String) : List String :=
  match w.ending with
  | .exhausted => w.rendered ++ [default]
  | .stopped => w.rendered
  | .silenced => []

/-- The paths of a label set; default paths begin as given. -/
def PathConfig.route (c : PathConfig) (beginning : String) (m : LabelSet) :
    Routing (List String) := do
  let w ← walkFrom m (templateContext m c.data) 0 c.rules
  return w.paths (m.defaultPath c.format beginning)

end MetricPath
