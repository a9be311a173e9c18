import MetricPath.Template.Eval

/-!
# Templates

A template is compiled once from its source and then rendered against any number of contexts.
-/

namespace MetricPath

/-- A compiled template. -/
structure Template where
  source : String
  nodes : List Template.Node

namespace Template

/-- The template that a source denotes. -/
def compile (source : String) : Except ParseError Template := do
  return ⟨source, ← parse source.toList⟩

/-- Render a template against a context, with the patterns compiled so far. -/
def execute (t : Template) (context : Value) : Eval String :=
  renderNodes context (some context) t.nodes

end Template

end MetricPath
