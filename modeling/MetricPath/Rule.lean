import MetricPath.Error
import MetricPath.LabelSet

/-!
# Rules

A rule applies to the label sets that meet all of its conditions, exact ones and patterns.  It may
have a template for a path, and it says whether the rules after it are looked at as well.  A rule
without a template that ends the walk silences what it matches.
-/

namespace MetricPath

/-- A rule as it is configured. -/
structure RuleConfig where
  /-- Without one the rule renders nothing; an empty one renders an empty path. -/
  template? : Option String := none
  /-- Labels and the values they must have. -/
  exact : List (String × String) := []
  /-- Labels and the patterns that their values must match. -/
  patterns : List (String × String) := []
  continues : Bool := false
deriving DecidableEq, Repr

/-- A rule that is ready to be applied. -/
structure Rule where
  exact : List (String × String)
  patterns : List (String × Pattern)
  template? : Option Template
  continues : Bool

namespace Rule

/-- Compile the patterns of a rule, in the order of their labels. -/
def compilePatterns (patterns : List (String × String)) :
    Except RuleFault (List (String × Pattern)) :=
  patterns.mapM fun (name, source) =>
    match Pattern.anchored source with
    | .ok p => .ok (name, p)
    | .error fault => .error (.pattern ⟨source, fault⟩)

/-- Compile the template of a rule, if it has one. -/
def compileTemplate : Option String → Except RuleFault (Option Template)
  | none => .ok none
  | some source =>
    match Template.compile source with
    | .ok t => .ok (some t)
    | .error e => .error (.template e)

/-- Compile the rule at a position of the configured list: first its patterns, then its template. -/
def compile (config : RuleConfig) (position : Nat) : Except PathError Rule :=
  let compiled : Except RuleFault Rule := do
    let patterns ← compilePatterns config.patterns
    let template? ← compileTemplate config.template?
    return ⟨config.exact, patterns, template?, config.continues⟩
  compiled.mapError (.invalidRule position)

/-- Compile rules from a position on; the first that cannot be compiled fails them all. -/
def compileFrom : (position : Nat) → List RuleConfig → Except PathError (List Rule)
  | _, [] => .ok []
  | position, c :: cs => do
    let r ← compile c position
    let rs ← compileFrom (position + 1) cs
    return r :: rs

/-- Compile a configured list of rules. -/
def compileAll (configs : List RuleConfig) : Except PathError (List Rule) := compileFrom 0 configs

/-- Whether what the rule matches gets no path. -/
def isSilencing (r : Rule) : Bool := !r.continues && r.template?.isNone

/-- Whether a label set meets all conditions.  An absent label counts as the empty text. -/
def accepts (r : Rule) (m : LabelSet) : Bool :=
  (r.exact.all fun p => m.getOrEmpty p.1 = p.2) &&
    r.patterns.all fun p => p.2.isMatch (m.getOrEmpty p.1)

end Rule

end MetricPath
