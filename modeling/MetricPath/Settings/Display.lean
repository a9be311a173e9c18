import MetricPath.Settings
import MetricPath.Text.Quoted
import MetricPath.Value.Json

/-!
# Showing settings

The effective settings are shown as JSON, in the names and the order that configuration files use,
or as a summary for people.
-/

namespace MetricPath

namespace RuleConfig

/-- A table of texts as a value. -/
def tableValue (fields : List (String × String)) : Value :=
  .object (fields.map fun p => (p.1, .string p.2))

/-- A field that is left out when its table is empty. -/
def tableField (name : String) (fields : List (String × String)) : List (String × Value) :=
  if fields.isEmpty then [] else [(name, tableValue fields)]

/-- A rule as a value; what is not set is left out. -/
def toValue (r : RuleConfig) : Value :=
  let template := match r.template? with
    | some t => [("template", Value.string t)]
    | none => []
  .object (template ++ tableField "match" r.exact ++ tableField "match_re" r.patterns ++
    [("continue", .bool r.continues)])

/-- A table of texts on one line. -/
def tableText (fields : List (String × String)) : String :=
  "\x7b" ++
    ", ".intercalate (fields.map fun p => Text.quoted p.1 ++ ": " ++ Text.quoted p.2) ++ "\x7d"

/-- A text that may be absent. -/
def optionalText : Option String → String
  | some s => "Some(" ++ Text.quoted s ++ ")"
  | none => "None"

/-- A truth value in words. -/
def boolText (b : Bool) : String := if b then "true" else "false"

/-- A rule at a position on one line. -/
def summary (position : Nat) (r : RuleConfig) : String :=
  "  #" ++ toString position ++ ": match=" ++ tableText r.exact ++ " match_re=" ++
    tableText r.patterns ++ " template=" ++ optionalText r.template? ++ " continue=" ++
    boolText r.continues

end RuleConfig

namespace Settings

/-- The settings as a value. -/
def toValue (s : Settings) : Value :=
  let duration (d : Duration) : Value := .string d.render
  .object [
    ("default_prefix", .string s.beginning),
    ("enable_tags", .bool s.enableTags),
    ("openmetrics", .bool s.openMetrics),
    ("write", .object [
      ("enable_paths_cache", .bool s.write.cacheEnabled),
      ("paths_cache_ttl", duration s.write.cacheLifetime),
      ("paths_cache_purge_interval", duration s.write.purgeInterval),
      ("template_data", .object s.write.templateData),
      ("rules", .list (s.write.rules.map RuleConfig.toValue))]),
    ("read", .object [("max_point_delta", duration s.read.maxPointDelta)])]

/-- The settings as JSON. -/
def renderJson (s : Settings) : String := s.toValue.renderJson

/-- The word for the format of default paths. -/
def formatWord (s : Settings) : String :=
  if s.openMetrics then "openmetrics" else if s.enableTags then "tags" else "carbon"

/-- The lines of the rules from a position on. -/
def ruleLines : (position : Nat) → List RuleConfig → List String
  | _, [] => []
  | position, r :: rs => r.summary position :: ruleLines (position + 1) rs

/-- The lines of a summary for people. -/
def summaryLines (s : Settings) : List String :=
  let cache :=
    if s.write.cacheEnabled then
      "ttl " ++ s.write.cacheLifetime.renderShort ++ ", purge every " ++
        s.write.purgeInterval.renderShort
    else "disabled"
  let interpolation :=
    if s.read.maxPointDelta.isZero then "disabled"
    else "every " ++ s.read.maxPointDelta.renderShort
  [ "Graphite bridge configuration:",
    "==============================",
    "Default prefix: " ++ Text.quoted s.beginning,
    "Path format: " ++ s.formatWord,
    "Paths cache: " ++ cache,
    "Template data keys: " ++ toString s.write.templateData.length,
    "Rules: " ++ toString s.write.rules.length ] ++
  ruleLines 0 s.write.rules ++
  [ "Read interpolation: " ++ interpolation ]

end Settings

end MetricPath
