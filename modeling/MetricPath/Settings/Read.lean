import MetricPath.Settings
import MetricPath.Settings.Record

/-!
# Settings from values

The settings of a table of fields, in the names that configuration files use.  At the top, fields of
other names are passed over; the records within have no others.
-/

namespace MetricPath.Settings

mutual

/-- A value as data: a number that is not finite is no data, and whole numbers have 64 bits. -/
def readData : Value → Read Value
  | .number (.int i) =>
    if -9223372036854775808 ≤ i && i ≤ 18446744073709551615 then .ok (.number (.int i))
    else .error (.here .numberTooLarge)
  | .number (.float x) => .ok (if x.isFinite then .number (.float x) else .null)
  | .list items => do return .list (← readDataItems 0 items)
  | .object fields => do return .object (← readDataFields fields)
  | v => .ok v

/-- The items of a list from a position on, as data. -/
def readDataItems (position : Nat) : List Value → Read (List Value)
  | [] => .ok []
  | v :: vs => do
    let item ← within (toString position) (readData v)
    return item :: (← readDataItems (position + 1) vs)

/-- The fields of an object, as data. -/
def readDataFields : List (String × Value) → Read (List (String × Value))
  | [] => .ok []
  | (name, v) :: fields => do
    let value ← within name (readData v)
    return (name, value) :: (← readDataFields fields)

end

/-- Template data. -/
def readTemplateData : Value → Read TemplateData
  | .object fields => readDataFields fields
  | _ => .error (.here .wrongType)

/-- The fields of a rule. -/
def ruleReader : RecordReader RuleConfig where
  names := ["template", "match", "match_re", "continue"]
  set name v rule :=
    match name with
    | "template" => do return { rule with template? := ← readOptionalText v }
    | "match" => do return { rule with exact := ← readTextTable v }
    | "match_re" => do return { rule with patterns := ← readTextTable v }
    | _ => do return { rule with continues := ← readBool v }

/-- The fields of the write side. -/
def writeReader : RecordReader WriteSettings where
  names :=
    ["enable_paths_cache", "paths_cache_ttl", "paths_cache_purge_interval", "template_data",
      "rules"]
  set name v write :=
    match name with
    | "enable_paths_cache" => do return { write with cacheEnabled := ← readBool v }
    | "paths_cache_ttl" => do return { write with cacheLifetime := ← readDuration v }
    | "paths_cache_purge_interval" => do return { write with purgeInterval := ← readDuration v }
    | "template_data" => do return { write with templateData := ← readTemplateData v }
    | _ => do return { write with rules := ← readList (ruleReader.read {}) v }

/-- The fields of the read side. -/
def readReader : RecordReader ReadSettings where
  names := ["max_point_delta"]
  set _ v _ := do return { maxPointDelta := ← readDuration v }

/-- The settings with the field of a name set. -/
def setField (name : String) (v : Value) (s : Settings) : Read Settings :=
  match name with
  | "default_prefix" => do return { s with beginning := ← readText v }
  | "enable_tags" => do return { s with enableTags := ← readBool v }
  | "openmetrics" => do return { s with openMetrics := ← readBool v }
  | "write" => do return { s with write := ← writeReader.read {} v }
  | "read" => do return { s with read := ← readReader.read {} v }
  | _ => .ok s

/-- The settings of a table of fields. -/
def ofFields (fields : List (String × Value)) : Read Settings :=
  fields.foldlM (fun s (name, v) => within name (setField name v s)) {}

end MetricPath.Settings
