import MetricPath.Datapoint
import MetricPath.PathCache
import MetricPath.Settings

/-!
# From samples to lines

A translator turns samples into lines.  It holds one generation of the path configuration, the
paths it remembers, if it does, and counters.  A reload replaces the configuration and keeps the
remembered paths until they expire; compiled patterns are shared by all generations.

Every operation returns its answer and the translator after it.
-/

namespace MetricPath

/-- A translator. -/
structure Translator where
  config : PathConfig
  /-- Compiled patterns, and how often the template of each rule has been executed. -/
  activity : Activity
  cache? : Option PathCache
  /-- Samples left out because their value cannot be written. -/
  ignored : Nat
  /-- Samples left out because a template failed. -/
  failures : Nat

namespace Translator

/-- A translator that remembers paths as the given cache does. -/
def new (config : PathConfig) (cache? : Option PathCache) : Translator :=
  ⟨config, Activity.fresh config.rules.length, cache?, 0, 0⟩

/-- The translator that settings ask for. -/
def ofSettings (s : Settings) : Except PathError Translator := do
  let config ← s.pathConfig
  let cache? :=
    if s.write.cacheEnabled then
      some (PathCache.new s.write.cacheLifetime.nanoseconds s.write.purgeInterval.nanoseconds)
    else none
  return new config cache?

/-- Replace the configuration. -/
def reload (t : Translator) (config : PathConfig) : Translator :=
  { t with
    config
    activity := ⟨t.activity.patterns, List.replicate config.rules.length 0⟩ }

/-- Replace the configuration by that of the settings; if a rule cannot be compiled, nothing
changes. -/
def reloadSettings (t : Translator) (s : Settings) : Except PathError Unit × Translator :=
  match s.pathConfig with
  | .ok config => (.ok (), t.reload config)
  | .error e => (.error e, t)

/-- Generate paths without looking for remembered ones. -/
def generate (t : Translator) (m : LabelSet) (beginning? : Option String) :
    Except PathError (List String) × Translator :=
  let (paths, activity) :=
    (t.config.route (beginning?.getD t.config.beginning) m).run.run t.activity
  (paths, { t with activity })

/-- The paths of a label set; a given beginning takes the place of the configured one.  Remembered
paths are returned as they are, and generated ones are remembered unless they failed. -/
def paths (t : Translator) (m : LabelSet) (beginning? : Option String) :
    Except PathError (List String) × Translator :=
  match t.cache? with
  | none => t.generate m beginning?
  | some c =>
    let (found?, c) := c.get m.fingerprint
    match found? with
    | some paths => (.ok paths, { t with cache? := some c })
    | none =>
      match t.generate m beginning? with
      | (.ok paths, t) => (.ok paths, { t with cache? := some (c.insert m.fingerprint paths) })
      | (.error e, t) => (.error e, { t with cache? := some c })

/-- The lines of a sample. -/
def datapoints (t : Translator) (s : Sample) (beginning? : Option String) :
    Except PathError (List String) × Translator :=
  if !s.isWritable then
    (.error (.invalidSampleValue s.value), { t with ignored := t.ignored + 1 })
  else
    match t.paths s.labels beginning? with
    | (.ok paths, t) => (s.datapoints paths, t)
    | (.error e, t) => (.error e, { t with failures := t.failures + 1 })

/-- The lines of samples, those that fail left out. -/
def batchLines (t : Translator) (beginning? : Option String) :
    List Sample → List String × Translator
  | [] => ([], t)
  | s :: samples =>
    let (answer, t) := t.datapoints s beginning?
    let lines := match answer with
      | .ok lines => lines
      | .error _ => []
    let (more, t) := t.batchLines beginning? samples
    (lines ++ more, t)

/-- Lines as buffers: packed up to a limit if there is one, otherwise all in one. -/
def buffers (limit? : Option Nat) (lines : List String) : List String :=
  match limit? with
  | some limit => chunkLines lines limit
  | none => if lines.isEmpty then [] else [String.join lines]

/-- Encode samples into buffers. -/
def encodeBatch (t : Translator) (samples : List Sample) (beginning? : Option String)
    (limit? : Option Nat) : List String × Translator :=
  let (lines, t) := t.batchLines beginning? samples
  (buffers limit? lines, t)

/-- Start the periodic purge of remembered paths; also whether there are any. -/
def startPurge (t : Translator) : Bool × Translator :=
  match t.cache? with
  | some c => (true, { t with cache? := some c.startPurge })
  | none => (false, t)

/-- Remove expired paths; also how many there were. -/
def purge (t : Translator) : Option Nat × Translator :=
  match t.cache? with
  | some c =>
    let (count, c) := c.purge
    (some count, { t with cache? := some c })
  | none => (none, t)

/-- Let time pass. -/
def advance (t : Translator) (duration : Nat) : Translator :=
  { t with cache? := t.cache?.map fun c => c.advance duration }

/-- How often remembered paths were found. -/
def hits (t : Translator) : Nat := (t.cache?.map PathCache.hits).getD 0

/-- How often no remembered paths were found. -/
def misses (t : Translator) : Nat := (t.cache?.map PathCache.misses).getD 0

end Translator

end MetricPath
