import MetricPath.Duration
import MetricPath.Rule
import MetricPath.Route

/-!
# Settings

The effective configuration: what is prepended to default paths and in which format they are, how
the write side generates and remembers paths, and how the read side interpolates.
-/

namespace MetricPath

/-- Settings of the write side. -/
structure WriteSettings where
  /-- Whether generated paths are remembered. -/
  cacheEnabled : Bool := true
  /-- For how long. -/
  cacheLifetime : Duration := Duration.ofSeconds 3600
  /-- The interval at which expired entries are removed. -/
  purgeInterval : Duration := Duration.ofSeconds 7200
  templateData : TemplateData := []
  rules : List RuleConfig := []

/-- Settings of the read side. -/
structure ReadSettings where
  /-- Samples are interpolated where they are further apart; zero asks for no interpolation. -/
  maxPointDelta : Duration := Duration.zero

/-- The effective configuration. -/
structure Settings where
  /-- The beginning of default paths. -/
  beginning : String := ""
  enableTags : Bool := false
  openMetrics : Bool := false
  write : WriteSettings := {}
  read : ReadSettings := {}

namespace Settings

/-- The format of default paths. -/
def format (s : Settings) : PathFormat := PathFormat.ofFlags s.enableTags s.openMetrics

/-- What is wrong with settings although each of them can be read. -/
inductive Invalid where
  | zeroLifetime
  | zeroPurgeInterval
deriving DecidableEq, Repr

/-- The message about settings that are wrong. -/
def Invalid.message : Invalid → String
  | .zeroLifetime =>
    "invalid configuration: write.paths_cache_ttl must be positive when the paths cache is enabled"
  | .zeroPurgeInterval =>
    "invalid configuration: write.paths_cache_purge_interval must be positive when the paths " ++
      "cache is enabled"

/-- Paths that are remembered need a lifetime and a purge interval. -/
def validate (s : Settings) : Except Invalid Settings :=
  if !s.write.cacheEnabled then .ok s
  else if s.write.cacheLifetime.isZero then .error .zeroLifetime
  else if s.write.purgeInterval.isZero then .error .zeroPurgeInterval
  else .ok s

/-- What path generation needs of the settings, with the rules compiled. -/
def pathConfig (s : Settings) : Except PathError PathConfig := do
  return ⟨s.format, s.beginning, ← Rule.compileAll s.write.rules, s.write.templateData⟩

end Settings

end MetricPath
