import MetricPath.Main
import MetricPath.Matcher
import MetricPath.Proofs.Escape
import MetricPath.Proofs.DottedPath
import MetricPath.Proofs.Rendering
import MetricPath.Proofs.RuleWalk
import MetricPath.Proofs.PathCache
import MetricPath.Proofs.CacheRuns
import MetricPath.Proofs.TranslatorRuns
import MetricPath.Proofs.Beginnings
import MetricPath.Proofs.UniquePaths
import MetricPath.Proofs.TaggedPath
import MetricPath.Proofs.ActionGrammar
import MetricPath.Proofs.TemplateGrammar
import MetricPath.Proofs.Batches
import MetricPath.Proofs.Filtering
import MetricPath.Proofs.Fingerprint
import MetricPath.Proofs.OneByteApart
import MetricPath.Proofs.Comparison
import MetricPath.Proofs.PatternUse
import MetricPath.Proofs.Concatenation
import MetricPath.Proofs.NestedCalls
import MetricPath.Proofs.TrimMarkers
import MetricPath.Proofs.Mentions
import MetricPath.Proofs.DatapointLines
import MetricPath.Proofs.PatternMatching
import MetricPath.Proofs.PatternScanning
import MetricPath.Proofs.Anchoring
import MetricPath.Proofs.GlobQuery
import MetricPath.Proofs.PeriodicPurge
import MetricPath.Proofs.PatternFront
import MetricPath.Proofs.NamePattern
import MetricPath.Proofs.TagQuery
import MetricPath.Proofs.Interpolation
import MetricPath.Proofs.Packing
import MetricPath.Proofs.ParsePlaces
import MetricPath.Proofs.EscapeTokens
import MetricPath.Proofs.TagOrder
import MetricPath.Proofs.StringLiterals
import MetricPath.Proofs.NumberEquality
import MetricPath.Proofs.Demands
