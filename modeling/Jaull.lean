import Jaull.Lib.StableSort
import Jaull.Runtime.Preference
import Jaull.Estimator.Conservation
import Jaull.Estimator.Compatibility
import Jaull.Estimator.CpuTarget
import Jaull.Recommendation.Measured
import Jaull.Text.Json
import Jaull.Text.Case
import Jaull.Lib.Grouping
import Jaull.Lib.Slots
import Jaull.Recommendation.Ranking
import Jaull.Recommendation.Shadow
import Jaull.Recommendation.Diversity
import Jaull.ExecutionPlans.PlanId
import Jaull.Domain.GgufVariants
import Jaull.Domain.Licenses
import Jaull.Domain.RuntimeSupport
import Jaull.ExecutionPlans.Service
import Jaull.Domain.Records
import Jaull.Recommendation.LocalEvidence
import Jaull.Recommendation.Generation
import Jaull.Recommendation.Quality
import Jaull.Recommendation.Assessment
import Jaull.Recommendation.ReadinessBlind
import Jaull.Lib.Axes
import Jaull.Recommendation.Criteria
import Jaull.Recommendation.Recompare
import Jaull.Recommendation.Identities
import Jaull.Recommendation.InputOrder
import Jaull.Domain.Enrichment
import Jaull.Lib.Reader
import Jaull.Metadata.GgufReader
import Jaull.Metadata.RangeReader
import Jaull.Lib.Dict
import Jaull.Metadata.ConfigMerger
import Jaull.Metadata.EarlyStop
import Jaull.Domain.Memory
import Jaull.Estimator.KvCache
import Jaull.Estimator.Weights
import Jaull.Lib.Signs
import Jaull.Estimator.UntrustedHeader
import Jaull.Lib.JsonText
import Jaull.Lib.PyObject
import Jaull.Evaluation.RuntimeContract
import Jaull.Evaluation.Identity
import Jaull.Evaluation.Records
import Jaull.Evaluation.Comparison
import Jaull.Evaluation.Accepted
import Jaull.Evaluation.Comparability
import Jaull.Evaluation.Outcomes
import Jaull.Evaluation.Antisymmetry
import Jaull.Evaluation.Store
import Jaull.Evaluation.Traps
import Jaull.Evaluation.Loading
import Jaull.Evaluation.Saving
import Jaull.Lib.PyEquality
import Jaull.Evaluation.ConcurrentSaves
import Jaull.Evaluation.Evidence
import Jaull.Recommendation.QualityIndex
import Jaull.Evaluation.Description
import Jaull.Recommendation.StoreAgreement
import Jaull.Evaluation.ChatRecords
import Jaull.Cases.SafeIds
import Jaull.Cases.Manifest
import Jaull.Cases.RecordStore
import Jaull.Cases.StoreRace
import Jaull.Cases.SavedCases
import Jaull.Cases.CaseRecords
import Jaull.Cases.Validation
import Jaull.Cases.Bundle
import Jaull.Cases.Monotone
import Jaull.Lib.Anchored
import Jaull.Recommendation.SelectionOrder
import Jaull.Estimator.ByteSearch
import Jaull.Estimator.HardwareMonotone
import Jaull.Estimator.KvRounding
import Jaull.Estimator.Configuration
import Jaull.Estimator.AggressiveChoice
import Jaull.Lib.Ranges
import Jaull.Metadata.TensorIndex
import Jaull.Cases.Explained
import Jaull.Hardware.Detector
import Jaull.Hardware.MergeApart
import Jaull.Adapters.Caches
import Jaull.Discovery.Hints
import Jaull.Discovery.Shortlist
import Jaull.Evaluation.LaunchFlags
import Jaull.Lib.Pools
import Jaull.Runtime.TensorPolicy
import Jaull.Estimator.Decomposition
import Jaull.Runtime.LaunchPolicy
import Jaull.Lib.HalfEven
import Jaull.Recommendation.SpeedCohort
import Jaull.Recommendation.RecordAudit
import Jaull.Lib.Versions
import Jaull.Recommendation.SpeedFigures
import Jaull.Runtime.DeviceMatching
import Jaull.Runtime.MemoryReport
import Jaull.Runtime.DeviceEvidence
import Jaull.Runtime.BenchProtocol
import Jaull.Evaluation.BenchmarkComparison
import Jaull.Evaluation.NewestPlans
import Jaull.Discovery.ShortlistBudget
import Jaull.Discovery.RelevanceOrder
import Jaull.Lib.PurePath
import Jaull.Text.Endings
import Jaull.Huggingface.Classifiers
import Jaull.Huggingface.Representations
import Jaull.Discovery.Reuploads
import Jaull.Adapters.StoredHeader
import Jaull.Discovery.Sightings
import Jaull.Workflow.RunCache
import Jaull.Discovery.CoarsePlacement
import Jaull.Discovery.UnknownCoverage
import Jaull.Lib.Behaviour
import Jaull.Estimator.Service
import Jaull.Workflow.Evaluate
import Jaull.Workflow.EstimateCache
import Jaull.Lib.Words
import Jaull.Runtime.Recommend
import Jaull.Execution.Planner
import Jaull.Lib.RoundRobin
import Jaull.Advisor.SpeedSchedule
import Jaull.Domain.ExecutionPlans
import Jaull.Lib.Triples
import Jaull.Discovery.Enrichment
import Jaull.Application.ArtifactVariants
import Jaull.Application.Alternatives
import Jaull.Application.PoolExpansion
import Jaull.Application.PoolRescue
import Jaull.Application.SoundPool
import Jaull.Artifacts.Certified
import Jaull.Cases.BundleExport
import Jaull.Cases.BundleLoad
import Jaull.Cases.BundlePreserves
import Jaull.Adapters.HeaderKeys
import Jaull.Discovery.Lineage
import Jaull.Metadata.GgufFormat
import Jaull.Metadata.Service
import Jaull.Workflow.HeaderPrefetch
import Jaull.Workflow.PrefetchAgrees
import Jaull.Metadata.TensorFormat
import Jaull.Execution.Host
import Jaull.Execution.HostRuns
import Jaull.Discovery.QueryBuilder
import Jaull.Workflow.Search
import Jaull.Advisor.CandidateRuns
import Jaull.Advisor.Offers
import Jaull.Runtime.BenchTable
import Jaull.Benchmarks.LlamaBench
import Jaull.Benchmarks.Matrix
