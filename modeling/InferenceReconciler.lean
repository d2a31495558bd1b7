import InferenceReconciler.Binary64
import InferenceReconciler.ByteQuantity
import InferenceReconciler.CacheSpec
import InferenceReconciler.CachingIntent
import InferenceReconciler.ClusterQuery
import InferenceReconciler.ClusterRequest
import InferenceReconciler.ClusterStore
import InferenceReconciler.CommandLine
import InferenceReconciler.ComponentHealth
import InferenceReconciler.Condition
import InferenceReconciler.ConditionHistory
import InferenceReconciler.ConfigLayers
import InferenceReconciler.ConfigResolution
import InferenceReconciler.CoreObjects
import InferenceReconciler.CustomObject
import InferenceReconciler.CustomSchemas
import InferenceReconciler.DerivedTemplate
import InferenceReconciler.Dict
import InferenceReconciler.EscapedCharacters
import InferenceReconciler.Fault
import InferenceReconciler.GpuModel
import InferenceReconciler.ImagePull
import InferenceReconciler.ImageReference
import InferenceReconciler.InferenceServiceObject
import InferenceReconciler.JsonText
import InferenceReconciler.JsonValue
import InferenceReconciler.Labels
import InferenceReconciler.LetterCase
import InferenceReconciler.LetterCaseTables
import InferenceReconciler.Lifecycle
import InferenceReconciler.MergePatch
import InferenceReconciler.ModelResolution
import InferenceReconciler.ModelSpec
import InferenceReconciler.ObjectName
import InferenceReconciler.PathField
import InferenceReconciler.PathTemplate
import InferenceReconciler.PodFields
import InferenceReconciler.Policy
import InferenceReconciler.Proofs.BlockedProjection
import InferenceReconciler.Proofs.CacheBookkeeping
import InferenceReconciler.Proofs.ConditionsByType
import InferenceReconciler.Proofs.DomainProjections
import InferenceReconciler.Proofs.OpenGate
import InferenceReconciler.Proofs.PlanContents
import InferenceReconciler.Proofs.ReachedCaching
import InferenceReconciler.Proofs.ReachedProjections
import InferenceReconciler.Proofs.ResolvedRecords
import InferenceReconciler.Proofs.RetryBudget
import InferenceReconciler.Proofs.SettledTemplate
import InferenceReconciler.Proofs.SpentRetries
import InferenceReconciler.Proofs.StatusFeedback
import InferenceReconciler.Proofs.StatusRun
import InferenceReconciler.Proofs.StatusSettles
import InferenceReconciler.Proofs.WrittenStatus
import InferenceReconciler.QuotedText
import InferenceReconciler.Reasons
import InferenceReconciler.ReconcilePass
import InferenceReconciler.RecordedServer
import InferenceReconciler.RequestClient
import InferenceReconciler.Requeue
import InferenceReconciler.ResourceDefinition
import InferenceReconciler.ResourceKind
import InferenceReconciler.ResourceSchema
import InferenceReconciler.RouteObject
import InferenceReconciler.RouteResolution
import InferenceReconciler.RuntimeConfigSpec
import InferenceReconciler.RuntimeGate
import InferenceReconciler.RuntimeObject
import InferenceReconciler.RuntimeResources
import InferenceReconciler.RuntimeVolumes
import InferenceReconciler.ServiceObservation
import InferenceReconciler.ServicePlan
import InferenceReconciler.ServiceSnapshot
import InferenceReconciler.ServiceSpec
import InferenceReconciler.ServiceStatus
import InferenceReconciler.ServingEnvironment
import InferenceReconciler.Sha256
import InferenceReconciler.ShortestDecimal
import InferenceReconciler.ShownDecision
import InferenceReconciler.ShownPass
import InferenceReconciler.SimulatedCluster
import InferenceReconciler.SpecFields
import InferenceReconciler.StatusProjection
import InferenceReconciler.StorageObjects
import InferenceReconciler.StorageProjection
import InferenceReconciler.TemplateRecord
import InferenceReconciler.TemplateResolution
import InferenceReconciler.TemplateSelection
import InferenceReconciler.TemplateSpec
import InferenceReconciler.Timestamp
import InferenceReconciler.Trimming
import InferenceReconciler.WeightStorage
import InferenceReconciler.WireForm
import InferenceReconciler.YamlText
import InferenceReconciler.Main
import InferenceReconciler.Proofs.FailedCache
import InferenceReconciler.Proofs.PlannedRuntime
import InferenceReconciler.Proofs.TimestampText
import InferenceReconciler.Proofs.WireRoundTrip
import InferenceReconciler.Proofs.StatusWriteBack
import InferenceReconciler.Proofs.MountedWeights
import InferenceReconciler.Proofs.CreatedObjects
import InferenceReconciler.Proofs.NewSharedObjects
import InferenceReconciler.Proofs.SharedBodies
import InferenceReconciler.Proofs.ObjectRoundTrip
import InferenceReconciler.Proofs.ArrivedObjects
import InferenceReconciler.Proofs.DerivedOnce
import InferenceReconciler.Proofs.CreationCloses
import InferenceReconciler.Proofs.StoragePaths
import InferenceReconciler.Proofs.PlanEntries
import InferenceReconciler.Proofs.Ownership
import InferenceReconciler.Proofs.PassEffects
import InferenceReconciler.Proofs.FailedReads
import InferenceReconciler.Proofs.TransitionTimes
import InferenceReconciler.Proofs.KeptTemplate
import InferenceReconciler.Proofs.RunningPhase
import InferenceReconciler.Proofs.OverriddenRuntime
import InferenceReconciler.Proofs.ServedModel
import InferenceReconciler.Proofs.LeftoverTemplate
import InferenceReconciler.Proofs.SelectedTemplate
import InferenceReconciler.Proofs.JsonTextParts
import InferenceReconciler.Proofs.JsonTextRoundTrip
import InferenceReconciler.Proofs.PlainWire
import InferenceReconciler.Proofs.SpecRoundTrip
import InferenceReconciler.Proofs.DerivableOverrides
import InferenceReconciler.Proofs.NodePlacement
import InferenceReconciler.Proofs.SelectedPlacement
import InferenceReconciler.Proofs.DerivedNames
import InferenceReconciler.Proofs.LegalNames
import InferenceReconciler.Proofs.OverriddenFields
import InferenceReconciler.Proofs.ModelLookup
import InferenceReconciler.Proofs.CacheScopes
import InferenceReconciler.Proofs.StorageSize
import InferenceReconciler.Proofs.FirstReadyCache
import InferenceReconciler.Proofs.DedicatedVolumes
import InferenceReconciler.Proofs.UnavailableRecords
import InferenceReconciler.Proofs.RoundedNumbers
import InferenceReconciler.Proofs.WholeQuantities
import InferenceReconciler.Proofs.VariableLists
import InferenceReconciler.Proofs.LayeredSettings
import InferenceReconciler.Proofs.BlankSettings
import InferenceReconciler.Proofs.ByteOrder
import InferenceReconciler.Proofs.RuntimeEnvironment
import InferenceReconciler.Proofs.GpuQuantities
import InferenceReconciler.Proofs.VolumesInTurn
import InferenceReconciler.Proofs.MountPaths
import InferenceReconciler.Proofs.OrderedMembers
import InferenceReconciler.Proofs.GatedUpdate
import InferenceReconciler.Proofs.RuntimeLabels
import InferenceReconciler.Proofs.FieldSpellings
import InferenceReconciler.Proofs.TemplateScan
import InferenceReconciler.Proofs.TemplateGrammar
import InferenceReconciler.Proofs.PathSegments
import InferenceReconciler.Proofs.NormalPaths
import InferenceReconciler.Proofs.RouteSegments
import InferenceReconciler.Proofs.FittedNames
import InferenceReconciler.Proofs.OwnedNames
import InferenceReconciler.Proofs.HashedTexts
import InferenceReconciler.Proofs.ImageParts
import InferenceReconciler.Proofs.SanitizedTexts
import InferenceReconciler.Proofs.CaseForms
import InferenceReconciler.Proofs.GpuSpellings
import InferenceReconciler.Proofs.PinnedImages
import InferenceReconciler.Proofs.LayeredRequests
