import ControlPlaneKit.Planning.PlanCodecLaws
import ControlPlaneKit.Planning.Unchanged
import ControlPlaneKit.Topology.Sameness
import ControlPlaneKit.Planning.Rebinding
import ControlPlaneKit.Topology.Fitting
import ControlPlaneKit.Planning.Bracketing
import ControlPlaneKit.Planning.PlanAcyclic
import ControlPlaneKit.Planning.PlanSafety
import ControlPlaneKit.Planning.PlanConditions
import ControlPlaneKit.Planning.CompiledPlan
import ControlPlaneKit.Planning.LinkSoundness
import ControlPlaneKit.Planning.LinkCompleteness
import ControlPlaneKit.Planning.Tokens
import ControlPlaneKit.Planning.Drafted
import ControlPlaneKit.Planning.Gathering
import ControlPlaneKit.Topology.DiffSubjects
import ControlPlaneKit.Topology.Diff
import ControlPlaneKit.Topology.Changes
import ControlPlaneKit.Topology.Validation
import ControlPlaneKit.Topology.Codec
import ControlPlaneKit.Topology.Graph
import ControlPlaneKit.Library.Outcome
import ControlPlaneKit.Topology.Material
import ControlPlaneKit.Topology.HexDigests
import ControlPlaneKit.Topology.Types
import ControlPlaneKit.Library.PyValue
import ControlPlaneKit.Library.JsonText
import ControlPlaneKit.Library.JsonMeaning
import ControlPlaneKit.Library.Sha256
import ControlPlaneKit.Planning.JournalConditions
import ControlPlaneKit.Planning.ScheduleLaws
import ControlPlaneKit.Planning.SagaFinality
import ControlPlaneKit.Planning.SagaOrder
import ControlPlaneKit.Library.QuotedText
import ControlPlaneKit.Operations.Records
import ControlPlaneKit.Operations.Authority
import ControlPlaneKit.Operations.Receipts
import ControlPlaneKit.Operations.Tables
import ControlPlaneKit.Operations.EffectFolding
import ControlPlaneKit.Operations.Lifecycle
import ControlPlaneKit.Operations.LifecycleLaws
import ControlPlaneKit.Operations.LifecycleHistory
import ControlPlaneKit.Operations.CommandReceipts
import ControlPlaneKit.Operations.ExactlyOnce
import ControlPlaneKit.Library.Transactions
import ControlPlaneKit.Library.Interleaved
import ControlPlaneKit.Operations.Temporal
import ControlPlaneKit.Library.Registry
import ControlPlaneKit.Operations.Registries
import ControlPlaneKit.Operations.RegistryLaws
import ControlPlaneKit.Library.Supersession
import ControlPlaneKit.Operations.SecretProviders
import ControlPlaneKit.Operations.SecretProviderLaws
import ControlPlaneKit.Operations.SecretUses
import ControlPlaneKit.Operations.SecretUseLaws
import ControlPlaneKit.Topology.Verifiers
import ControlPlaneKit.Rotation.SigningKeys
import ControlPlaneKit.Rotation.SigningKeyLaws
import ControlPlaneKit.Rotation.RotationRecords
import ControlPlaneKit.Rotation.Rotations
import ControlPlaneKit.Rotation.RotationMoves
import ControlPlaneKit.Rotation.RotationLaws
import ControlPlaneKit.Rotation.RotationLifecycle
import ControlPlaneKit.Rotation.Completion
import ControlPlaneKit.Rotation.CompletionLaws
import ControlPlaneKit.Rotation.VerifierProjection
import ControlPlaneKit.Rotation.VerifierProjectionLaws
import ControlPlaneKit.Rotation.KeySwitch
import ControlPlaneKit.Rotation.RotationFinishes
import ControlPlaneKit.NodeControl.PublicWire
import ControlPlaneKit.NodeControl.Values
import ControlPlaneKit.NodeControl.Grants
import ControlPlaneKit.NodeControl.Transit
import ControlPlaneKit.NodeControl.SurfaceReads
import ControlPlaneKit.NodeControl.DescriptorLaws
import ControlPlaneKit.NodeControl.VerificationLaws
import ControlPlaneKit.NodeControl.Codec
import ControlPlaneKit.NodeControl.Declarations
import ControlPlaneKit.NodeControl.PublicWireLaws
import ControlPlaneKit.NodeControl.BoundaryLaws
import ControlPlaneKit.NodeControl.CodecLaws
import ControlPlaneKit.NodeControl.OneEncoding
import ControlPlaneKit.Library.PosixPath
import ControlPlaneKit.Library.UrlSplit
import ControlPlaneKit.Topology.SecretReferences
import ControlPlaneKit.Topology.TargetPaths
import ControlPlaneKit.Planning.LeastBlocking
import ControlPlaneKit.Topology.JsonSnapshotLaws
import ControlPlaneKit.Library.KeysetPages
import ControlPlaneKit.Operations.PostgresTime
import ControlPlaneKit.Operations.ReadCursors
import ControlPlaneKit.Operations.ReadCursorLaws
import ControlPlaneKit.Operations.ReadPages
import ControlPlaneKit.Operations.ReadPageLaws
import ControlPlaneKit.NodeControl.Attempts
import ControlPlaneKit.NodeControl.Intents
import ControlPlaneKit.NodeControl.IntentLaws
import ControlPlaneKit.NodeControl.IntentRows
import ControlPlaneKit.NodeControl.IntentFaults
import ControlPlaneKit.NodeControl.IntentRuns
import ControlPlaneKit.NodeControl.IntentRunLaws
import ControlPlaneKit.Library.Lanes
import ControlPlaneKit.Operations.SecretCustody
import ControlPlaneKit.Operations.IngressResources
import ControlPlaneKit.Operations.IngressRealization
import ControlPlaneKit.Operations.IngressTables
import ControlPlaneKit.Operations.IngressSteps
import ControlPlaneKit.Operations.IngressLaws
import ControlPlaneKit.Operations.IngressRemovalLaws
import ControlPlaneKit.Operations.IngressProgress
import ControlPlaneKit.Operations.IngressInterruption
import ControlPlaneKit.NodeControl.PublicPatterns
import ControlPlaneKit.NodeControl.Audiences
import ControlPlaneKit.Operations.Compensation
import ControlPlaneKit.Planning.OperationCodec
import ControlPlaneKit.Operations.CompensationLaws
import ControlPlaneKit.Library.CanonicalText
import ControlPlaneKit.NodeControl.SurfaceReadResults
import ControlPlaneKit.NodeControl.AggregateBounds
import ControlPlaneKit.NodeControl.ResultBounds
import ControlPlaneKit.NodeControl.SurfaceReadResultLaws
import ControlPlaneKit.Operations.RuntimeEffects
import ControlPlaneKit.Operations.RuntimeEffectUses
import ControlPlaneKit.Library.CanonicalReading
import ControlPlaneKit.Library.IntegralFloats
