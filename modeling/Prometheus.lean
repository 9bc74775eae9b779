import Prometheus.Machine.Trace
import Prometheus.Codec.Json
import Prometheus.Codec.Sha256
import Prometheus.Jaeger.ApprovalLedger.Atomic
import Prometheus.Jaeger.ApprovalLedger.Authority
import Prometheus.Jaeger.ApprovalLedger.Completion
import Prometheus.Jaeger.ApprovalLedger.ResultWire
import Prometheus.Jaeger.ApprovalLedger.Digests
import Prometheus.Jaeger.ApprovalLedger.Eligible
import Prometheus.Jaeger.SignedBallots.Approval
import Prometheus.Jaeger.ThreatHintReplay.Replay
import Prometheus.Client.RuleSignedSnapshot
import Prometheus.ThreatHint.EndpointObservation
import Prometheus.ThreatHint.V2ProofEnvelope
import Prometheus.ThreatHint.RelationManifest
import Prometheus.ThreatHint.ObservableAgreement
import Prometheus.Deployer.BroadcastSafety
import Prometheus.Ingress.ThreatHintIngress
import Prometheus.ThreatHint.V1Envelope
import Prometheus.ThreatHint.V2Transport
import Prometheus.ThreatHint.PublicInputs
import Prometheus.Ingress.V2Ingress
import Prometheus.Ingress.BallotIngress
import Prometheus.Contracts.StakeWithdrawal
import Prometheus.Contracts.GuardianReputation
import Prometheus.Contracts.GovernanceAutoTuning
import Prometheus.Contracts.Treasury
import Prometheus.Contracts.PendingItems
import Prometheus.Client.RuleStateAgreement
import Prometheus.Client.RuleSync
import Prometheus.Jaeger.ApprovalLedger.MigrationRefinement
import Prometheus.Jaeger.Membership.Opening
import Prometheus.Jaeger.Membership.Canonical
import Prometheus.Validator.CommitReveal
import Prometheus.Validator.Slashing
import Prometheus.Client.RuleBackoff
import Prometheus.Jaeger.AnalysisWorkerSafety
import Prometheus.Deployer.DeployRequest
import Prometheus.Client.Scanner
import Prometheus.Deployer.JournalResume
import Prometheus.Deployer.CanonicalReading
import Prometheus.Deployer.Genesis
import Prometheus.Deployer.GenesisSeal
import Prometheus.Deployer.GenesisSafety
import Prometheus.Client.QuarantineCrash
import Prometheus.Client.YaraScanner
import Prometheus.Client.Heuristic
import Prometheus.Client.HeuristicTriage
import Prometheus.Client.QuietFeed
import Prometheus.Client.SnapshotIdentity
import Prometheus.Machine.Lexer
import Prometheus.Machine.Runs
import Prometheus.Jaeger.YaraBoundary
import Prometheus.Jaeger.SemanticDraft
import Prometheus.Jaeger.SemanticDraftScan
import Prometheus.Jaeger.SemanticDraftFaithful
import Prometheus.Jaeger.EnsembleRule
import Prometheus.Jaeger.HintDrainProgress
import Prometheus.Jaeger.ConfidenceExact
import Prometheus.Codec.JsonFlat
import Prometheus.Codec.JsonLine
import Prometheus.Jaeger.ModelProvenance
import Prometheus.Jaeger.ModelProvenanceManifest
import Prometheus.Jaeger.ModelProvenanceWalk
import Prometheus.P2p.RequestSlots
import Prometheus.P2p.RunGuardian
import Prometheus.P2p.LocalSubmissions
import Prometheus.Ingress.Codecs
import Prometheus.ThreatHint.ObservableProducer
import Prometheus.ThreatHint.BytePatternProducer
import Prometheus.ThreatHint.ImportProducer
