import Mathlib.Data.List.Sort
import EpistemicCompiler.RunStates

set_option autoImplicit false

/-!
# Artifact roles and the roles each run state requires

The registry lists a role once for every kind of owner; a lookup by role takes the first
entry. Role sets are kept in the order in which the source composes them.
-/
namespace EpistemicCompiler.ArtifactRoles
open RunStates

inductive ArtifactOwnerKind where
 | run | snapshot | operation | cloudCall
 deriving DecidableEq

inductive ArtifactCardinality where
 | exactlyOne | zeroOrOne | oneOrMore
 deriving DecidableEq

structure ArtifactRoleEntry where
 ownerKind : ArtifactOwnerKind
 role : String
 cardinality : ArtifactCardinality
 artifactSchemaName : Option String

def artifactRoleRegistry : List ArtifactRoleEntry := [
 ⟨.run,"task-envelope",.exactlyOne,some "TaskEnvelope"⟩,
 ⟨.run,"snapshot-manifest",.zeroOrOne,some "SnapshotManifest"⟩,
 ⟨.run,"requirement-ledger",.zeroOrOne,some "RequirementLedger"⟩,
 ⟨.run,"instruction-manifest",.zeroOrOne,some "InstructionManifest"⟩,
 ⟨.run,"skill-manifest",.zeroOrOne,some "SkillManifest"⟩,
 ⟨.run,"environment-seal",.zeroOrOne,some "EnvironmentSeal"⟩,
 ⟨.run,"baseline-seal",.zeroOrOne,some "BaselineSeal"⟩,
 ⟨.run,"evidence-graph",.zeroOrOne,some "EvidenceGraph"⟩,
 ⟨.run,"closure-report",.zeroOrOne,some "ClosureReport"⟩,
 ⟨.run,"context-packet",.zeroOrOne,some "ContextPacket"⟩,
 ⟨.run,"compiled-conversation",.zeroOrOne,some "CompiledCloudConversation"⟩,
 ⟨.run,"egress-manifest",.zeroOrOne,some "EgressManifest"⟩,
 ⟨.run,"canonical-cloud-request",.zeroOrOne,some "CanonicalCloudRequest"⟩,
 ⟨.run,"provider-wire-request",.zeroOrOne,some "ProviderWireRequest"⟩,
 ⟨.run,"cloud-completion-receipt",.oneOrMore,some "CloudCompletionReceipt"⟩,
 ⟨.run,"cloud-result",.zeroOrOne,some "CloudResult"⟩,
 ⟨.run,"validated-changeset",.zeroOrOne,some "ChangeSet"⟩,
 ⟨.run,"candidate-manifest",.zeroOrOne,some "CandidateManifest"⟩,
 ⟨.run,"verification-plan",.zeroOrOne,some "VerificationPlan"⟩,
 ⟨.run,"verdict-report",.zeroOrOne,some "VerdictReport"⟩,
 ⟨.run,"verification-evidence-root",.zeroOrOne,none⟩,
 ⟨.run,"no-change-receipt",.zeroOrOne,some "NoChangeReceipt"⟩,
 ⟨.run,"repair-packet",.zeroOrOne,some "RepairPacket"⟩,
 ⟨.run,"successful-run-result",.zeroOrOne,some "SuccessfulRunResult"⟩,
 ⟨.run,"apply-receipt",.zeroOrOne,some "ApplyReceipt"⟩,
 ⟨.run,"cancellation-receipt",.zeroOrOne,some "CancellationReceipt"⟩,
 ⟨.run,"cancellation-request",.zeroOrOne,none⟩,
 ⟨.run,"suspended-state-binding",.zeroOrOne,none⟩,
 ⟨.run,"transport-evidence",.zeroOrOne,none⟩,
 ⟨.run,"user-input",.oneOrMore,some "UserInputArtifact"⟩,
 ⟨.run,"approval-grant",.oneOrMore,some "ApprovalGrant"⟩,
 ⟨.run,"approval-subject",.oneOrMore,some "ApprovalSubject"⟩,
 ⟨.run,"approval-challenge",.oneOrMore,some "ApprovalChallenge"⟩,
 ⟨.run,"approval-decision",.oneOrMore,some "ApprovalDecision"⟩,
 ⟨.run,"baseline-supplement",.oneOrMore,some "BaselineSupplement"⟩,
 ⟨.run,"task-contract",.zeroOrOne,some "TaskContract"⟩,
 ⟨.run,"investigation-report",.oneOrMore,some "InvestigationReport"⟩,
 ⟨.run,"implementation-plan",.zeroOrOne,some "ImplementationPlan"⟩,
 ⟨.run,"change-shards",.zeroOrOne,some "ChangeShards"⟩,
 ⟨.run,"change-manifest",.zeroOrOne,some "ChangeManifest"⟩,
 ⟨.run,"review-findings",.oneOrMore,some "ReviewFindings"⟩,
 ⟨.run,"command-evidence",.oneOrMore,some "CommandEvidence"⟩,
 ⟨.run,"acceptance-ledger",.zeroOrOne,some "AcceptanceLedger"⟩,
 ⟨.run,"workflow-profile",.zeroOrOne,some "WorkflowProfile"⟩,
 ⟨.run,"compiled-profile",.zeroOrOne,some "WorkflowProfile"⟩,
 ⟨.run,"run-composition",.zeroOrOne,some "RunComposition"⟩,
 ⟨.run,"related-run-plan",.oneOrMore,some "RelatedRunPlan"⟩,
 ⟨.run,"skill-lock",.zeroOrOne,some "SkillLock"⟩,
 ⟨.run,"project-lock",.zeroOrOne,some "ProjectAdapter"⟩,
 ⟨.run,"workspace-lease",.oneOrMore,some "WorkspaceLease"⟩,
 ⟨.run,"agent-session",.oneOrMore,some "AgentSessionRecord"⟩,
 ⟨.run,"capability-token",.oneOrMore,some "CapabilityToken"⟩,
 ⟨.run,"reproduction-unavailable",.zeroOrOne,some "ReproductionUnavailable"⟩,
 ⟨.run,"spec-update-not-required",.zeroOrOne,some "SpecUpdateNotRequired"⟩,
 ⟨.snapshot,"snapshot-manifest",.exactlyOne,some "SnapshotManifest"⟩,
 ⟨.snapshot,"git-history-manifest",.zeroOrOne,some "GitHistoryManifest"⟩,
 ⟨.operation,"sandbox-job",.zeroOrOne,some "SandboxJob"⟩,
 ⟨.operation,"sandbox-job-result",.zeroOrOne,some "SandboxJobResult"⟩,
 ⟨.operation,"resolved-command-spec",.zeroOrOne,some "ResolvedCommandSpec"⟩,
 ⟨.cloudCall,"canonical-cloud-request",.exactlyOne,some "CanonicalCloudRequest"⟩,
 ⟨.cloudCall,"provider-wire-request",.exactlyOne,some "ProviderWireRequest"⟩,
 ⟨.cloudCall,"compiled-conversation",.exactlyOne,some "CompiledCloudConversation"⟩,
 ⟨.cloudCall,"egress-manifest",.exactlyOne,some "EgressManifest"⟩,
 ⟨.cloudCall,"context-packet",.exactlyOne,some "ContextPacket"⟩,
 ⟨.cloudCall,"cloud-completion-receipt",.zeroOrOne,some "CloudCompletionReceipt"⟩,
 ⟨.cloudCall,"transport-evidence",.zeroOrOne,none⟩]

def roles (items:List String) : List String :=
 items.eraseDups.insertionSort (· ≤ ·)

def sealedRoles : List String :=
 roles ["task-envelope","snapshot-manifest","requirement-ledger","instruction-manifest",
  "skill-manifest","environment-seal","baseline-seal"]
def preflightRoles : List String :=
 roles (sealedRoles++["evidence-graph"])
def closedRoles : List String :=
 roles (preflightRoles++["closure-report"])
def egressingRoles : List String :=
 roles (closedRoles++["context-packet","compiled-conversation"])
def preparedRoles : List String :=
 roles (egressingRoles++["egress-manifest","canonical-cloud-request",
  "provider-wire-request"])
def materializedRoles : List String :=
 roles (preparedRoles++["cloud-completion-receipt","cloud-result","validated-changeset"])
def plannedRoles : List String :=
 roles (materializedRoles++["candidate-manifest","verification-plan"])
def verifiedRoles : List String :=
 roles (plannedRoles++["verdict-report","verification-evidence-root"])
def multiAgentClosedRoles : List String :=
 roles (closedRoles++["task-contract"])
def multiAgentProfileRoles : List String :=
 roles (multiAgentClosedRoles++["workflow-profile"])
def multiAgentVerifiedRoles : List String :=
 roles (multiAgentProfileRoles++["acceptance-ledger","verdict-report"])

def requiredRoles : RunState → List String
 | .created => roles ["task-envelope"]
 | .snapshotRequested => roles ["task-envelope"]
 | .snapshotUploading => roles ["task-envelope"]
 | .snapshotValidating => roles ["task-envelope"]
 | .snapshotReady => roles ["task-envelope","snapshot-manifest"]
 | .instructionsResolving => roles ["task-envelope","snapshot-manifest"]
 | .indexing => roles ["task-envelope","snapshot-manifest"]
 | .baselinePlanning => roles ["task-envelope","snapshot-manifest"]
 | .awaitingBaselineCommandApproval => roles ["task-envelope","snapshot-manifest"]
 | .baselineVerifying => roles ["task-envelope","snapshot-manifest"]
 | .waitingBaselineEnvironment => roles ["task-envelope","snapshot-manifest"]
 | .baselineSealed => sealedRoles
 | .preflightRunning => preflightRoles
 | .preflightComplete => closedRoles
 | .preflightSaturatedWithUnknowns => closedRoles
 | .preflightResourceLimited => closedRoles
 | .awaitingRequirementsInput => roles ["task-envelope","snapshot-manifest"]
 | .waitingPreflightResource => preflightRoles
 | .contracted => multiAgentClosedRoles
 | .profileSelected => multiAgentProfileRoles
 | .profileRunning => multiAgentProfileRoles
 | .acceptanceCheck => roles (multiAgentProfileRoles++["acceptance-ledger"])
 | .blocked => multiAgentProfileRoles
 | .contextCompiling => closedRoles
 | .waitingInitialContextCapacity => closedRoles
 | .waitingDeltaContextCapacity => roles (closedRoles++["context-packet"])
 | .waitingRepairContextCapacity => roles (closedRoles++["repair-packet"])
 | .waitingInitialOutputCapacity => closedRoles
 | .waitingDeltaOutputCapacity => roles (closedRoles++["context-packet"])
 | .waitingRepairOutputCapacity => roles (closedRoles++["repair-packet"])
 | .egressScanning => egressingRoles
 | .waitingCloudEligibility => egressingRoles
 | .awaitingEgressApproval => egressingRoles
 | .cloudPrepared => preparedRoles
 | .cloudDispatching => preparedRoles
 | .cloudInFlight => preparedRoles
 | .waitingProvider => preparedRoles
 | .cloudOutcomeUnknown => preparedRoles
 | .awaitingDuplicateCallApproval => roles (preparedRoles++["transport-evidence",
   "approval-subject"])
 | .contextRequested => roles (preparedRoles++["cloud-completion-receipt","cloud-result"])
 | .contextDeltaCompiling => roles (preparedRoles++["cloud-completion-receipt",
   "cloud-result"])
 | .solutionReceived => roles (preparedRoles++["cloud-completion-receipt","cloud-result"])
 | .solutionValidating => roles (preparedRoles++["cloud-completion-receipt","cloud-result"])
 | .solutionProtocolRejected => roles (preparedRoles++["cloud-completion-receipt",
   "cloud-result"])
 | .awaitingNewCloudCallApproval => roles (preparedRoles++["cloud-completion-receipt",
   "cloud-result","approval-subject"])
 | .awaitingCloudInput => roles (preparedRoles++["cloud-completion-receipt","cloud-result"])
 | .noChangeVerifying => roles (preparedRoles++["cloud-completion-receipt","cloud-result"])
 | .materializing => materializedRoles
 | .verificationPlanning => plannedRoles
 | .awaitingCandidateCommandApproval => plannedRoles
 | .waitingVerificationEnvironment => plannedRoles
 | .verifying => plannedRoles
 | .verifiedAccepted => verifiedRoles
 | .verifiedRejected => verifiedRoles
 | .verifiedInconclusive => verifiedRoles
 | .noChangeFinalizing => roles (preparedRoles++["cloud-completion-receipt","cloud-result",
   "verdict-report","verification-evidence-root","no-change-receipt"])
 | .repairPreparing => roles (verifiedRoles++["repair-packet"])
 | .pausedNoProgress => roles verifiedRoles
 | .awaitingVerificationInput => plannedRoles
 | .awaitingApplyApproval => roles (verifiedRoles++["approval-grant"])
 | .applyPreparing => roles (verifiedRoles++["approval-grant"])
 | .applying => roles (verifiedRoles++["approval-grant"])
 | .applyReconciling => roles (verifiedRoles++["approval-grant","apply-receipt"])
 | .applyManualRecoveryRequired => roles (verifiedRoles++["approval-grant","apply-receipt"])
 | .cancellationPending => roles ["task-envelope","cancellation-request",
   "suspended-state-binding"]
 | .succeeded => roles ["task-envelope","snapshot-manifest","successful-run-result"]
 | .stale => roles ["task-envelope","snapshot-manifest"]
 | .cancelled => roles ["task-envelope","cancellation-receipt"]
 | .failed => roles ["task-envelope"]

def alternativeRoleSets : RunState → Option (List (List String))
 | .succeeded => some [
   roles ["task-envelope","snapshot-manifest","successful-run-result","apply-receipt"],
   roles ["task-envelope","snapshot-manifest","successful-run-result","no-change-receipt"]]
 | .verifiedAccepted => some [
   roles verifiedRoles,
   roles (preparedRoles++["cloud-completion-receipt","cloud-result","verdict-report",
    "verification-evidence-root"]),
   multiAgentVerifiedRoles]
 | .verifiedRejected => some [
   roles verifiedRoles,
   multiAgentVerifiedRoles]
 | .verifiedInconclusive => some [
   roles verifiedRoles,
   multiAgentVerifiedRoles]
 | .awaitingApplyApproval => some [
   roles (verifiedRoles++["approval-grant"]),
   roles (multiAgentVerifiedRoles++["approval-grant"])]
 | .applyPreparing => some [
   roles (verifiedRoles++["approval-grant"]),
   roles (multiAgentVerifiedRoles++["approval-grant"])]
 | .applying => some [
   roles (verifiedRoles++["approval-grant"]),
   roles (multiAgentVerifiedRoles++["approval-grant"])]
 | .applyReconciling => some [
   roles (verifiedRoles++["approval-grant","apply-receipt"]),
   roles (multiAgentVerifiedRoles++["approval-grant","apply-receipt"])]
 | .cloudOutcomeUnknown => some [
   roles (preparedRoles++["transport-evidence"]),
   roles (preparedRoles++["cancellation-receipt"])]
 | .awaitingCloudInput => some [
   roles (preparedRoles++["cloud-completion-receipt","cloud-result"]),
   multiAgentProfileRoles]
 | .awaitingVerificationInput => some [
   plannedRoles,
   roles (multiAgentProfileRoles++["acceptance-ledger"])]
 | .pausedNoProgress => some [
   roles verifiedRoles,
   multiAgentProfileRoles]
 | _ => none

/-- The invariant table has one entry for every run state, so the lookup never misses. -/
def legalRoleSets (state:RunState) : List (List String) :=
 (alternativeRoleSets state).getD [requiredRoles state]

end EpistemicCompiler.ArtifactRoles
