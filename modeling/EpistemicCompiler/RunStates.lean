import Mathlib.Data.List.Basic

set_option autoImplicit false

/-!
# Run states, phase edges, guards and operation kinds

The generated tables of the contracts package. An `ENTER_` event exists for every
state but the four that only global events reach.
-/
namespace EpistemicCompiler.RunStates

inductive RunState where
 | created | snapshotRequested | snapshotUploading | snapshotValidating | snapshotReady
 | instructionsResolving | indexing | baselinePlanning | awaitingBaselineCommandApproval
 | baselineVerifying | waitingBaselineEnvironment | baselineSealed | preflightRunning
 | preflightComplete | preflightSaturatedWithUnknowns | preflightResourceLimited
 | awaitingRequirementsInput | waitingPreflightResource | contracted | profileSelected
 | profileRunning | acceptanceCheck | blocked | contextCompiling
 | waitingInitialContextCapacity | waitingDeltaContextCapacity | waitingRepairContextCapacity
 | waitingInitialOutputCapacity | waitingDeltaOutputCapacity | waitingRepairOutputCapacity
 | egressScanning | waitingCloudEligibility | awaitingEgressApproval | cloudPrepared
 | cloudDispatching | cloudInFlight | waitingProvider | cloudOutcomeUnknown
 | awaitingDuplicateCallApproval | contextRequested | contextDeltaCompiling | solutionReceived
 | solutionValidating | solutionProtocolRejected | awaitingNewCloudCallApproval
 | awaitingCloudInput | noChangeVerifying | materializing | verificationPlanning
 | awaitingCandidateCommandApproval | waitingVerificationEnvironment | verifying
 | verifiedAccepted | verifiedRejected | verifiedInconclusive | noChangeFinalizing
 | repairPreparing | pausedNoProgress | awaitingVerificationInput | awaitingApplyApproval
 | applyPreparing | applying | applyReconciling | applyManualRecoveryRequired
 | cancellationPending | succeeded | stale | cancelled | failed
 deriving DecidableEq

open RunState

def runStates : List RunState := [
 .created,.snapshotRequested,.snapshotUploading,.snapshotValidating,.snapshotReady,
 .instructionsResolving,.indexing,.baselinePlanning,.awaitingBaselineCommandApproval,
 .baselineVerifying,.waitingBaselineEnvironment,.baselineSealed,.preflightRunning,
 .preflightComplete,.preflightSaturatedWithUnknowns,.preflightResourceLimited,
 .awaitingRequirementsInput,.waitingPreflightResource,.contracted,.profileSelected,
 .profileRunning,.acceptanceCheck,.blocked,.contextCompiling,
 .waitingInitialContextCapacity,.waitingDeltaContextCapacity,.waitingRepairContextCapacity,
 .waitingInitialOutputCapacity,.waitingDeltaOutputCapacity,.waitingRepairOutputCapacity,
 .egressScanning,.waitingCloudEligibility,.awaitingEgressApproval,.cloudPrepared,
 .cloudDispatching,.cloudInFlight,.waitingProvider,.cloudOutcomeUnknown,
 .awaitingDuplicateCallApproval,.contextRequested,.contextDeltaCompiling,.solutionReceived,
 .solutionValidating,.solutionProtocolRejected,.awaitingNewCloudCallApproval,
 .awaitingCloudInput,.noChangeVerifying,.materializing,.verificationPlanning,
 .awaitingCandidateCommandApproval,.waitingVerificationEnvironment,.verifying,
 .verifiedAccepted,.verifiedRejected,.verifiedInconclusive,.noChangeFinalizing,
 .repairPreparing,.pausedNoProgress,.awaitingVerificationInput,.awaitingApplyApproval,
 .applyPreparing,.applying,.applyReconciling,.applyManualRecoveryRequired,
 .cancellationPending,.succeeded,.stale,.cancelled,.failed]

lemma mem_runStates (s:RunState) : s∈runStates := by
 cases s <;> decide

def terminalRunStates : List RunState := [
 .succeeded,.cancelled,.failed,.stale,.applyManualRecoveryRequired]

def enterExcludedStates : List RunState := [
 .created,.cancellationPending,.cancelled,.failed]

def enterTargetStates : List RunState := runStates.filter (· ∉ enterExcludedStates)

def nonInterruptibleRunStates : List RunState :=
 terminalRunStates++[
  .applyPreparing,.applying,.applyReconciling,.cancellationPending]

def interruptibleNonterminalStates : List RunState :=
 runStates.filter (· ∉ nonInterruptibleRunStates)

def phaseTransitions : List (RunState×List RunState) := [ (.created,[.snapshotRequested]),
 (.snapshotRequested,[.snapshotUploading]),
 (.snapshotUploading,[.snapshotValidating]),
 (.snapshotValidating,[.snapshotReady,.stale]),
 (.snapshotReady,[.instructionsResolving]),
 (.instructionsResolving,[.indexing,.awaitingRequirementsInput]),
 (.indexing,[.baselinePlanning]),
 (.baselinePlanning,[
  .awaitingBaselineCommandApproval,.baselineVerifying,.waitingBaselineEnvironment]),
 (.awaitingBaselineCommandApproval,[.baselineVerifying]),
 (.baselineVerifying,[.baselineSealed,.waitingBaselineEnvironment]),
 (.waitingBaselineEnvironment,[.baselinePlanning]),
 (.baselineSealed,[.preflightRunning]),
 (.preflightRunning,[
  .preflightComplete,.preflightSaturatedWithUnknowns,.preflightResourceLimited,
  .awaitingRequirementsInput]),
 (.preflightComplete,[.contextCompiling,.contracted]),
 (.preflightSaturatedWithUnknowns,[
  .contextCompiling,.awaitingRequirementsInput,.contracted]),
 (.contracted,[.profileSelected]),
 (.profileSelected,[.profileRunning]),
 (.profileRunning,[
  .acceptanceCheck,.awaitingCloudInput,.awaitingRequirementsInput,.blocked,
  .pausedNoProgress]),
 (.acceptanceCheck,[
  .verifiedAccepted,.verifiedRejected,.verifiedInconclusive,.awaitingVerificationInput]),
 (.blocked,[.profileRunning,.awaitingRequirementsInput]),
 (.preflightResourceLimited,[.waitingPreflightResource]),
 (.awaitingRequirementsInput,[.instructionsResolving,.profileRunning]),
 (.waitingPreflightResource,[.preflightRunning]),
 (.contextCompiling,[
  .waitingInitialContextCapacity,.waitingInitialOutputCapacity,.egressScanning,
  .awaitingRequirementsInput]),
 (.waitingInitialContextCapacity,[.contextCompiling]),
 (.waitingDeltaContextCapacity,[.contextDeltaCompiling]),
 (.waitingRepairContextCapacity,[.repairPreparing]),
 (.waitingInitialOutputCapacity,[.contextCompiling]),
 (.waitingDeltaOutputCapacity,[.contextDeltaCompiling]),
 (.waitingRepairOutputCapacity,[.repairPreparing]),
 (.egressScanning,[
  .waitingInitialContextCapacity,.waitingDeltaContextCapacity,
  .waitingRepairContextCapacity,.waitingInitialOutputCapacity,.waitingDeltaOutputCapacity,
  .waitingRepairOutputCapacity,.waitingCloudEligibility,.awaitingEgressApproval,
  .cloudPrepared]),
 (.waitingCloudEligibility,[.egressScanning]),
 (.awaitingEgressApproval,[.cloudPrepared]),
 (.cloudPrepared,[.cloudDispatching]),
 (.cloudDispatching,[
  .cloudInFlight,.solutionReceived,.contextRequested,.cloudOutcomeUnknown,
  .waitingProvider]),
 (.cloudInFlight,[
  .solutionReceived,.contextRequested,.cloudOutcomeUnknown,.waitingProvider]),
 (.waitingProvider,[.cloudPrepared,.cloudOutcomeUnknown]),
 (.cloudOutcomeUnknown,[
  .solutionReceived,.contextRequested,.awaitingDuplicateCallApproval]),
 (.awaitingDuplicateCallApproval,[.egressScanning]),
 (.contextRequested,[.contextDeltaCompiling]),
 (.contextDeltaCompiling,[
  .waitingDeltaContextCapacity,.waitingDeltaOutputCapacity,.egressScanning,
  .awaitingRequirementsInput]),
 (.solutionReceived,[.solutionValidating]),
 (.solutionValidating,[
  .materializing,.noChangeVerifying,.awaitingCloudInput,.solutionProtocolRejected]),
 (.solutionProtocolRejected,[.awaitingNewCloudCallApproval]),
 (.awaitingNewCloudCallApproval,[.egressScanning]),
 (.awaitingCloudInput,[.instructionsResolving,.profileRunning]),
 (.noChangeVerifying,[.verifiedAccepted,.verifiedRejected,.verifiedInconclusive]),
 (.materializing,[.verificationPlanning,.verifiedRejected]),
 (.verificationPlanning,[
  .awaitingCandidateCommandApproval,.waitingVerificationEnvironment,.verifying]),
 (.awaitingCandidateCommandApproval,[.verifying]),
 (.waitingVerificationEnvironment,[.verificationPlanning]),
 (.verifying,[.verifiedAccepted,.verifiedRejected,.verifiedInconclusive]),
 (.verifiedAccepted,[.noChangeFinalizing,.awaitingApplyApproval]),
 (.noChangeFinalizing,[.succeeded,.stale]),
 (.verifiedRejected,[.repairPreparing,.pausedNoProgress,.profileRunning]),
 (.verifiedInconclusive,[
  .repairPreparing,.awaitingVerificationInput,.waitingVerificationEnvironment,
  .pausedNoProgress]),
 (.repairPreparing,[
  .egressScanning,.waitingRepairContextCapacity,.waitingRepairOutputCapacity,
  .awaitingRequirementsInput,.pausedNoProgress,.profileRunning]),
 (.pausedNoProgress,[.repairPreparing,.awaitingRequirementsInput,.profileRunning]),
 (.awaitingVerificationInput,[
  .verificationPlanning,.repairPreparing,.acceptanceCheck,.profileRunning]),
 (.awaitingApplyApproval,[.applyPreparing,.stale]),
 (.applyPreparing,[.applying,.stale]),
 (.applying,[.applyReconciling]),
 (.applyReconciling,[
  .succeeded,.awaitingApplyApproval,.stale,.applyManualRecoveryRequired]),
 (.applyManualRecoveryRequired,[]),
 (.cancellationPending,[]),
 (.succeeded,[]),
 (.stale,[]),
 (.cancelled,[]),
 (.failed,[])]

def phaseTargets (source:RunState) : List RunState :=
 (phaseTransitions.filter (·.1=source)).flatMap Prod.snd

inductive RunGuardId where
 | sourceStateVersionMatches | requiredArtifactRolesPresent | artifactSignaturesValid
 | approvalValidAndConsumed | snapshotRootCurrent | cloudRecoveryDecisionValid
 | verdictAcceptedChangeset | verdictAcceptedNoChange | repairEligible
 | noProgressPolicySatisfied | applyJournalValid | applyReceiptCommitted
 | noChangeReceiptValid | capacityFailureValid | capacityConstraintCleared
 | cloudEligibilitySatisfied | noProgressCleared | inputRevisionCommitted
 | applyReceiptRolledBack | applyReceiptStale | applyReceiptManualRecoveryRequired
 | cancellationInterruptible | failureUnrecoverable | taskContractValid | profileDagBound
 | acceptanceLedgerClosed | workspaceLeaseIsolated | noSelfApproval
 | artifactTypeAllowedForRole
 deriving DecidableEq

def runGuardIds : List RunGuardId := [
 .sourceStateVersionMatches,.requiredArtifactRolesPresent,.artifactSignaturesValid,
 .approvalValidAndConsumed,.snapshotRootCurrent,.cloudRecoveryDecisionValid,
 .verdictAcceptedChangeset,.verdictAcceptedNoChange,.repairEligible,
 .noProgressPolicySatisfied,.applyJournalValid,.applyReceiptCommitted,
 .noChangeReceiptValid,.capacityFailureValid,.capacityConstraintCleared,
 .cloudEligibilitySatisfied,.noProgressCleared,.inputRevisionCommitted,
 .applyReceiptRolledBack,.applyReceiptStale,.applyReceiptManualRecoveryRequired,
 .cancellationInterruptible,.failureUnrecoverable,.taskContractValid,.profileDagBound,
 .acceptanceLedgerClosed,.workspaceLeaseIsolated,.noSelfApproval,
 .artifactTypeAllowedForRole]

def baseEdgeGuards : List RunGuardId := [
 .sourceStateVersionMatches,.requiredArtifactRolesPresent,.artifactSignaturesValid]

inductive OperationKind where
 | captureSnapshot | uploadSnapshot | resolveInstructions | indexSnapshot | planBaseline
 | runBaselineCheck | runPreflight | compileContext | materializeCandidate | planVerification
 | runVerificationCheck | prepareRepair | applyUserInput | requestRepair | requestCancellation
 | promoteWorkspace | spawnAgent | consumeAgent | validateArtifact | selectProfile
 | integrateChangeset | checkAcceptance | reconcileAgents
 deriving DecidableEq

def reclaimableOperationKinds : List OperationKind := [
 .captureSnapshot,.uploadSnapshot,.resolveInstructions,.indexSnapshot,.planBaseline,
 .runBaselineCheck,.runPreflight,.compileContext,.materializeCandidate,.planVerification,
 .runVerificationCheck,.prepareRepair,.spawnAgent,.consumeAgent,.validateArtifact,
 .selectProfile,.integrateChangeset,.checkAcceptance,.reconcileAgents]

end EpistemicCompiler.RunStates
