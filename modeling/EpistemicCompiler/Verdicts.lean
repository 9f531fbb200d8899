import EpistemicCompiler.QueueOrder

set_option autoImplicit false

/-!
# Verdicts

Obligations are evaluated in the order of a queue, each on the admissible records about it and the
statuses of its prerequisites. The sequential test for flakes compares a sum of logarithms with that
of a bound; here the product of the ratios is compared with the bound.
-/
namespace EpistemicCompiler.Verdicts
open Function QueueOrder

inductive ClaimMode where
 | universal
 | existential
 | invariant
 | nonRegression
 deriving DecidableEq

structure ProofObligation where
 id : String
 claimMode : ClaimMode
 mandatory : Bool
 prerequisites : List String
 deriving DecidableEq

inductive ObservationState where
 | passed
 | failed
 | error
 | skipped
 deriving DecidableEq

structure RunObservation where
 attempt : ℕ
 state : ObservationState
 observationSignature : Option String
 exitCode : Option ℤ
 stdoutArtifact : Option String
 stderrArtifact : Option String
 deriving DecidableEq

inductive EvidenceRelation where
 | supports
 | refutes
 | neutral
 deriving DecidableEq

inductive EvidenceOrigin where
 | verifier
 | user
 | sealedProject
 | independentTool
 | candidateTest
 | localModel
 | cloudClaim
 deriving DecidableEq

inductive EvidenceOracle where
 | explicitExpectation
 | redGreen
 | regression
 | property
 | metamorphic
 | differential
 | mutation
 | schemaDiff
 | abiDiff
 | visualReference
 | humanAuthorized
 deriving DecidableEq

inductive EvidenceSubject where
 | baseline (snapshotId snapshotRootDigest:String)
 | candidate (candidateManifestObjectDigest:String)
 deriving DecidableEq

def EvidenceSubject.isBaseline : EvidenceSubject → Bool
 | .baseline .. => true
 | .candidate _ => false

def EvidenceSubject.isCandidate : EvidenceSubject → Bool
 | .baseline .. => false
 | .candidate _ => true

structure EvidenceRecord where
 id : String
 obligationId : String
 relation : EvidenceRelation
 origin : EvidenceOrigin
 independenceGroup : String
 oracle : EvidenceOracle
 baselineSealObjectDigest : String
 subject : EvidenceSubject
 producerId : String
 producerVersionObjectDigest : String
 environmentSealObjectDigest : String
 observations : List RunObservation
 artifactObjectDigests : List String
 deriving DecidableEq

inductive AssessmentState where
 | admissible
 | inadmissible (reasons:List String)
 deriving DecidableEq

structure EvidenceAssessment where
 evidenceId : String
 state : AssessmentState
 policyRevisionObjectDigest : String

variable (records:List EvidenceRecord)

def admissibleRecords (assessments:List EvidenceAssessment) : List EvidenceRecord :=
 let allowed:=(assessments.filter fun item=>item.state=.admissible).map (·.evidenceId)
 records.filter fun record=>record.id∈allowed

inductive FlakeClass where
 | stablePass
 | stableFail
 | unknownInstability
 deriving DecidableEq

def alpha : ℚ := 5/100

def beta : ℚ := 20/100

def effect : ℚ := 50/100

def minObservations : ℕ := 3

/-- The bound of which `sprtBounds` takes the logarithm; the lower one decides nothing. -/
def acceptH1 : ℚ := (1 - beta)/alpha

def clampUnit (value:ℚ) : ℚ :=
 if value<1/100 then 1/100 else if value > 99/100 then 99/100 else value

def RunObservation.isFail (item:RunObservation) : Bool :=
 item.state=.failed || item.state=.error

def RunObservation.isPass (item:RunObservation) : Bool := item.state=.passed

def likelihood (systematicFail:Bool) (observations:List RunObservation) : ℚ :=
 let p0:=clampUnit (1/2 - effect/2)
 let p1:=clampUnit (1/2+effect/2)
 observations.foldl (fun ratio item=>
  if !item.isFail && !item.isPass then ratio
  else if (if systematicFail then item.isFail else item.isPass) then ratio*(p1/p0)
  else ratio*((1 - p1)/(1 - p0))) 1

def classifyFlake (observations:List RunObservation) : FlakeClass :=
 let failed:=observations.filter (·.isFail)
 let passed:=observations.filter (·.isPass)
 if observations.length=0 then .unknownInstability
 else if failed.length > 0 && passed.length > 0 then .unknownInstability
 else if observations.length < minObservations then .unknownInstability
 else
  let systematicFail:=failed.length > 0 && passed.length=0
  if acceptH1 ≤ likelihood systematicFail observations then
   if systematicFail then .stableFail else .stablePass
  else .unknownInstability

def pairedFlake (baseline candidate:List RunObservation) : FlakeClass :=
 match classifyFlake candidate, classifyFlake baseline with
 | .stableFail, .stablePass => .stableFail
 | .stablePass, .stablePass => .stablePass
 | _, _ => .unknownInstability

inductive ObligationStatus where
 | pass
 | fail
 | unknown
 deriving DecidableEq

inductive Attribution where
 | candidate
 | baseline
 | environment
 | requirement
 | verifier
 | unknown
 deriving DecidableEq

inductive Certainty where
 | confirmed
 | probable
 | unresolved
 deriving DecidableEq

structure Counterevidence where
 attribution : Attribution
 certainty : Certainty
 code : String

structure ObligationEvaluation where
 obligationId : String
 mandatory : Bool
 status : ObligationStatus
 evidenceIds : List String
 reason : String
 failure : Option Counterevidence

/-- Refutations by the author of the candidate, or by a user without authority. -/
def isWeak (record:EvidenceRecord) : Bool :=
 (record.origin=.candidateTest && record.oracle≠.redGreen) ||
  (record.origin=.user && record.oracle≠.humanAuthorized)

def classifyCounterevidence : Option Counterevidence :=
 let refutes:=records.filter (·.relation=.refutes)
 let candidateRefutes:=refutes.filter (·.subject.isCandidate)
 let baselineRecords:=records.filter fun item=>
  item.subject.isBaseline && item.oracle≠.redGreen
 if refutes.length=0 then none
 else if candidateRefutes.any isWeak then some ⟨.candidate,.probable,"PATCH_FUNCTIONAL"⟩
 else if candidateRefutes.length=0 then
  some ⟨.baseline,.confirmed,"BASE_PREEXISTING_FAIL"⟩
 else
  let candidateObs:=candidateRefutes.flatMap (·.observations)
  let baselineObs:=baselineRecords.flatMap (·.observations)
  if baselineObs.length > 0 then
   match pairedFlake baselineObs candidateObs with
   | .stableFail => some ⟨.candidate,.confirmed,"PATCH_FUNCTIONAL"⟩
   | .unknownInstability => some ⟨.candidate,.unresolved,"TEST_FLAKY"⟩
   | .stablePass => some ⟨.unknown,.unresolved,"PATCH_FUNCTIONAL"⟩
  else if classifyFlake candidateObs=.unknownInstability then
   some ⟨.candidate,.unresolved,"TEST_FLAKY"⟩
  else if classifyFlake candidateObs=.stableFail || candidateObs.length=0 then
   some ⟨.candidate,.confirmed,"PATCH_FUNCTIONAL"⟩
  else some ⟨.unknown,.unresolved,"PATCH_FUNCTIONAL"⟩

def flakeStatus : FlakeClass :=
 let scored:=records.filter fun item=>item.oracle≠.redGreen && item.relation≠.neutral
 let baseline:=(scored.filter (·.subject.isBaseline)).flatMap (·.observations)
 let candidate:=(scored.filter (·.subject.isCandidate)).flatMap (·.observations)
 if baseline.length > 0 && candidate.length > 0 then pairedFlake baseline candidate
 else
  let classes:=scored.map fun item=>classifyFlake item.observations
  if .unknownInstability∈classes then .unknownInstability
  else if .stableFail∈classes then .stableFail
  else .stablePass

def isExistentialExample (record:EvidenceRecord) : Bool := record.producerId = "coverage"

def dischargingSupports (obligation:ProofObligation) (supports:List EvidenceRecord) :
    List EvidenceRecord :=
 if obligation.claimMode=.existential then supports
 else supports.filter fun item=>!isExistentialExample item

def Counterevidence.isConfirmed (counter:Counterevidence) : Bool :=
 counter.certainty=.confirmed && counter.attribution=.candidate

abbrev Statuses := String → Option ObligationStatus

def evaluateObligation (obligation:ProofObligation) (statuses:Statuses)
    (admissible:List EvidenceRecord) : ObligationEvaluation :=
 let related:=admissible.filter (·.obligationId=obligation.id)
 let evaluation (status:ObligationStatus) (reason:String)
     (failure:Option Counterevidence) : ObligationEvaluation :=
  ⟨obligation.id,obligation.mandatory,status,related.map (·.id),reason,failure⟩
 let counter:=classifyCounterevidence related
 match obligation.prerequisites.find? fun pre=>statuses pre≠some .pass with
 | some pre =>
   if counter.any (·.isConfirmed) then
    evaluation .fail "prerequisite missing with candidate-attributable counterevidence" counter
   else evaluation .unknown ("prerequisite "++pre ++ " is not PASS") none
 | none =>
   if counter.any (·.isConfirmed) then
    evaluation .fail "admissible stable candidate-attributable counterevidence" counter
   else if counter.any (·.certainty=.probable) then
    evaluation .unknown "probable attribution cannot reject" counter
   else if (dischargingSupports obligation
     (related.filter (·.relation=.supports))).length=0 then
    evaluation .unknown "missing admissible supporting evidence" none
   else if counter.isSome then
    evaluation .unknown "counterevidence is not confirmed candidate-attributable" counter
   else
    match flakeStatus related with
    | .unknownInstability =>
      evaluation .unknown "flake classifier did not reach a stable pass" none
    | .stableFail =>
      evaluation .fail "stable candidate-only failure"
       (some ⟨.candidate,.confirmed,"PATCH_FUNCTIONAL"⟩)
    | .stablePass => evaluation .pass "discharge policy met by admissible evidence" none

section Reports

inductive Verdict where
 | accepted
 | rejected
 | inconclusive
 deriving DecidableEq

structure Flags where
 integrityViolation : Bool
 sealsValid : Bool
 unresolvedBlockers : Bool

variable (obligations:List ProofObligation)

def decideVerdict (obligations:List ObligationEvaluation) (flags:Flags) : Verdict :=
 let mandatory:=obligations.filter (·.mandatory)
 if flags.integrityViolation then .rejected
 else if mandatory.any fun item=>
   item.status=.fail && item.failure.any (·.isConfirmed) then .rejected
 else if !flags.sealsValid || flags.unresolvedBlockers then .inconclusive
 else if mandatory.length=0 then .inconclusive
 else if mandatory.any (·.status=.unknown) then .inconclusive
 else if mandatory.any (·.status=.fail) then .inconclusive
 else if mandatory.all (·.status=.pass) then .accepted
 else .inconclusive

def obligationById (id:String) : Option ProofObligation :=
 obligations.reverse.find? (·.id=id)

def obligationNodes : Nodes String :=
 obligations.map fun obligation=>(obligation.id,obligation.prerequisites)

def topologicalObligations : List ProofObligation :=
 (order (obligationNodes obligations)).filterMap (obligationById obligations)

def evaluateAll (admissible:List EvidenceRecord) :
    Statuses → List ProofObligation → List ObligationEvaluation
 | _, [] => []
 | statuses, obligation::rest =>
   let evaluation:=evaluateObligation obligation statuses admissible
   evaluation ::
    evaluateAll admissible (update statuses obligation.id (some evaluation.status)) rest

inductive RepairOwner where
 | cloud
 | user
 | environment
 | verifier
 | none

def repairOwner : Attribution → RepairOwner
 | .candidate => .cloud
 | .baseline => .user
 | .environment => .environment
 | .requirement => .user
 | .verifier => .verifier
 | .unknown => .none

inductive WorkflowState where
 | terminal
 | repairable

def workflowState : Verdict → WorkflowState
 | .accepted => .terminal
 | .rejected => .repairable
 | .inconclusive => .repairable

structure ObligationResult where
 obligationId : String
 status : ObligationStatus
 evidenceIds : List String
 reason : String

structure VerdictFailure where
 code : String
 attribution : Attribution
 repairOwner : RepairOwner
 certainty : Certainty
 obligationIds : List String
 evidenceIds : List String
 failureSignature : String
 summary : String

inductive ReportSubject where
 | changeset (candidateManifestObjectDigest:String)
 | baselineNoChange (snapshotId snapshotRootDigest:String)

structure VerdictReport where
 verdict : Verdict
 baselineSealObjectDigest : String
 subject : ReportSubject
 verificationPlanObjectDigest : String
 obligationResults : List ObligationResult
 failures : List VerdictFailure
 evidenceRootDigest : String
 evidenceAssessments : List EvidenceAssessment
 workflowState : WorkflowState

structure FailurePayload where
 obligationIds : List String
 attribution : Attribution
 normalizedMessage : String

structure ReportHashes where
 failureSignature : FailurePayload → Except String String
 evidenceRootDigest : List EvidenceRecord → Except String String

structure CompileVerdictInput where
 obligations : List ProofObligation
 baselineSealObjectDigest : String
 planObjectDigest : String
 evidence : List EvidenceRecord
 assessments : List EvidenceAssessment
 subject : ReportSubject
 flags : Flags

variable (hashes:ReportHashes)

def reportFailure (item:ObligationEvaluation) : Except String VerdictFailure := do
 let attribution:=(item.failure.map (·.attribution)).getD .unknown
 let failureSignature ←
  hashes.failureSignature ⟨[item.obligationId],attribution,item.reason⟩
 pure ⟨(item.failure.map (·.code)).getD "PATCH_FUNCTIONAL",attribution,repairOwner attribution,
  (item.failure.map (·.certainty)).getD .unresolved,[item.obligationId],item.evidenceIds,
  failureSignature,item.reason⟩

def integrityFailures (integrityViolation:Bool) : Except String (List VerdictFailure) :=
 if integrityViolation then do
  let failureSignature ← hashes.failureSignature ⟨[],.verifier,"integrity violation"⟩
  pure [⟨"EVIDENCE_TAMPER",.verifier,.verifier,.confirmed,[],[],failureSignature,
   "integrity violation"⟩]
 else .ok []

def evaluations (evidence:List EvidenceRecord) (assessments:List EvidenceAssessment) :
    List ObligationEvaluation :=
 evaluateAll (admissibleRecords evidence assessments) (fun _=>none)
  (topologicalObligations obligations)

def compileVerdictReport (input:CompileVerdictInput) : Except String VerdictReport := do
 let evaluations:=evaluations input.obligations input.evidence input.assessments
 let verdict:=decideVerdict evaluations input.flags
 let failures ← (evaluations.filter fun item=>
  item.status=.fail ||
   (item.failure.any (·.certainty=.probable) && item.status=.unknown)).mapM
  (reportFailure hashes)
 let tampered ← integrityFailures hashes input.flags.integrityViolation
 let evidenceRootDigest ← hashes.evidenceRootDigest input.evidence
 pure {
  verdict
  baselineSealObjectDigest:=input.baselineSealObjectDigest
  subject:=input.subject
  verificationPlanObjectDigest:=input.planObjectDigest
  obligationResults:=evaluations.map fun item=>
   ⟨item.obligationId,item.status,item.evidenceIds,item.reason⟩
  failures:=failures++tampered
  evidenceRootDigest
  evidenceAssessments:=input.assessments
  workflowState:=workflowState verdict }

end Reports

end EpistemicCompiler.Verdicts
