import EpistemicCompiler.Verdicts

set_option autoImplicit false

/-!
# Verification runs

A run collects the records that it is given, those of the producers for its checks, of the
comparison of test discoveries and of red-green tests; it assesses them and compiles the verdict.
-/
namespace EpistemicCompiler.VerificationRuns
open Verdicts

def relationText : EvidenceRelation → String
 | .supports => "SUPPORTS"
 | .refutes => "REFUTES"
 | .neutral => "NEUTRAL"

def originText : EvidenceOrigin → String
 | .verifier => "VERIFIER"
 | .user => "USER"
 | .sealedProject => "SEALED_PROJECT"
 | .independentTool => "INDEPENDENT_TOOL"
 | .candidateTest => "CANDIDATE_TEST"
 | .localModel => "LOCAL_MODEL"
 | .cloudClaim => "CLOUD_CLAIM"

section

structure EvidenceServices where
 policyRevisionDigest : String
 observationSignature : RunObservation → String
 objectDigestFromText : String → String
 mintGeneralId : String → String → String
 verifyArtifactEnvelope : String → String → Bool

structure AssessContext where
 baselineSealObjectDigest : String
 candidateManifestObjectDigest : Option String
 environmentSealObjectDigest : String
 producerIds : List String
 mutatedEvidenceIds : List String
 artifacts : Option (String → Option String)
 evidenceEnvelopes : String → Option String
 envelopePublicKey : Option String

def forbiddenOrigins : List EvidenceOrigin := [.localModel,.cloudClaim]

variable (services:EvidenceServices)

variable (record:EvidenceRecord) (context:AssessContext)

def observationChainValid : Bool :=
 record.observations.all fun item=>
  item.observationSignature=some (services.observationSignature item)

def envelopeChainValid : Bool :=
 match context.evidenceEnvelopes record.id with
 | none => true
 | some envelope =>
   match context.envelopePublicKey with
   | none => false
   | some key => services.verifyArtifactEnvelope envelope key

def artifactIntegrityValid : Bool :=
 match context.artifacts with
 | none => true
 | some getText =>
   record.artifactObjectDigests.all fun digest=>
    (getText digest).any fun text=>services.objectDigestFromText text=digest

def assessReasons : List String :=
 let reason (condition:Bool) (text:String) : List String:=if condition then [text] else []
 (forbiddenOrigins.filter (record.origin=·)).map (fun origin=>"origin:"++originText origin) ++
  reason (record.baselineSealObjectDigest≠context.baselineSealObjectDigest)
   "baseline-seal-mismatch" ++
  reason (record.environmentSealObjectDigest≠context.environmentSealObjectDigest)
   "environment-incompatible" ++
  reason (record.producerId ∉ context.producerIds) "producer-not-registered" ++
  (match record.subject with
   | .candidate manifest =>
     reason (context.candidateManifestObjectDigest.any (manifest≠·))
      "candidate-binding-mismatch"
   | .baseline .. => []) ++
  reason (!observationChainValid services record) "signature-chain" ++
  reason (!envelopeChainValid services record context) "signature-chain" ++
  reason (!artifactIntegrityValid services record context) "artifact-integrity" ++
  reason (record.id∈context.mutatedEvidenceIds) "artifact-integrity"

def assessEvidence (record:EvidenceRecord) : EvidenceAssessment :=
 let reasons:=assessReasons services record context
 if reasons.length > 0 then ⟨record.id,.inadmissible reasons,services.policyRevisionDigest⟩
 else ⟨record.id,.admissible,services.policyRevisionDigest⟩

def assessAll (records:List EvidenceRecord) : List EvidenceAssessment :=
 records.map (assessEvidence services context)

end

section

structure RedGreenTest where
 name : String
 bytesDigest : String
 baselineObservations : List RunObservation
 candidateObservations : List RunObservation
 targetsRequirement : Bool
 importFailure : Bool
 requirementAddsPublicSymbol : Bool

inductive RedGreenResult where
 | reproduction
 | notRed
 | wrongRedReason
 | notGreen
 | notReproduction

def RedGreenResult.text : RedGreenResult → String
 | .reproduction => "reproduction"
 | .notRed => "not-red"
 | .wrongRedReason => "wrong-red-reason"
 | .notGreen => "not-green"
 | .notReproduction => "not-reproduction"

def evaluateRedGreen (test:RedGreenTest) : RedGreenResult :=
 let baselineFailed:=test.baselineObservations.any (·.state=.failed)
 let baselinePassed:=test.baselineObservations.all (·.state=.passed)
 let candidatePassed:=test.candidateObservations.all (·.state=.passed)
 if baselinePassed then .notReproduction
 else if !baselineFailed then .notRed
 else if test.importFailure && !test.requirementAddsPublicSymbol then .wrongRedReason
 else if !test.targetsRequirement then .wrongRedReason
 else if !candidatePassed then .notGreen
 else .reproduction

structure ProducerBindings where
 baselineSealObjectDigest : String
 candidateManifestObjectDigest : String
 environmentSealObjectDigest : String
 snapshotId : String
 snapshotRootDigest : String

structure EvidenceDraft where
 obligationId : String
 relation : EvidenceRelation
 origin : EvidenceOrigin
 independenceGroup : String
 oracle : EvidenceOracle
 subject : EvidenceSubject
 producerId : String
 observations : List RunObservation
 salt : String

variable (services:EvidenceServices)

variable (bindings:ProducerBindings)

variable (obligations:List ProofObligation)

/-- The digests of a record that a run makes itself are those of its bindings. -/
def makeEvidenceRecord (draft:EvidenceDraft) : EvidenceRecord where
 id := services.mintGeneralId "ev" (draft.producerId ++ ":"++draft.obligationId ++ ":" ++
  relationText draft.relation ++ ":"++originText draft.origin ++ ":"++draft.salt)
 obligationId := draft.obligationId
 relation := draft.relation
 origin := draft.origin
 independenceGroup := draft.independenceGroup
 oracle := draft.oracle
 baselineSealObjectDigest := bindings.baselineSealObjectDigest
 subject := draft.subject
 producerId := draft.producerId
 producerVersionObjectDigest := bindings.environmentSealObjectDigest
 environmentSealObjectDigest := bindings.environmentSealObjectDigest
 observations := draft.observations.map fun item=>
  { item with observationSignature:=some (services.observationSignature item) }
 artifactObjectDigests := []

def redGreenRelation : RedGreenResult → EvidenceRelation
 | .reproduction => .supports
 | .notReproduction => .neutral
 | _ => .refutes

def redGreenRecord (obligationId:String) (test:RedGreenTest) : EvidenceRecord :=
 let result:=evaluateRedGreen test
 makeEvidenceRecord services bindings {
  obligationId
  relation:=redGreenRelation result
  origin:=.verifier
  independenceGroup:="red-green"
  oracle:=.redGreen
  subject:=.candidate bindings.candidateManifestObjectDigest
  producerId:="generic-process"
  observations:=test.candidateObservations
  salt:=test.name ++ ":"++result.text ++ ":"++test.bytesDigest }

def firstObligationId : Except String String :=
 match obligations with
 | [] => .error "verification plan has no obligations"
 | first::_ => .ok first.id

def redGreenEvidence (tests:List RedGreenTest) : Except String (List EvidenceRecord) := do
 let obligationId ← firstObligationId obligations
 pure (tests.map (redGreenRecord services bindings obligationId))

inductive CheckSubject where
 | baseline
 | candidate
 | paired

def subjectFor : CheckSubject → EvidenceSubject
 | .baseline => .baseline bindings.snapshotId bindings.snapshotRootDigest
 | .candidate | .paired => .candidate bindings.candidateManifestObjectDigest

def gamingEvidence (firstCheck:Option CheckSubject) (codes:List String) :
    Except String (List EvidenceRecord) :=
 if codes.length=0 then .ok []
 else do
  let obligationId ← firstObligationId obligations
  pure [makeEvidenceRecord services bindings {
   obligationId
   relation:=.neutral
   origin:=.verifier
   independenceGroup:="gaming"
   oracle:=.explicitExpectation
   subject:=subjectFor bindings (firstCheck.getD .candidate)
   producerId:="generic-process"
   observations:=[]
   salt:=",".intercalate codes }]

end

structure RunVerificationInput where
 obligations : List ProofObligation
 planBaselineSealObjectDigest : String
 planObjectDigest : String
 evidenceRecords : List EvidenceRecord
 checkRecords : List EvidenceRecord
 firstCheck : Option CheckSubject
 bindings : ProducerBindings
 subject : ReportSubject
 flags : Flags
 producerIds : List String
 mutatedEvidenceIds : List String
 artifacts : String → Option String
 /-- The codes that `detectGaming` finds, if discoveries are compared. -/
 gaming : Option (List String)
 redGreen : Option (List RedGreenTest)
 evidenceEnvelopes : String → Option String
 envelopePublicKey : Option String

variable (input:RunVerificationInput)

def assessContext : AssessContext where
 baselineSealObjectDigest := input.bindings.baselineSealObjectDigest
 candidateManifestObjectDigest := some input.bindings.candidateManifestObjectDigest
 environmentSealObjectDigest := input.bindings.environmentSealObjectDigest
 producerIds := input.producerIds
 mutatedEvidenceIds := input.mutatedEvidenceIds
 artifacts := some input.artifacts
 evidenceEnvelopes := input.evidenceEnvelopes
 envelopePublicKey := input.envelopePublicKey

structure RunVerificationResult where
 report : VerdictReport
 evidence : List EvidenceRecord

def gamingBlocker : Bool :=
 input.gaming.any fun codes=>codes.length > 0

def verdictInput (services:EvidenceServices) (input:RunVerificationInput)
    (collected:List EvidenceRecord) : CompileVerdictInput where
 obligations := input.obligations
 baselineSealObjectDigest := input.planBaselineSealObjectDigest
 planObjectDigest := input.planObjectDigest
 evidence := collected
 assessments := assessAll services (assessContext input) collected
 subject := input.subject
 flags := { input.flags with
  unresolvedBlockers:=input.flags.unresolvedBlockers || gamingBlocker input }

def runVerification (services:EvidenceServices) (hashes:ReportHashes)
    (input:RunVerificationInput) : Except String RunVerificationResult := do
 let gaming ← (input.gaming.map fun codes=>
  gamingEvidence services input.bindings input.obligations input.firstCheck codes).getD (.ok [])
 let redGreen ← (input.redGreen.map fun tests=>
  redGreenEvidence services input.bindings input.obligations tests).getD (.ok [])
 let collected:=input.evidenceRecords++input.checkRecords++gaming++redGreen
 let report ← compileVerdictReport hashes (verdictInput services input collected)
 pure ⟨report,collected⟩

end EpistemicCompiler.VerificationRuns
