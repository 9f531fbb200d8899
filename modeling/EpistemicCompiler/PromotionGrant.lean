import EpistemicCompiler.PromotionJournal

set_option autoImplicit false

/-!
# The grant of a promotion

The request of a promotion and the checks on its three signed envelopes. The checks end with two
consumptions in the store: the nonce of the decision and the grant itself.
-/
namespace EpistemicCompiler.PromotionGrant
open StepPrograms PromotionWorld PromotionJournal

structure PromotionEntry where
 kind : EntryKind
 relativePath : Path
 afterBytes : Option Bytes
 deriving DecidableEq

/-- `mutateAfterPrepared` and `rewriteAfterEntry` let a caller play an external writer. -/
structure ApplyRequest where
 workspaceId : String
 projectId : String
 workspaceRoot : String
 runId : String
 approvalId : String
 grantEnvelope : Json
 subjectEnvelope : Json
 decisionEnvelope : Json
 grantVerifyingKey : String
 promotionMode : String
 userPresence : Option (String → Except PromotionError Unit)
 candidateManifestObjectDigest : Digest
 changeSetObjectDigest : Digest
 baseSnapshotRootDigest : Digest
 expectedResultRootDigest : Digest
 entries : List PromotionEntry
 signatureKeyId : String
 signerCertificateObjectDigest : Digest
 now : String
 crashAfter : Option Checkpoint
 failAtEntry : Option ℕ
 mutateAfterPrepared : Option ((Path → Option Node) → Path → Option Node)
 rewriteAfterEntry : Option (ℕ×Bytes)

variable (env:Env) (req:ApplyRequest) (envelope:Json)

def ApplyRequest.root : RootDir := .workspace req.workspaceRoot

section

variable {ε α:Type}

def require (condition:Bool) (e:ε) : Except ε Unit :=
 if condition then .ok () else .error e

def requireSome (value:Option α) (e:ε) : Except ε α :=
 match value with
 | some a => .ok a
 | none => .error e

def text (value:Json) (key:String) : Option String := (value.get key).bind Json.asStr

def envelopePayload (schemaName:String) (schemaVersion:ℕ) (payload:Json) : Json :=
 .object [("schemaName",.string schemaName),("schemaVersion",.number schemaVersion),
  ("payload",payload)]

def verifyEnvelope (verifyingKey expectedKeyId:String) : Except RunnerError Unit := do
 let schemaName ← requireSome (text envelope "schemaName") (.protocol "envelope schemaName")
 let schemaVersion ← requireSome ((envelope.get "schemaVersion").bind Json.asU64)
  (.protocol "envelope schemaVersion")
 let payload ← requireSome (envelope.get "payload") (.protocol "envelope payload")
 let signatures ← requireSome ((envelope.get "signatures").bind Json.asArray)
  (.protocol "envelope signatures")
 let first ← requireSome signatures.head? (.protocol "envelope signatures")
 require (signatures.length=1) (.protocol "envelope signatures")
 let keyId ← requireSome (text first "keyId") (.protocol "signature keyId")
 let algorithm ← requireSome (text first "algorithm") (.protocol "signature algorithm")
 require (keyId=expectedKeyId ∧ algorithm = "Ed25519") (.protocol "signature key")
 let signedAt ← requireSome (text first "signedAt") (.protocol "signedAt")
 let cert ← requireSome (text first "signerCertificateObjectDigest") (.protocol "signer cert")
 let signature ← requireSome (text first "signature") (.protocol "signature")
 let expectedPayload ← env.taggedHash "artifact-payload" 1
  (envelopePayload schemaName schemaVersion payload)
 let stated ← requireSome (text envelope "payloadDigest") (.protocol "payloadDigest")
 require (stated=expectedPayload) (.protocol "payloadDigest")
 let input ← env.taggedHash "artifact-signature-input" 1
  (.object [("schemaName",.string schemaName),("schemaVersion",.number schemaVersion),
   ("payloadDigest",.string expectedPayload),("keyId",.string keyId),
   ("algorithm",.string algorithm),("signedAt",.string signedAt),
   ("signerCertificateObjectDigest",.string cert)])
 require (env.verifySignature verifyingKey input signature) (.protocol "signature verify")

end

structure GrantClaims where
 nonce : String
 decisionDigest : Digest
 grantDigest : Digest

def probeAtomicRootSwitch : Bool := false

def signedBy (message:String) : Except PromotionError Unit :=
 (verifyEnvelope env envelope req.grantVerifyingKey req.signatureKeyId).mapError
  fun _=>.protocol message

def envelopeObjectDigest : Except PromotionError Digest :=
 (env.canonicalDigest envelope).mapError .runner

def provePresence (challenge:String) : Except PromotionError Unit :=
 match req.userPresence with
 | some prove => prove challenge
 | none => env.requestPlatformAssertion challenge

/-- The checks of `verify_grant`, in their order, before anything is consumed. -/
def checkGrant : Except PromotionError GrantClaims := do
 require (text req.grantEnvelope "schemaName"=some "ApprovalGrant") (.protocol "grant schema")
 require (text req.subjectEnvelope "schemaName"=some "ApprovalSubject")
  (.protocol "subject schema")
 require (text req.decisionEnvelope "schemaName"=some "ApprovalDecision")
  (.protocol "decision schema")
 signedBy env req req.grantEnvelope "grant signature"
 signedBy env req req.subjectEnvelope "subject signature"
 signedBy env req req.decisionEnvelope "decision signature"
 let grant ← requireSome (req.grantEnvelope.get "payload") (.protocol "grant payload")
 let subject ← requireSome (req.subjectEnvelope.get "payload") (.protocol "subject payload")
 let decision ← requireSome (req.decisionEnvelope.get "payload") (.protocol "decision payload")
 let subjectDigest ← envelopeObjectDigest env req.subjectEnvelope
 let decisionDigest ← envelopeObjectDigest env req.decisionEnvelope
 require (text grant "subjectObjectDigest"=some subjectDigest) .subjectMismatch
 require (text grant "approvalDecisionObjectDigest"=some decisionDigest) .subjectMismatch
 let challenge ← requireSome (text grant "challengeObjectDigest") (.protocol "grant challenge")
 require (text decision "challengeObjectDigest"=some challenge) .subjectMismatch
 provePresence env req challenge
 let action ← requireSome (text grant "action") (.protocol "grant action")
 let expires ← requireSome (text grant "expiresAt") (.protocol "grant expiry")
 let kind ← requireSome (text subject "kind") (.protocol "subject kind")
 let mode ← requireSome (text subject "promotionMode") (.protocol "promotion mode")
 require (action = "workspace-promotion" ∧ kind = "workspace-promotion") .subjectMismatch
 require (¬ expires ≤ req.now) .expired
 require (mode=req.promotionMode) .subjectMismatch
 require (mode = "ENTRY_JOURNALED" ∨ mode = "ROOT_SWAP") .subjectMismatch
 require (¬ (mode = "ROOT_SWAP" ∧ ¬ probeAtomicRootSwitch)) .rootSwapUnproven
 let nonce ← requireSome (text decision "nonce") (.protocol "decision nonce")
 let grantDigest ← envelopeObjectDigest env req.grantEnvelope
 return ⟨nonce,decisionDigest,grantDigest⟩

def replayed : PromotionError → PromotionError
 | .runner .conflict => .replay
 | .runner .notFound => .replay
 | e => e

def alreadyConsumed : PromotionError → PromotionError
 | .runner .conflict => .grantConsumed
 | e => e

def mapError {α:Type} (f:PromotionError → PromotionError) (p:Promotion α) : Promotion α := do
 match ← p.attempt with
 | .ok a => pure a
 | .error e => StepProgram.throw (f e)

def verifyGrant : Promotion Digest :=
 match checkGrant env req with
 | .error e => StepProgram.throw e
 | .ok claims => do
   mapError replayed (consumeSessionNonce env claims.nonce claims.decisionDigest)
   mapError alreadyConsumed (consumeGrant claims.grantDigest)
   pure claims.grantDigest

end EpistemicCompiler.PromotionGrant
