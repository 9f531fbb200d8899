import EpistemicCompiler.Base64Text
import EpistemicCompiler.TextEncodings

set_option autoImplicit false

/-!
# Approval grants

A grant is a payload in an envelope that the broker has signed. Consuming it checks the signature
over the digest of the payload, the expiry and the subject, and enters the digest of the whole
envelope in a register. Digests are hashes of canonical texts in UTF-8.
-/
namespace EpistemicCompiler.ApprovalGrants
open JsValues CanonicalJson Base64Text TextEncodings

inductive SignatureAlgorithm where
 | ed25519
 | ecdsaP256Sha256
 deriving DecidableEq

def SignatureAlgorithm.text : SignatureAlgorithm → JsString
 | .ed25519 => js "Ed25519"
 | .ecdsaP256Sha256 => js "ECDSA-P256-SHA256"

/-- `others` are the own keys beyond the five of the contract. No check looks at them, but the
digest of an envelope is over every key. -/
structure EnvelopeSignature where
 keyId : JsString
 algorithm : SignatureAlgorithm
 signedAt : JsString
 signerCertificateObjectDigest : JsString
 signature : JsString
 others : Fields

structure ArtifactEnvelope (α:Type) where
 schemaName : JsString
 schemaVersion : ℕ
 payload : α
 payloadDigest : JsString
 signatures : List EnvelopeSignature

inductive RunAction where
 | cloudEgress
 | command
 | workspacePromotion
 deriving DecidableEq

inductive ProjectAction where
 | projectTrust
 | projectPolicy
 | workspaceRegistration
 deriving DecidableEq

inductive GrantBinding where
 | run (action:RunAction) (runId:JsString)
 | project (action:ProjectAction)
 deriving DecidableEq

def RunAction.text : RunAction → JsString
 | .cloudEgress => js "cloud-egress"
 | .command => js "command"
 | .workspacePromotion => js "workspace-promotion"

def ProjectAction.text : ProjectAction → JsString
 | .projectTrust => js "project-trust"
 | .projectPolicy => js "project-policy"
 | .workspaceRegistration => js "workspace-registration"

inductive ApprovalAction where
 | run (action:RunAction)
 | project (action:ProjectAction)
 deriving DecidableEq

def GrantBinding.action : GrantBinding → ApprovalAction
 | .run action _ => .run action
 | .project action => .project action

structure ApprovalGrant where
 approvalId : JsString
 projectId : JsString
 principalId : JsString
 challengeObjectDigest : JsString
 approvalDecisionObjectDigest : JsString
 subjectObjectDigest : JsString
 policyObjectDigest : JsString
 issuedAt : JsString
 expiresAt : JsString
 binding : GrantBinding

inductive PromotionMode where
 | entryJournaled
 | rootSwap
 deriving DecidableEq

inductive SubjectKind where
 | cloudEgress (runId:JsString)
 | command (runId:JsString)
 | workspacePromotion (runId:JsString) (promotionMode:PromotionMode)
 | projectTrust
 | projectPolicy
 | workspaceRegistration

structure ApprovalSubject where
 kind : SubjectKind
 details : Fields

def number (n:ℕ) : JsonValue := .number (.finite n)

def GrantBinding.fields : GrantBinding → Fields
 | .run action runId =>
   [(js "scope",.string (js "run")),(js "runId",.string runId),
     (js "action",.string action.text)]
 | .project action =>
   [(js "scope",.string (js "project")),(js "action",.string action.text)]

def ApprovalGrant.fields (grant:ApprovalGrant) : Fields :=
 [(js "schemaVersion",number 1),
   (js "approvalId",.string grant.approvalId),
   (js "projectId",.string grant.projectId),
   (js "principalId",.string grant.principalId),
   (js "challengeObjectDigest",.string grant.challengeObjectDigest),
   (js "approvalDecisionObjectDigest",.string grant.approvalDecisionObjectDigest),
   (js "subjectObjectDigest",.string grant.subjectObjectDigest),
   (js "policyObjectDigest",.string grant.policyObjectDigest),
   (js "issuedAt",.string grant.issuedAt),
   (js "expiresAt",.string grant.expiresAt)]++grant.binding.fields

def ApprovalGrant.toJson (grant:ApprovalGrant) : JsonValue := .object grant.fields

def PromotionMode.text : PromotionMode → JsString
 | .entryJournaled => js "ENTRY_JOURNALED"
 | .rootSwap => js "ROOT_SWAP"

def SubjectKind.fields : SubjectKind → Fields
 | .cloudEgress runId => [(js "kind",.string (js "cloud-egress")),(js "runId",.string runId)]
 | .command runId => [(js "kind",.string (js "command")),(js "runId",.string runId)]
 | .workspacePromotion runId promotionMode =>
   [(js "kind",.string (js "workspace-promotion")),(js "runId",.string runId),
     (js "promotionMode",.string promotionMode.text)]
 | .projectTrust => [(js "kind",.string (js "project-trust"))]
 | .projectPolicy => [(js "kind",.string (js "project-policy"))]
 | .workspaceRegistration => [(js "kind",.string (js "workspace-registration"))]

def ApprovalSubject.toJson (subject:ApprovalSubject) : JsonValue :=
 .object ([(js "schemaVersion",number 1)]++subject.kind.fields++subject.details)

def EnvelopeSignature.fields (signature:EnvelopeSignature) : Fields :=
 [(js "keyId",.string signature.keyId),
   (js "algorithm",.string signature.algorithm.text),
   (js "signedAt",.string signature.signedAt),
   (js "signerCertificateObjectDigest",.string signature.signerCertificateObjectDigest),
   (js "signature",.string signature.signature)]++signature.others

def EnvelopeSignature.toJson (signature:EnvelopeSignature) : JsonValue :=
 .object signature.fields

section Digests

inductive ApprovalFailure where
 | approvalError (reason:String)
 | digestError (message:String)
 | canonicalizationError (error:CanonicalizationError)
 | brandError (brand:String) (value:JsString)

/-- The hash of bytes, how other numbers are written, and the signatures under the key of the
broker. -/
structure ApprovalServices where
 sha256 : List UInt8 → JsString
 shortest : ℚ → JsString
 paired : ∀value,unpairedSurrogate (shortest value)=false
 verify : JsString → List UInt8 → Bool

abbrev Approval (α:Type) := Except ApprovalFailure α

variable (services:ApprovalServices)

def sha256Utf8 (text:JsString) : JsString := services.sha256 (utf8 text)

def canonicalDigest (value:JsonValue) : Approval JsString :=
 match canonicalize services.shortest value with
 | .ok text => .ok (sha256Utf8 services text)
 | .error error => .error (.canonicalizationError error)

def taggedHash (domain:JsString) (version:ℕ) (payload:JsonValue) : Approval JsString :=
 canonicalDigest services (.object [(js "domain",.string domain),(js "version",number version),
  (js "payload",payload)])

def payloadDigest (schemaName:JsString) (schemaVersion:ℕ) (payload:JsonValue) :
    Approval JsString :=
 taggedHash services (js "artifact-payload") 1 (.object [(js "schemaName",.string schemaName),
  (js "schemaVersion",number schemaVersion),(js "payload",payload)])

def approvalObjectDigest (schemaName:JsString) (value:JsonValue) : Approval JsString :=
 payloadDigest services schemaName 1 value

def signatureInputDigest {α:Type} (envelope:ArtifactEnvelope α) (first:EnvelopeSignature) :
    Approval JsString :=
 taggedHash services (js "artifact-signature-input") 1 (.object [
  (js "schemaName",.string envelope.schemaName),
  (js "schemaVersion",number envelope.schemaVersion),
  (js "payloadDigest",.string envelope.payloadDigest),
  (js "keyId",.string first.keyId),
  (js "algorithm",.string first.algorithm.text),
  (js "signedAt",.string first.signedAt),
  (js "signerCertificateObjectDigest",.string first.signerCertificateObjectDigest)])

def compareTexts (left right:JsString) : ℤ :=
 if left=right then 0 else if unitsLe left right then -1 else 1

def compareSignatures (left right:EnvelopeSignature) : ℤ :=
 if left.keyId≠right.keyId then compareTexts left.keyId right.keyId
 else if left.algorithm≠right.algorithm then
  compareTexts left.algorithm.text right.algorithm.text
 else compareTexts left.signedAt right.signedAt

def sortSignatures (signatures:List EnvelopeSignature) : Approval (List EnvelopeSignature) :=
 let sorted:=signatures.mergeSort fun left right=>compareSignatures left right ≤ 0
 if (sorted.zip sorted.tail).any fun pair=>compareSignatures pair.1 pair.2=0 then
  .error (.digestError "duplicate envelope signature identity")
 else .ok sorted

section Envelopes

variable {α:Type} (toJson:α → JsonValue) (envelope:ArtifactEnvelope α)

def envelopeFields (signatures:List EnvelopeSignature) : Fields :=
 [(js "schemaName",.string envelope.schemaName),
   (js "schemaVersion",number envelope.schemaVersion),
   (js "payload",toJson envelope.payload),
   (js "payloadDigest",.string envelope.payloadDigest),
   (js "signatures",.array (signatures.map EnvelopeSignature.toJson))]

def canonicalizeEnvelope (shortest:ℚ → JsString) : Approval JsString := do
 let signatures ← sortSignatures envelope.signatures
 (canonicalize shortest (.object (envelopeFields toJson envelope signatures))).mapError
  .canonicalizationError

def envelopeObjectDigest : Approval JsString :=
 sha256Utf8 services <$> canonicalizeEnvelope toJson envelope services.shortest

end Envelopes

end Digests

section Grants

def refuse (reason:String) (condition:Bool) : Approval Unit :=
 if condition then .error (.approvalError reason) else .ok ()

def isObjectDigest (value:JsString) : Bool := isDigest value

variable (services:ApprovalServices)

def onlySignature {α:Type} (envelope:ArtifactEnvelope α) : Approval EnvelopeSignature :=
 match envelope.signatures with
 | [first] => .ok first
 | _ => .error (.approvalError "signature-missing")

def verifyEnvelopeSignature (envelope:ArtifactEnvelope ApprovalGrant)
    (expectedKeyId:JsString) : Approval Unit := do
 let first ← onlySignature envelope
 refuse "ui-key" (first.keyId≠expectedKeyId || first.algorithm≠.ed25519)
 refuse "signature-malformed" !isObjectDigest first.signerCertificateObjectDigest
 let expectedPayload ← payloadDigest services envelope.schemaName envelope.schemaVersion
  envelope.payload.toJson
 refuse "payload-digest" (expectedPayload≠envelope.payloadDigest)
 let inputDigest ← signatureInputDigest services envelope first
 refuse "ui-key" !services.verify inputDigest (fromBase64 first.signature)

def grantBindingForSubject (subject:ApprovalSubject) : GrantBinding :=
 match subject.kind with
 | .cloudEgress runId => .run .cloudEgress runId
 | .command runId => .run .command runId
 | .workspacePromotion runId _ => .run .workspacePromotion runId
 | .projectTrust => .project .projectTrust
 | .projectPolicy => .project .projectPolicy
 | .workspaceRegistration => .project .workspaceRegistration

structure ConsumeGrantInput where
 grant : ArtifactEnvelope ApprovalGrant
 brokerKeyId : JsString
 subject : ApprovalSubject
 now : JsString
 expectedAction : Option ApprovalAction
 expectedPromotionMode : Option PromotionMode

def modeMatches (subject:ApprovalSubject) (expected:PromotionMode) : Bool :=
 match subject.kind with
 | .workspacePromotion _ promotionMode => promotionMode=expected
 | _ => false

def grantDigest (input:ConsumeGrantInput) : Approval JsString := do
 verifyEnvelopeSignature services input.grant input.brokerKeyId
 let grant:=input.grant.payload
 refuse "expired" (unitsLe grant.expiresAt input.now)
 refuse "subject-mismatch" (grant.binding≠grantBindingForSubject input.subject)
 let subjectDigest ← approvalObjectDigest services (js "ApprovalSubject") input.subject.toJson
 refuse "subject-mismatch" (grant.subjectObjectDigest≠subjectDigest)
 refuse "subject-mismatch" (input.expectedAction.any (·≠grant.binding.action))
 refuse "mode-mismatch" (input.expectedPromotionMode.any (!modeMatches input.subject ·))
 envelopeObjectDigest services ApprovalGrant.toJson input.grant

abbrev GrantConsumptionRegistry := List JsString

def GrantConsumptionRegistry.consume (registry:GrantConsumptionRegistry) (digest:JsString) :
    Approval GrantConsumptionRegistry :=
 if digest∈registry then .error (.approvalError "grant-consumed") else .ok (digest::registry)

def consumeGrant (registry:GrantConsumptionRegistry) (input:ConsumeGrantInput) :
    Approval (JsString×GrantConsumptionRegistry) := do
 let digest ← grantDigest services input
 let registry ← registry.consume digest
 pure (digest,registry)

def consumed : GrantConsumptionRegistry → List ConsumeGrantInput → List ConsumeGrantInput
 | _, [] => []
 | registry, input::inputs =>
   match consumeGrant services registry input with
   | .ok (_,registry) => input::consumed registry inputs
   | .error _ => consumed registry inputs

end Grants

end EpistemicCompiler.ApprovalGrants
