import EpistemicCompiler.FallibleRuns
import EpistemicCompiler.PromotionHistory

set_option autoImplicit false

/-!
# What a promotion is approved for

`verify_grant` links three signed envelopes to one another, to the user's presence and to the
promotion mode. Of the signed subject it compares only the mode, and it does not read the decision.
-/
namespace EpistemicCompiler.PromotionApproval
open FallibleRuns StepPrograms PromotionWorld PromotionFiles PromotionJournal
 PromotionGrant PromotionApply PromotionReads PromotionRules PromotionPlan PromotionCommit
 PromotionHistory

variable {env:Env} {req:ApplyRequest} {start:World}

section Checks

variable {ε δ α:Type}

lemma require_eq_ok {condition:Bool} {e:ε} {u:Unit} :
  require condition e=.ok u ↔ condition=true := by
 cases condition <;> simp [require]

lemma requireSome_eq_ok {value:Option α} {e:ε} {a:α} :
  requireSome value e=.ok a ↔ value=some a := by
 cases value <;> simp [requireSome]

lemma mapError_eq_ok {x:Except ε α} {f:ε → δ} {a:α} : x.mapError f=.ok a ↔ x=.ok a := by
 refine ⟨mapError_ok,?_⟩
 rintro rfl
 rfl

structure Presented (env:Env) (req:ApplyRequest) (grant subject decision:Json)
  (challenge:String) (claims:GrantClaims) : Prop where
 grantSchema : text req.grantEnvelope "schemaName"=some "ApprovalGrant"
 subjectSchema : text req.subjectEnvelope "schemaName"=some "ApprovalSubject"
 decisionSchema : text req.decisionEnvelope "schemaName"=some "ApprovalDecision"
 grantSigned :
  verifyEnvelope env req.grantEnvelope req.grantVerifyingKey req.signatureKeyId=.ok ()
 subjectSigned :
  verifyEnvelope env req.subjectEnvelope req.grantVerifyingKey req.signatureKeyId=.ok ()
 decisionSigned :
  verifyEnvelope env req.decisionEnvelope req.grantVerifyingKey req.signatureKeyId=.ok ()
 grantPayload : req.grantEnvelope.get "payload"=some grant
 subjectPayload : req.subjectEnvelope.get "payload"=some subject
 decisionPayload : req.decisionEnvelope.get "payload"=some decision
 subjectLinked : ∃digest,env.canonicalDigest req.subjectEnvelope=.ok digest ∧
  text grant "subjectObjectDigest"=some digest
 decisionLinked : env.canonicalDigest req.decisionEnvelope=.ok claims.decisionDigest ∧
  text grant "approvalDecisionObjectDigest"=some claims.decisionDigest
 challenged : text grant "challengeObjectDigest"=some challenge ∧
  text decision "challengeObjectDigest"=some challenge
 present : provePresence env req challenge=.ok ()
 action : text grant "action"=some "workspace-promotion"
 kind : text subject "kind"=some "workspace-promotion"
 unexpired : ∃expires,text grant "expiresAt"=some expires ∧ ¬ expires ≤ req.now
 mode : text subject "promotionMode"=some req.promotionMode ∧
  req.promotionMode = "ENTRY_JOURNALED"
 nonce : text decision "nonce"=some claims.nonce
 grantDigest : env.canonicalDigest req.grantEnvelope=.ok claims.grantDigest

lemma checkGrant_eq_ok {claims:GrantClaims} :
  checkGrant env req=.ok claims ↔
   ∃grant subject decision challenge,
     Presented env req grant subject decision challenge claims := by
 simp only [checkGrant,bind_ok_iff,require_eq_ok,requireSome_eq_ok,signedBy,
  envelopeObjectDigest,mapError_eq_ok,decide_eq_true_eq,exists_const,pure,Except.pure,
  Except.ok.injEq]
 constructor
 · rintro ⟨hgs,hss,hds,⟨⟩,hgrant,⟨⟩,hsubject,⟨⟩,hdecision,grant,hgp,subject,hsp,
    decision,hdp,subjectDigest,hsd,decisionDigest,hdd,hsl,hdl,challenge,hgc,hdc,⟨⟩,
    hpresence,action,hact,expires,hexpires,kind,hkind,mode,hmode,⟨rfl,rfl⟩,hnow,
    rfl,hknown,hswap,nonce,hnonce,grantDigest,hgd,rfl⟩
   refine ⟨grant,subject,decision,challenge,hgs,hss,hds,hgrant,hsubject,hdecision,hgp,
    hsp,hdp,⟨_,hsd,hsl⟩,⟨hdd,hdl⟩,⟨hgc,hdc⟩,hpresence,hact,hkind,
    ⟨expires,hexpires,hnow⟩,⟨hmode,?_⟩,hnonce,hgd⟩
   rcases hknown with h | h
   · exact h
   · exact absurd ⟨h,by decide⟩ hswap
 · rintro ⟨grant,subject,decision,challenge,h⟩
   obtain ⟨subjectDigest,hsd,hsl⟩:=h.subjectLinked
   obtain ⟨expires,hexpires,hnow⟩:=h.unexpired
   refine ⟨h.grantSchema,h.subjectSchema,h.decisionSchema,(),h.grantSigned,(),
    h.subjectSigned,(),h.decisionSigned,grant,h.grantPayload,subject,h.subjectPayload,
    decision,h.decisionPayload,subjectDigest,hsd,_,h.decisionLinked.1,hsl,
    h.decisionLinked.2,challenge,h.challenged.1,h.challenged.2,(),h.present,_,h.action,
    expires,hexpires,_,h.kind,_,h.mode.1,⟨rfl,rfl⟩,hnow,rfl,.inl h.mode.2,?_,_,
    h.nonce,_,h.grantDigest,rfl⟩
   rintro ⟨hswap,-⟩
   rw [h.mode.2] at hswap
   exact absurd hswap (by decide)

end Checks

/-- The request passes every check that is made before a file of the workspace can change. -/
structure Admitted (env:Env) (req:ApplyRequest) (start:World) (claims:GrantClaims) :
  Prop where
 presented : ∃grant subject decision challenge,
  Presented env req grant subject decision challenge claims
 consumable : Consumable env start.store claims
 ready : ∃row,Store.lookupWorkspace start.store req.workspaceId=some row ∧
  row.recoveryState=.ready
 stage : ∀node,
  start.files (stagingDir req.workspaceRoot req.workspaceId)≠some (.file node)

def Untouched (start:World) (v:Tree) (_:Store) : Prop := v=view start

section Applied

variable {w:World} {claims:GrantClaims}

section Directories

variable (hcalm:env.faults=noFaults) {site:Site} {l:Location}
include hcalm

end Directories

variable {T:World → Prop} {name:String}

variable (hcalm:env.faults=noFaults)
 (hT:∀t : World,view t ⟨req.root,["."++name ++ ".pi-hec-tmp"]⟩=some (.file []) → T t)
include hcalm hT

end Applied

lemma Admitted.congr {env':Env} {req':ApplyRequest} {claims:GrantClaims}
  (h:Admitted env req start claims) (hcheck:checkGrant env' req'=checkGrant env req)
  (hnonce:env'.nonceHash=env.nonceHash) (hid:req'.workspaceId=req.workspaceId)
  (hroot:req'.workspaceRoot=req.workspaceRoot) : Admitted env' req' start claims := by
 refine ⟨checkGrant_eq_ok.mp ?_,⟨?_,h.consumable.grant⟩,?_,?_⟩
 · rw [hcheck]
   exact checkGrant_eq_ok.mpr h.presented
 · rw [hnonce]
   exact h.consumable.nonce
 · rw [hid]
   exact h.ready
 · rw [hid,hroot]
   exact h.stage

end EpistemicCompiler.PromotionApproval
