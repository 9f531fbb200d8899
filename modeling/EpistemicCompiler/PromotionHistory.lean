import EpistemicCompiler.Base64Text
import EpistemicCompiler.PromotionCommit

set_option autoImplicit false

/-!
# Promotions over crashes and recoveries

A promotion dies after any step, and so does every reconciliation after it. What holds in every
state this can lead to, and where the code falls short of it.
-/
namespace EpistemicCompiler.PromotionHistory
open StepPrograms PromotionWorld PromotionFiles PromotionJournal PromotionGrant PromotionApply
 PromotionRecovery PromotionRules PromotionPlan PromotionReconciliation PromotionStaging
 PromotionCommit List Bool

variable {env:Env} {req:ApplyRequest} {start w:World}

variable (entries:List PromotionEntry)

section

/-- The states left behind by an application and any number of reconciliations after it, each of
which may stop after any step. `applying` and `recovering` are the failures they may meet. -/
inductive PromotionReach (env:Env) (req:ApplyRequest) (start:World)
  (applying recovering:Faults → Prop) : World → Prop where
 | apply {faults:Faults} {t:World} (hfaults:applying faults)
   (ht:t∈(applyPromotion { env with faults:=faults } req).states start) :
   PromotionReach env req start applying recovering t
 | reconcile {faults:Faults} {w t:World} (hfaults:recovering faults)
   (hw:PromotionReach env req start applying recovering w)
   (ht:t∈(reconcileAll { env with faults:=faults }).states w) :
   PromotionReach env req start applying recovering t

def noFaults : Faults := fun _ _=>false

def ProbesWork (faults:Faults) : Prop := ∀n,faults .exists n=false

def RollbackWorks (faults:Faults) : Prop := ∀n,faults .rollback n=false

variable {applying recovering:Faults → Prop} {given:Premises}

lemma PromotionReach.consistent (hinj:Function.Injective env.contentDigest)
  (hclear:Clear req start) (hquiet:Quiet req start)
  (hexpects:given.expects → ExpectsAfter env req)
  (hmut:req.mutateAfterPrepared=none) (hrewrite:req.rewriteAfterEntry=none)
  (happly:∀f,applying f → ProbesWork f ∧ RollbackWorks f)
  (hrecord:∀f,recovering f → ProbesWork f)
  (hfail:∀f,applying f ∨ recovering f → ∀site n,f site n=true → given.failed)
  (hw:PromotionReach env req start applying recovering w) :
  Consistent env.contentDigest req start given (view w) w.store := by
 have hcondition:∀f,applying f ∨ recovering f → ProbesWork f →
   Conditions { env with faults:=f } req start given := fun f hf hprobe=>
  ⟨fun site ⟨n,hn⟩=>hfail f hf site n hn, hinj,hprobe,hclear,hquiet,hexpects⟩
 induction hw with
 | @apply f t hf ht =>
   obtain ⟨hprobe,hreliable⟩:=happly f hf
   have hsafe:=meets_applyPromotion (hcondition f (.inl hf) hprobe)
    ⟨hmut,hrewrite,hreliable⟩ start rfl rfl
   exact hsafe.states_invariant (.inl ⟨rfl,rfl,rfl,rfl,rfl⟩) t ht
 | @reconcile f w t hf _ ht ih =>
   have hsafe:=meets_reconcileAll (hcondition f (.inr hf) (hrecord f hf)) ih w rfl rfl
   exact hsafe.states_invariant ih t ht

lemma exists_applied {f:Faults} (hf:applying f) {A C:World → Prop}
  (hA:∃w∈(applyPromotion { env with faults:=f } req).states start,A w)
  (hC:∀w,PromotionReach env req start applying recovering w → A w → C w) :
  ∃w,PromotionReach env req start applying recovering w ∧ C w := by
 obtain ⟨w,hw,hend⟩:=hA
 exact ⟨w,.apply hf hw,hC w (.apply hf hw) hend⟩

end

def sampleDigest (bytes:Bytes) : Digest := String.ofList (bytes.map fun b=>Char.ofNat b.toNat)

lemma sampleDigest_injective : Function.Injective sampleDigest :=
 Base64Text.ofList_bytes_injective

/-- An environment without failures whose snapshot digest is `result` exactly when every entry is
promoted. -/
def sampleEnv : Env where
 contentDigest := sampleDigest
 snapshotRootDigest tree _ :=
  if ∀e∈entries,bytesOf ((tree e.relativePath).map shape)=after e then "result" else "other"
 taggedHash _ _ _ := .ok "hash"
 canonicalDigest value := .ok ((text value "schemaName").getD "")
 verifySignature _ _ _ := true
 requestPlatformAssertion _ := .ok ()
 nonceHash nonce := nonce
 journalObjectDigest _ := "journal"
 journalPlanDigest _ := "plan"
 evidenceDigest _ := "evidence"
 envelopeDigest _ := "receipt"
 inheritedSecurity := [1]
 clock := "2026-01-01"
 faults := noFaults

def sampleEnvelope (schemaName:String) (payload:List (String×Json)) : Json :=
 .object [("schemaName",.string schemaName),("schemaVersion",.number 1),
  ("payload",.object payload),("payloadDigest",.string "hash"),
  ("signatures",.array [.object [("keyId",.string "key"),("algorithm",.string "Ed25519"),
   ("signedAt",.string "2026-01-01"),("signerCertificateObjectDigest",.string "cert"),
   ("signature",.string "signature")]])]

def sampleRequest : ApplyRequest where
 workspaceId := "ws"
 projectId := "project"
 workspaceRoot := "root"
 runId := "run"
 approvalId := "approval"
 grantEnvelope := sampleEnvelope "ApprovalGrant"
  [("subjectObjectDigest",.string "ApprovalSubject"),
  ("approvalDecisionObjectDigest",.string "ApprovalDecision"),
  ("challengeObjectDigest",.string "challenge"),("action",.string "workspace-promotion"),
  ("expiresAt",.string "2027-01-01")]
 subjectEnvelope := sampleEnvelope "ApprovalSubject" [("kind",.string "workspace-promotion"),
  ("runId",.string "run"),("candidateManifestObjectDigest",.string "candidate"),
  ("baseSnapshotRootDigest",.string "base"),("currentWorkspaceRootDigest",.string "other"),
  ("promotionMode",.string "ENTRY_JOURNALED")]
 decisionEnvelope := sampleEnvelope "ApprovalDecision"
  [("challengeObjectDigest",.string "challenge"),("decision",.string "APPROVE"),
    ("nonce",.string "nonce")]
 grantVerifyingKey := "verifying key"
 promotionMode := "ENTRY_JOURNALED"
 userPresence := none
 candidateManifestObjectDigest := "candidate"
 changeSetObjectDigest := "changes"
 baseSnapshotRootDigest := "base"
 expectedResultRootDigest := "result"
 entries := entries
 signatureKeyId := "key"
 signerCertificateObjectDigest := "cert"
 now := "2026-06-01"
 crashAfter := none
 failAtEntry := none
 mutateAfterPrepared := none
 rewriteAfterEntry := none

def sampleStart (files:List (String×Bytes)) : World where
 files := fun loc=>
  if loc=⟨.workspace "root",[]⟩ then some .directory
  else if loc.root=.workspace "root" then
   match loc.path with
   | [name] => (files.lookup name).map fun bytes=>.file ⟨bytes,1,[1],[],none⟩
   | _ => none
  else none
 nextIdentity := 2
 store :=
  { workspaces:=[⟨"ws","project","root",.ready,none⟩]
    journals:=[]
    nextJournal:=7
    entries:=fun _=>[]
    entryMeta:=fun _ _=>none
    applyContext:=fun _=>none
    cas:=fun _=>none
    consumedGrants:=[]
    sessions:=fun hash=>if hash = "nonce" then some .displayed else none }
 tick := 0

lemma expectsAfter_sample : ExpectsAfter (sampleEnv entries) (sampleRequest entries) := by
 intro tree htree
 by_contra hne
 have hother:(sampleEnv entries).snapshotRootDigest tree "ws" = "other":=if_neg hne
 have hresult:(sampleEnv entries).snapshotRootDigest tree "ws" = "result":=htree
 rw [hother] at hresult
 exact absurd hresult (by decide)

lemma quiet_sample (files:List (String×Bytes)) :
  Quiet (sampleRequest entries) (sampleStart files) where
 parent := (by decide +kernel : hasParent "root"=true)
 ended := by simp [sampleStart]
 old := by simp [sampleStart]
 released := by simp [sampleStart]
 fresh := rfl
 registered := by simp [sampleStart,sampleRequest]
 rooted := rfl
 closed name path h := by
  cases path with
  | nil => rfl
  | cons parent path => exact absurd rfl h

/-- The journal has ended committed with every entry at its after content, or given up with every
entry at its before content; or it was never opened and no entry has changed. -/
def EndedWhole (req:ApplyRequest) (start w:World) : Prop :=
 (∃row∈w.store.journals,row.journalId=start.store.nextJournal ∧
  (row.state=.committed ∧ AllAfter req (view w) ∨
   (row.state=.rolledBack ∨ row.state=.stale) ∧ AllBefore req start (view w))) ∨
 (∀row∈w.store.journals,row.journalId≠start.store.nextJournal) ∧
  AllBefore req start (view w)

lemma Idle.endedWhole (hquiet:Quiet req start)
  (h:Idle start (view w) w.store) : EndedWhole req start w := by
 refine .inr ⟨?_,fun e _=>?_⟩
 · rw [h.journals]
   exact hquiet.old
 · rw [h.tree]
   exact content_view start _

lemma Begun.endedWhole {digest:Bytes → Digest}
  {state:JournalState} {lease:RecoveryState×Option ℕ}
  (h:Begun digest req start ⟨False,True⟩ state lease (view w) w.store)
  (hterm:state.terminal=true) : EndedWhole req start w := by
 obtain ⟨hledger,hphase⟩:=h
 obtain ⟨approval,receipt,hjournals,-⟩:=hledger.journals
 refine .inl ⟨(journalPlan req approval).row start.store.nextJournal state receipt,?_,rfl,?_⟩
 · simp [hjournals]
 · cases state with
   | committed => exact .inl ⟨rfl,hphase.2 trivial⟩
   | rolledBack => exact .inr ⟨.inl rfl,hphase.2.1⟩
   | stale => exact .inr ⟨.inr rfl,hphase.2.1⟩
   | manualRecoveryRequired => exact hphase.2.elim
   | preparing | prepared | committing | verifying | rollingBack => cases hterm

/-- Without failures, a reconciliation that finishes leaves the promotion whole, wherever the
application and the reconciliations before it have died. -/
theorem recovery_is_atomic {env:Env} {req:ApplyRequest} {start w:World}
  (hinj:Function.Injective env.contentDigest) (hexpects:ExpectsAfter env req)
  (hmutate:req.mutateAfterPrepared=none) (hrewrite:req.rewriteAfterEntry=none)
  (hquiet:Quiet req start) (hclear:Clear req start)
  (hw:PromotionReach env req start (·=noFaults) (·=noFaults) w) :
  ((reconcileAll { env with faults:=noFaults }).run w).1=.ok () ∧
    EndedWhole req start ((reconcileAll { env with faults:=noFaults }).run w).2 := by
 have hsound:Consistent env.contentDigest req start ⟨False,True⟩ (view w) w.store := by
  refine hw.consistent hinj hclear hquiet (fun _=>hexpects) hmutate hrewrite ?_ ?_ ?_
  · rintro f rfl
    exact ⟨fun _=>rfl, fun _=>rfl⟩
  · rintro f rfl
    exact fun _=>rfl
  · rintro f (rfl | rfl) site n hn <;> cases hn
 have hconditions:Conditions { env with faults:=noFaults } req start ⟨False,True⟩ :=
  ⟨fun _ ⟨_,hn⟩=>absurd hn false_ne_true, hinj,fun _=>rfl, hclear,hquiet, fun _=>hexpects⟩
 have hend:=(meets_reconcileAll hconditions hsound w rfl rfl).run_post
 revert hend
 cases ((reconcileAll { env with faults:=noFaults }).run w).1 with
 | error e => exact False.elim
 | ok =>
   rintro (hidle | ⟨state,lease,hbegun,hterminal⟩)
   · exact ⟨rfl,Idle.endedWhole hquiet hidle⟩
   · exact ⟨rfl,Begun.endedWhole hbegun hterminal⟩

def sampleEntries : List PromotionEntry :=
 [⟨.replace,["b"],some [66]⟩,⟨.create,["a"],some [65]⟩]

lemma clear_sample :
  Clear (sampleRequest sampleEntries) (sampleStart [("b",[98])]) where
 distinct := by decide
 createTempApart := by decide
 rollbackTempApart := by decide
 createsApart := by decide
 rollbackTempFile := by decide

theorem recovery_is_atomic_sample :
  ∃w,PromotionReach (sampleEnv sampleEntries) (sampleRequest sampleEntries)
    (sampleStart [("b",[98])]) (·=noFaults) (·=noFaults) w ∧
    w.content ⟨.workspace "root",["b"]⟩=some [66] ∧
    w.content ⟨.workspace "root",["a"]⟩=none ∧
    EndedWhole (sampleRequest sampleEntries) (sampleStart [("b",[98])])
     ((reconcileAll (sampleEnv sampleEntries)).run w).2 := by
 refine exists_applied (by rfl) (A := fun w=>w.content ⟨.workspace "root",["b"]⟩=some [66] ∧
  w.content ⟨.workspace "root",["a"]⟩=none) ?_ ?_
 · decide
 intro w hreach hcontent
 exact ⟨hcontent.1,hcontent.2,(recovery_is_atomic sampleDigest_injective
  (expectsAfter_sample sampleEntries) rfl rfl (quiet_sample _ _) clear_sample hreach).2⟩

def collidingEntries : List PromotionEntry :=
 [⟨.create,["a"],some [65]⟩,⟨.replace,[".a.pi-hec-tmp"],some [66]⟩]

/-- Staging the created file overwrites another entry, and a crash right after it is reconciled as
if nothing had changed. -/
theorem create_temporary_destroys_entry :
  (collidingEntries.map (·.relativePath)).Nodup ∧
  ExpectsAfter (sampleEnv collidingEntries) (sampleRequest collidingEntries) ∧
  Quiet (sampleRequest collidingEntries) (sampleStart [(".a.pi-hec-tmp",[67])]) ∧
  ∃w,PromotionReach (sampleEnv collidingEntries) (sampleRequest collidingEntries)
    (sampleStart [(".a.pi-hec-tmp",[67])]) (·=noFaults) (·=noFaults) w ∧
    ((reconcileAll (sampleEnv collidingEntries)).run w).1.isOk=true ∧
    ¬ EndedWhole (sampleRequest collidingEntries) (sampleStart [(".a.pi-hec-tmp",[67])])
      ((reconcileAll (sampleEnv collidingEntries)).run w).2 := by
 refine ⟨by decide,expectsAfter_sample _,quiet_sample _ _,?_⟩
 refine exists_applied (by rfl) (A := fun w=>
  ((reconcileAll (sampleEnv collidingEntries)).run w).1.isOk=true ∧
  (∀row∈((reconcileAll (sampleEnv collidingEntries)).run w).2.store.journals,
   row.state=.stale) ∧
  ((reconcileAll (sampleEnv collidingEntries)).run w).2.content
   ⟨.workspace "root",[".a.pi-hec-tmp"]⟩=some [65]) ?_ ?_
 · decide
 rintro w - ⟨hok,hstale,hcontent⟩
 have hmixed:¬ AllBefore (sampleRequest collidingEntries) (sampleStart [(".a.pi-hec-tmp",[67])])
   (view ((reconcileAll (sampleEnv collidingEntries)).run w).2) := by
  intro h
  have hbefore:=h ⟨.replace,[".a.pi-hec-tmp"],some [66]⟩ (by decide)
  rw [content_view] at hbefore
  exact absurd (hcontent.symm.trans hbefore) (by decide)
 refine ⟨hok,?_⟩
 rintro (⟨row,hrow,-,⟨hcommitted,-⟩ | ⟨-,hbefore⟩⟩ | ⟨-,hbefore⟩)
 · exact absurd ((hstale row hrow).symm.trans hcommitted) (by decide)
 · exact hmixed hbefore
 · exact hmixed hbefore

lemma Consistent.unchanged {digest:Bytes → Digest} {given:Premises} (hquiet:Quiet req start)
  (h:Consistent digest req start given (view w) w.store) {row:JournalRow}
  (hrow:row∈w.store.journals) (hid:row.journalId=start.store.nextJournal)
  (hstate:row.state=.rolledBack ∨ row.state=.stale) :
  AllBefore req start (view w) ∧ Residue req start (view w) := by
 rcases h with hidle | ⟨state,lease,hledger,hphase⟩
 · rw [hidle.journals] at hrow
   exact absurd hid (hquiet.old row hrow)
 · obtain ⟨approval,receipt,hjournals,-⟩:=hledger.journals
   rw [hjournals] at hrow
   rcases mem_append.mp hrow with hrow | hrow
   · exact absurd hid (hquiet.old row hrow)
   · obtain rfl:=mem_singleton.mp hrow
     obtain rfl | rfl : state=.rolledBack ∨ state=.stale:=hstate
     · exact hphase.2
     · exact hphase.2

/-- A promotion of existing files alone, whose rollback temporaries are free, leaves the workspace
as it was unless it commits. -/
theorem aborted_promotion_leaves_no_trace (hinj:Function.Injective env.contentDigest)
  (hmutate:req.mutateAfterPrepared=none) (hrewrite:req.rewriteAfterEntry=none)
  (hquiet:Quiet req start) (hdistinct:(req.entries.map (·.relativePath)).Nodup)
  (hkinds:∀e∈req.entries,e.kind≠.create)
  (hapart:∀e∈req.entries,∀e'∈req.entries,rollbackTemp (dest req e)≠dest req e')
  (hfree:∀e∈req.entries,view start (rollbackTemp (dest req e))=none)
  (hw:PromotionReach env req start (fun f=>ProbesWork f ∧ RollbackWorks f) ProbesWork w)
  {row:JournalRow} (hrow:row∈w.store.journals) (hid:row.journalId=start.store.nextJournal)
  (hstate:row.state=.rolledBack ∨ row.state=.stale) (path:Path) :
  view w ⟨req.root,path⟩=view start ⟨req.root,path⟩ := by
 have hclear:Clear req start :=
  { distinct:=hdistinct
    createTempApart:=fun e he hkind=>absurd hkind (hkinds e he)
    rollbackTempApart:=fun e he _=>hapart e he
    createsApart:=fun e he hkind=>absurd hkind (hkinds e he)
    rollbackTempFile:=fun e he _=>
     ⟨by simp [hfree e he],fun e' he' hkind'=>absurd hkind' (hkinds e' he')⟩ }
 have hsound:Consistent env.contentDigest req start ⟨True,False⟩ (view w) w.store :=
  hw.consistent hinj hclear hquiet False.elim hmutate hrewrite (fun _ hf=>hf) (fun _ hf=>hf)
   fun _ _ _ _ _=>trivial
 obtain ⟨hbefore,hresidue⟩:=Consistent.unchanged hquiet hsound hrow hid hstate
 by_cases hentry : ∃e∈req.entries,before req start e≠none ∧
   (⟨req.root,path⟩ : Location)=dest req e
 · obtain ⟨e,he,hsome,hpath⟩:=hentry
   obtain ⟨b,hb⟩:=Option.ne_none_iff_exists'.mp hsome
   have hnow:=hbefore e he
   have hthen:content (view start) (dest req e)=before req start e:=content_view start _
   rw [hb] at hnow hthen
   rw [hpath,content_eq_some.mp hnow,content_eq_some.mp hthen]
 · have hother:∀e∈req.entries,before req start e≠none →
     (⟨req.root,path⟩ : Location)≠dest req e :=
    fun e he hsome hpath=>hentry ⟨e,he,hsome,hpath⟩
   rcases hresidue hkinds path hother with hsame | ⟨e,he,htemp,hgone | hmoved⟩
   · exact hsame
   · rw [hgone,htemp,hfree e he]
   · exact absurd (hbefore e he) hmoved

def replacingEntries : List PromotionEntry :=
 [⟨.replace,["a"],some [65]⟩,⟨.replace,["b"],some [66]⟩]

def failingCommit : Faults := fun site n=>site=.commit ∧ n=42

theorem aborted_promotion_leaves_no_trace_sample :
  ∃w,PromotionReach (sampleEnv replacingEntries) (sampleRequest replacingEntries)
    (sampleStart [("a",[97]),("b",[98])]) (fun f=>ProbesWork f ∧ RollbackWorks f)
    ProbesWork w ∧
    w.store.journals.map (fun row=>(row.journalId,row.state))=[(7,.rolledBack)] ∧
    ∀path,view w ⟨.workspace "root",path⟩ =
      view (sampleStart [("a",[97]),("b",[98])]) ⟨.workspace "root",path⟩ := by
 refine exists_applied (f := failingCommit) ⟨fun _=>rfl, fun _=>rfl⟩ (A := fun w=>
  w.store.journals.map (fun row=>(row.journalId,row.state))=[(7,.rolledBack)]) ?_ ?_
 · decide
 intro w hw hjournals
 obtain ⟨row,hrow,hsame⟩:=map_eq_singleton_iff.mp hjournals
 refine ⟨hjournals,fun path=>?_⟩
 exact aborted_promotion_leaves_no_trace sampleDigest_injective
  rfl rfl (quiet_sample _ _) (by decide) (by decide) (by decide) (by decide) hw
  (hrow ▸ mem_singleton_self row) (congrArg Prod.fst hsame)
  (.inl (congrArg Prod.snd hsame)) path

def abandonedEntries : List PromotionEntry :=
 [⟨.create,["a"],some [65]⟩,⟨.replace,["b"],some [66]⟩]

/-- The second entry is stale, and the temporary of the first one stays in the workspace. -/
theorem stale_promotion_leaves_temporary :
  ∃w,PromotionReach (sampleEnv abandonedEntries) (sampleRequest abandonedEntries)
    (sampleStart []) (·=noFaults) (·=noFaults) w ∧
    w.store.journals.map (fun row=>(row.journalId,row.state))=[(7,.stale)] ∧
    view w ⟨.workspace "root",[".a.pi-hec-tmp"]⟩=some (.file [65]) ∧
    view (sampleStart []) ⟨.workspace "root",[".a.pi-hec-tmp"]⟩=none := by
 exact exists_applied (by rfl) (by decide) fun _ _=>id

/-- While existence is found out and the rollback of an application does not fail, a workspace is
ready only with all of its entries before or all of them after. -/
theorem ready_workspace_is_whole (hinj:Function.Injective env.contentDigest)
  (hexpects:ExpectsAfter env req) (hmutate:req.mutateAfterPrepared=none)
  (hrewrite:req.rewriteAfterEntry=none) (hquiet:Quiet req start) (hclear:Clear req start)
  (hw:PromotionReach env req start (fun f=>ProbesWork f ∧ RollbackWorks f) ProbesWork w)
  {row:WorkspaceRow} (hrow:row∈w.store.workspaces) (hid:row.workspaceId=req.workspaceId)
  (hready:row.recoveryState=.ready) : AllBefore req start (view w) ∨ AllAfter req (view w) := by
 have hsound:Consistent env.contentDigest req start ⟨True,True⟩ (view w) w.store :=
  hw.consistent hinj hclear hquiet (fun _=>hexpects) hmutate hrewrite (fun _ hf=>hf)
   (fun _ hf=>hf) fun _ _ _ _ _=>trivial
 rcases hsound with hidle | ⟨state,lease,hledger,hphase⟩
 · left
   intro e _
   rw [hidle.tree]
   exact content_view start _
 · have hlease:lease.1=.ready := by
    rw [hledger.workspaces,leased,mem_map] at hrow
    obtain ⟨old,-,rfl⟩:=hrow
    by_cases hold : old.workspaceId=req.workspaceId
    · simpa [hold] using hready
    · simp [hold] at hid
   cases state with
   | committed => exact .inr (hphase.2 trivial)
   | rolledBack | stale => exact .inl hphase.2.1
   | preparing | prepared | committing | verifying | rollingBack =>
     rw [hphase.1] at hlease
     cases hlease
   | manualRecoveryRequired =>
     rcases hphase.1 with h | h
     · rw [h] at hlease
       cases hlease
     · rw [h] at hlease
       cases hlease

lemma clear_replacing :
  Clear (sampleRequest replacingEntries) (sampleStart [("a",[97]),("b",[98])]) where
 distinct := by decide
 createTempApart := by decide
 rollbackTempApart := by decide
 createsApart := by decide
 rollbackTempFile := by decide

theorem ready_workspace_is_whole_sample :
  ∃w,PromotionReach (sampleEnv replacingEntries) (sampleRequest replacingEntries)
    (sampleStart [("a",[97]),("b",[98])]) (fun f=>ProbesWork f ∧ RollbackWorks f)
    ProbesWork w ∧
    w.store.journals≠[] ∧ w.store.workspaces=[⟨"ws","project","root",.ready,none⟩] ∧
    (AllBefore (sampleRequest replacingEntries) (sampleStart [("a",[97]),("b",[98])])
      (view w) ∨
     AllAfter (sampleRequest replacingEntries) (view w)) := by
 refine exists_applied (f := failingCommit) ⟨fun _=>rfl, fun _=>rfl⟩ (A := fun w=>
  w.store.journals≠[] ∧ w.store.workspaces=[⟨"ws","project","root",.ready,none⟩]) ?_ ?_
 · decide
 intro w hw hend
 refine ⟨hend.1,hend.2,?_⟩
 exact ready_workspace_is_whole sampleDigest_injective (expectsAfter_sample replacingEntries)
  rfl rfl (quiet_sample _ _) clear_replacing hw (hend.2 ▸ mem_singleton_self _) rfl rfl

/-- While a prepared promotion is open, whatever crashed or failed, each of its files is as before
or as promoted, and both contents are stored. A journal that has ended has its receipt. -/
theorem open_promotion_recoverable (hinj:Function.Injective env.contentDigest)
  (hmutate:req.mutateAfterPrepared=none) (hrewrite:req.rewriteAfterEntry=none)
  (hquiet:Quiet req start) (hclear:Clear req start)
  (hw:PromotionReach env req start (fun f=>ProbesWork f ∧ RollbackWorks f) ProbesWork w)
  {row:JournalRow} (hrow:row∈w.store.journals) (hid:row.journalId=start.store.nextJournal) :
  if row.state.terminal then row.receiptObjectDigest.isSome else row.state≠.preparing →
   ∀e∈req.entries,
    (content (view w) (dest req e)=before req start e ∨ content (view w) (dest req e)=after e) ∧
    ∀b,before req start e=some b ∨ after e=some b → w.store.cas (env.contentDigest b)=some b := by
 have hsound:Consistent env.contentDigest req start ⟨True,False⟩ (view w) w.store :=
  hw.consistent hinj hclear hquiet nofun hmutate hrewrite (fun _ hf=>hf) (fun _ hf=>hf)
   fun _ _ _ _ _=>trivial
 rcases hsound with hidle | ⟨state,lease,hledger,hphase⟩
 · rw [hidle.journals] at hrow
   exact absurd hid (hquiet.old row hrow)
 · obtain ⟨approval,receipt,hjournals,hreceipt⟩:=hledger.journals
   rw [hjournals] at hrow
   rcases mem_append.mp hrow with hrow | hrow
   · exact absurd hid (hquiet.old row hrow)
   · obtain rfl:=mem_singleton.mp hrow
     cases state with
     | preparing => exact fun hpreparing=>absurd rfl hpreparing
     | committed | rolledBack | stale | manualRecoveryRequired => exact hreceipt rfl
     | prepared | committing | verifying | rollingBack =>
       obtain ⟨-,st,hcore,-⟩:=hphase
       intro _ e he
       exact ⟨hcore.tree.settled e he,fun b hb=>hb.elim (hcore.beforeKept e he b)
        (hcore.afterKept e he b)⟩

theorem open_promotion_recoverable_sample :
  ∃w,PromotionReach (sampleEnv replacingEntries) (sampleRequest replacingEntries)
    (sampleStart [("a",[97]),("b",[98])]) (fun f=>ProbesWork f ∧ RollbackWorks f) ProbesWork w ∧
    w.store.journals.map (·.state)=[.committing] ∧ w.store.cas (sampleDigest [97])=some [97] := by
 refine exists_applied (f := noFaults) ⟨fun _=>rfl, fun _=>rfl⟩ (A := fun w=>∃row∈w.store.journals,
  row.journalId=7 ∧ row.state=.committing ∧ w.store.journals.map (·.state)=[.committing]) ?_ ?_
 · decide
 rintro w hw ⟨row,hrow,hid,hstate,hstates⟩
 have h:=open_promotion_recoverable sampleDigest_injective rfl rfl (quiet_sample _ _)
  clear_replacing hw hrow hid
 rw [hstate] at h
 exact ⟨hstates,(h nofun _ (.head _)).2 _ (.inl rfl)⟩

def failingRollback : Faults := fun site n=>site=.rollback ∨ site=.commit ∧ n=42

/-- The workspace is ready with one entry after and the other one before. -/
theorem failed_rollback_hands_back_mixture :
  Clear (sampleRequest replacingEntries) (sampleStart [("a",[97]),("b",[98])]) ∧
  Quiet (sampleRequest replacingEntries) (sampleStart [("a",[97]),("b",[98])]) ∧
  ExpectsAfter (sampleEnv replacingEntries) (sampleRequest replacingEntries) ∧
  ∃w,PromotionReach (sampleEnv replacingEntries) (sampleRequest replacingEntries)
    (sampleStart [("a",[97]),("b",[98])]) (·=failingRollback) (·=noFaults) w ∧
    w.store.workspaces=[⟨"ws","project","root",.ready,none⟩] ∧
    w.content ⟨.workspace "root",["a"]⟩=some [65] ∧
    w.content ⟨.workspace "root",["b"]⟩=some [98] := by
 exact ⟨clear_replacing,quiet_sample _ _,expectsAfter_sample _,
  exists_applied (by rfl) (by decide) fun _ _=>id⟩

end EpistemicCompiler.PromotionHistory
