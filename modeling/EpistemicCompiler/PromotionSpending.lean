import EpistemicCompiler.PromotionApproval
import EpistemicCompiler.PromotionRunner
import EpistemicCompiler.SpentTokens

set_option autoImplicit false

/-!
# Grants and nonces are spent once

A call spends the nonce of the decision, then the grant, and only then begins a journal. The three
are separate writes; what was spent stays spent, over crashes and against other calls.
-/
namespace EpistemicCompiler.PromotionSpending
open StepPrograms StepPrograms.StepProgram SharedPrograms SpentTokens PromotionWorld PromotionFiles
 PromotionJournal PromotionGrant PromotionApply PromotionRecovery PromotionReads PromotionTables
 PromotionProtocol PromotionRunner List Option Function

variable {env:Env} {req:ApplyRequest}

structure Spending where
 consumedGrants : List Digest
 sessions : Digest → Option SessionState
 nextJournal : ℕ
 begun : List (ℕ×Digest)

def spending (w:World) : Spending :=
 ⟨w.store.consumedGrants,w.store.sessions,w.store.nextJournal,
  w.store.journals.map fun row=>(row.journalId,row.approvalObjectDigest)⟩

lemma spending_of_tables {w w':World} (h:tables w'=tables w) :
  spending w'=spending w := by
 have hview:=congrArg (fun t:Tables=>(⟨t.consumedGrants,t.sessions,t.nextJournal,
  t.journals.map fun row=>(row.journalId,row.approvalObjectDigest)⟩ : Spending)) h
 exact hview

lemma spending_setJournal (w:World) (journalId:ℕ) (state:JournalState)
  (receipt:Option Digest) :
  spending { w with store:=Store.setJournal w.store journalId state receipt }=spending w := by
 simp only [spending,Store.setJournal,List.map_map]
 congr 1
 refine List.map_congr_left fun row _=>?_
 simp only [comp]
 split <;> rfl

lemma spending_of_leaseMoves {workspaceId:String} {lease lease':Lease} {w w':World}
  (h:LeaseMoves workspaceId lease w w' lease') : spending w'=spending w := by
 cases h with
 | quiet htables => exact spending_of_tables htables
 | advance | finish => exact spending_setJournal _ _ _ _
 | release | block => rfl

lemma preserves_settles {α:Type} {workspaceId:String} {journalId:ℕ} {p:Promotion α}
  (h:Settles workspaceId journalId p) : Preserves spending p :=
 h.preserves fun _ _ _ _=>spending_of_leaseMoves

lemma preserves_quiet {α:Type} {p:Promotion α} (h:Quiet p) : Preserves spending p :=
 h.coarsen fun _ _=>spending_of_tables

lemma preserves_reconcileJournal (journal:JournalRow) :
  Preserves spending (reconcileJournal env journal) := by
 cases hstate : journal.state.terminal with
 | false => exact preserves_settles (settles_reconcileJournal hstate)
 | true =>
   have hstale:∀root observed,Preserves spending (terminalStale env journal root observed) :=
    fun _ _=>preserves_settles (settles_persistTerminal rfl)
   refine .bind (.read _) fun rootPath=>?_
   split
   · exact hstale _ _
   · refine .bind (preserves_quiet (quiet_of_reading (reading_pathExists _))) fun _=>
      .ite ?_ (hstale _ _)
     unfold reconcileAt
     cases hcase : journal.state <;> rw [hcase] at hstate <;>
      first | exact .pure _ | cases hstate

lemma preserves_reconcileAll : Preserves spending (reconcileAll env) := by
 refine .bind (.read _) fun rows=>.bind ?_ fun _=>?_
 · induction rows with
   | nil => exact .pure _
   | cons journal rows ih =>
     exact .bind (preserves_reconcileJournal journal) fun _=>ih
 · refine .bind (.read _) fun items=>?_
   induction items with
   | nil => exact .pure _
   | cons item items ih => exact .bind (.write fun _=>rfl) fun _=>ih

section Keys

def nonceKey (env:Env) (req:ApplyRequest) : Option Digest :=
 (checkGrant env req).toOption.map fun claims=>env.nonceHash claims.nonce

def grantKey (env:Env) (req:ApplyRequest) : Option Digest :=
 (checkGrant env req).toOption.map (·.grantDigest)

def nonceSpent (s:Spending) (hash:Digest) : Prop :=
 ∃decision,s.sessions hash=some (.decided decision)

def grantSpent (s:Spending) (digest:Digest) : Prop := digest∈s.consumedGrants

def HasNonce (stage:Stage) : Prop := stage=.noncePaid ∨ stage=.paid

def HasGrant (stage:Stage) : Prop := stage=.paid

/-- The journals that were begun, and the calls that have paid for one, account for what is
spent. -/
structure SpendingInv (env:Env) (stage:ℕ → Stage) (reqs:List ApplyRequest)
  (begun:List (ℕ×ApplyRequest)) (s:Spending) : Prop where
 nonces : Once (nonceKey env) (nonceSpent s) (fun i=>HasNonce (stage i)) reqs (begun.map (·.2))
 grants : Once (grantKey env) (grantSpent s) (fun i=>HasGrant (stage i)) reqs (begun.map (·.2))
 logged : s.begun.map (fun row=>(row.1,some row.2)) =
  begun.map fun item=>(item.1,grantKey env item.2)

variable {claims:GrantClaims}

lemma nonceKey_of_check (h:checkGrant env req=.ok claims) :
  nonceKey env req=some (env.nonceHash claims.nonce) := by
 rw [nonceKey,h]
 rfl

lemma grantKey_of_check (h:checkGrant env req=.ok claims) :
  grantKey env req=some claims.grantDigest := by
 rw [grantKey,h]
 rfl

end Keys

section Steps

variable {stage:ℕ → Stage} {stage':Stage} {reqs:List ApplyRequest}
 {begun:List (ℕ×ApplyRequest)} {s s':Spending} {i:ℕ}

lemma update_waiting (P:Stage → Prop) (hnew:¬ P stage') {k:ℕ}
  (h:P (update stage i stage' k)) : P (stage k) ∧ k≠i := by
 by_cases hki : k=i
 · subst hki
   rw [update_self] at h
   exact absurd h hnew
 · rw [update_of_ne hki] at h
   exact ⟨h,hki⟩

lemma update_waiting_or (P:Stage → Prop) {k:ℕ}
  (h:P (update stage i stage' k)) : P (stage k) ∨ k=i := by
 by_cases hki : k=i
 · exact .inr hki
 · rw [update_of_ne hki] at h
   exact .inl h

variable {w:World}

lemma spendingInv_payNonce {claims:GrantClaims}
  (h:SpendingInv env stage reqs begun (spending w)) (hreq:reqs[i]?=some req)
  (hclaims:checkGrant env req=.ok claims)
  (hfresh:w.store.sessions (env.nonceHash claims.nonce)=some .created ∨
   w.store.sessions (env.nonceHash claims.nonce)=some .displayed) :
  SpendingInv env (update stage i .noncePaid) reqs begun (spending { w with
   store :=
    Store.decideSession w.store (env.nonceHash claims.nonce) claims.decisionDigest }) := by
 have hspent:∀hash,nonceSpent (spending w) hash → nonceSpent (spending { w with
   store:=Store.decideSession w.store (env.nonceHash claims.nonce) claims.decisionDigest })
   hash := by
  rintro hash ⟨decision,hdecision⟩
  by_cases heq : hash=env.nonceHash claims.nonce
  · exact ⟨claims.decisionDigest,if_pos heq⟩
  · exact ⟨decision,(if_neg heq).trans hdecision⟩
 refine ⟨?_,?_,h.logged⟩
 · refine h.nonces.pay hreq (nonceKey_of_check hclaims) ?_ hspent
    ⟨claims.decisionDigest,if_pos rfl⟩ fun k hk=>update_waiting_or HasNonce hk
   rintro ⟨decision,hdecision⟩
   change w.store.sessions _ = _ at hdecision
   rcases hfresh with hfresh | hfresh <;> rw [hfresh] at hdecision <;> cases hdecision
 · exact h.grants.mono (fun _ hk=>hk) fun k hk=>
    (update_waiting HasGrant (by simp [HasGrant]) hk).1

lemma spendingInv_payGrant {claims:GrantClaims}
  (h:SpendingInv env stage reqs begun (spending w)) (hreq:reqs[i]?=some req)
  (hstage:stage i=.noncePaid) (hclaims:checkGrant env req=.ok claims)
  (hfresh:claims.grantDigest ∉ w.store.consumedGrants) :
  SpendingInv env (update stage i .paid) reqs begun (spending { w with
   store:={ w.store with
    consumedGrants:=w.store.consumedGrants++[claims.grantDigest] } }) := by
 refine ⟨?_,?_,h.logged⟩
 · refine h.nonces.mono (fun _ hk=>hk) fun k hk=>?_
   rcases update_waiting_or HasNonce hk with hold | rfl
   · exact hold
   · exact .inl hstage
 · exact h.grants.pay hreq (grantKey_of_check hclaims) hfresh
    (fun digest hk=>mem_append_left _ hk)
    (mem_append_right _ (mem_singleton_self _))
    fun k hk=>update_waiting_or HasGrant hk

lemma spendingInv_begin {claims:GrantClaims} (lease:Lease)
  (h:SpendingInv env stage reqs begun (spending w)) (hreq:reqs[i]?=some req)
  (hstage:stage i=.paid) (hclaims:checkGrant env req=.ok claims) :
  SpendingInv env (update stage i (.leased lease)) reqs
   (begun++[(w.store.nextJournal,req)])
   (spending { w with
    store:=Store.openJournal w.store (journalPlan req claims.grantDigest) }) := by
 refine ⟨?_,?_,?_⟩
 · rw [map_append]
   exact h.nonces.finish hreq (.inr hstage) fun k hk=>
    update_waiting HasNonce (by simp [HasNonce]) hk
 · rw [map_append]
   exact h.grants.finish hreq hstage fun k hk=>
    update_waiting HasGrant (by simp [HasGrant]) hk
 · have hrows:=h.logged
   simp only [spending,List.map_map] at hrows
   simp only [spending,Store.openJournal,List.map_append,List.map_map,hrows,
    map_cons,map_nil,grantKey_of_check hclaims]
   rfl

section

variable (h:SpendingInv env stage reqs begun (spending w))
include h

lemma SpendingInv.keep {w':World} (hsame:spending w'=spending w)
  (hstage:(HasNonce stage' → HasNonce (stage i)) ∧ (HasGrant stage' → HasGrant (stage i))) :
  SpendingInv env (update stage i stage') reqs (record begun req w w')
   (spending w') := by
 have hnext:w'.store.nextJournal=w.store.nextJournal:=congrArg Spending.nextJournal hsame
 have hwait:∀P : Stage → Prop,(P stage' → P (stage i)) →
   ∀k,P (update stage i stage' k) → P (stage k) := by
  intro P hP k hk
  by_cases hki : k=i
  · subst hki
    rw [update_self] at hk
    exact hP hk
  · rwa [update_of_ne hki] at hk
 rw [record,if_pos hnext,hsame]
 exact ⟨h.nonces.mono (fun _ hk=>hk) (hwait HasNonce hstage.1),
  h.grants.mono (fun _ hk=>hk) (hwait HasGrant hstage.2),h.logged⟩

lemma SpendingInv.step {w':World} (hreq:reqs[i]?=some req)
  (hmove:Moves env req (stage i) w w' stage') :
  SpendingInv env (update stage i stage') reqs (record begun req w w')
   (spending w') := by
 have hquiet:∀st,stage i=st → tables w'=tables w →
   SpendingInv env (update stage i st) reqs (record begun req w w') (spending w') := by
  intro st hst htables
  apply h.keep (spending_of_tables htables)
  rw [hst]
  exact ⟨id,id⟩
 -- Payments leave the journal counter alone, so the record grows in the `begin` case only.
 have hsame:w'.store.nextJournal=w.store.nextJournal → record begun req w w'=begun :=
  fun hnext=>if_pos hnext
 generalize hst : stage i=st at hmove
 cases hmove with
 | quiet htables => exact hquiet _ hst htables
 | payNonce hclaims hfresh =>
   rw [hsame rfl]
   exact spendingInv_payNonce h hreq hclaims hfresh
 | payGrant hclaims hfresh =>
   rw [hsame rfl]
   exact spendingInv_payGrant h hreq hst hclaims hfresh
 | begin hclaims hrow hready =>
   have hgrown:=spendingInv_begin (.holding w.store.nextJournal) h hreq hst hclaims
   rwa [record,if_neg (by exact Nat.succ_ne_self _)]
 | lease hmove =>
   exact h.keep (spending_of_leaseMoves hmove) (by simp [HasNonce,HasGrant])

lemma SpendingInv.spawn (req:ApplyRequest) :
  SpendingInv env (update stage reqs.length .fresh) (reqs++[req]) begun
   (spending w) where
 nonces := h.nonces.spawn req fun _ hk=>update_waiting HasNonce (by simp [HasNonce]) hk
 grants := h.grants.spawn req fun _ hk=>update_waiting HasGrant (by simp [HasGrant]) hk
 logged := h.logged

end 

lemma SpendingInv.abandon (h:SpendingInv env stage reqs begun s) :
  SpendingInv env (fun _=>.fresh) [] begun s where
 nonces := h.nonces.abandon [] fun _ hk=>by simp [HasNonce] at hk
 grants := h.grants.abandon [] fun _ hk=>by simp [HasGrant] at hk
 logged := h.logged

lemma SpendingInv.session {hash:Digest}
  (h:SpendingInv env stage reqs begun (spending w)) (hnone:w.store.sessions hash=none) :
  SpendingInv env stage reqs begun
   (spending { w with store:=openSession w.store hash }) where
 nonces := by
  apply h.nonces.mono _ fun _ hk=>hk
  intro other hspent
  obtain ⟨decision,hdecision⟩:=hspent
  have hne:other≠hash := by
   intro heq
   rw [heq] at hdecision
   exact absurd (hnone.symm.trans hdecision) (by simp)
  exact ⟨decision,(if_neg hne).trans hdecision⟩
 grants := h.grants
 logged := h.logged

end Steps

section Runs

variable {start r r':Runner}

def Accounted (env:Env) (r:Runner) : Prop :=
 match r.process with
 | .closed => SpendingInv env (fun _=>.fresh) [] r.begun (spending r.world)
 | .opening rest => Preserves spending rest ∧
   SpendingInv env (fun _=>.fresh) [] r.begun (spending r.world)
 | .serving pool => ∃stage,Standing (Moves env) stage pool ∧
   SpendingInv env stage (pool.map (·.1)) r.begun (spending r.world)

lemma Accounted.exists_inv (h:Accounted env r) :
  ∃stage reqs,SpendingInv env stage reqs r.begun (spending r.world) := by
 obtain ⟨w,begun,process⟩:=r
 cases process with
 | closed => exact ⟨_,_,h⟩
 | opening rest => exact ⟨_,_,h.2⟩
 | serving pool =>
   obtain ⟨stage,-,hinv⟩:=h
   exact ⟨stage,_,hinv⟩

lemma Accounted.frame {w w':World} {begun:List (ℕ×ApplyRequest)} {process:Process}
  (h:Accounted env ⟨w,begun,process⟩)
  (hkeep:∀stage reqs,SpendingInv env stage reqs begun (spending w) →
   SpendingInv env stage reqs begun (spending w')) : Accounted env ⟨w',begun,process⟩ := by
 cases process with
 | closed => exact hkeep _ _ h
 | opening rest => exact ⟨h.1,hkeep _ _ h.2⟩
 | serving pool =>
   obtain ⟨stage,hstand,hinv⟩:=h
   exact ⟨stage,hstand,hkeep _ _ hinv⟩

lemma Accounted.step (h:Accounted env r) (hstep:Step env r r') : Accounted env r' := by
 cases hstep with
 | openStore faults clock =>
   exact ⟨.bind (.write fun _=>rfl) fun _=>preserves_reconcileAll,h⟩
 | recover faults clock _ =>
   obtain ⟨stage,-,hinv⟩:=h
   exact ⟨preserves_reconcileAll,hinv.abandon⟩
 | @reconcile w begun act next =>
   obtain ⟨hrest,hinv⟩:=h
   have hstep:=hrest w
   refine ⟨hstep.2,?_⟩
   rw [hstep.1]
   exact hinv
 | opened => exact ⟨fun _=>.fresh, standing_nil,h.2⟩
 | @call w begun pool faults clock req =>
   obtain ⟨stage,hstand,hinv⟩:=h
   refine ⟨_,hstand.spawn (follows_call faults clock req),?_⟩
   have hlen:pool.length=(pool.map (·.1)).length:=(length_map _).symm
   rw [map_append,hlen]
   exact hinv.spawn req
 | @apply w begun pool i req act next hi =>
   obtain ⟨stage,hstand,hinv⟩:=h
   obtain ⟨stage',hmove,hstand'⟩:=hstand.step hi w
   have hreq:(pool.map (·.1))[i]?=some req := by rw [getElem?_map,hi]; rfl
   refine ⟨_,hstand',?_⟩
   rw [map_set_request hi]
   exact hinv.step hreq hmove
 | crash =>
   obtain ⟨stage,reqs,hinv⟩:=h.exists_inv
   exact hinv.abandon
 | external files => exact h.frame fun _ _ hinv=>hinv
 | session hnone => exact h.frame fun _ _ hinv=>hinv.session hnone

lemma accounted_of_initial (h:Initial r) : Accounted env r := by
 obtain ⟨w,begun,process⟩:=r
 obtain ⟨hjournals,hbegun,hprocess⟩:=h
 change w.store.journals=[] at hjournals
 subst hbegun hprocess
 refine ⟨once_nil fun _ hk=>?_, once_nil fun _ hk=>?_, ?_⟩
 · simp [HasNonce] at hk
 · simp [HasGrant] at hk
 · simp [spending,hjournals]

lemma accounted_of_reachable (h:Reachable env start r) (hstart:Initial start) :
  Accounted env r := by
 induction h with
 | refl => exact accounted_of_initial hstart
 | tail _ hstep ih => exact ih.step hstep

def decisionNonce (req:ApplyRequest) : Option String :=
 (req.decisionEnvelope.get "payload").bind fun decision=>text decision "nonce"

lemma claims_of_grantKey {digest:Digest}
  (h:grantKey env req=some digest) :
  env.canonicalDigest req.grantEnvelope=.ok digest ∧
   nonceKey env req=(decisionNonce req).map env.nonceHash := by
 cases hcheck : checkGrant env req with
 | error e =>
   rw [grantKey,hcheck] at h
   cases h
 | ok claims =>
   obtain ⟨grant,subject,decision,challenge,hpresence⟩ :=
    PromotionApproval.checkGrant_eq_ok.mp hcheck
   rw [grantKey_of_check hcheck,some.injEq] at h
   rw [← h,nonceKey_of_check hcheck,decisionNonce,hpresence.decisionPayload,
    bind_some,hpresence.nonce]
   exact ⟨hpresence.grantDigest,rfl⟩

lemma digests_of_keys {begun:List (ℕ×ApplyRequest)} {rows:List (ℕ×Digest)}
  (h:rows.map (fun row=>(row.1,some row.2)) =
   begun.map fun item=>(item.1,grantKey env item.2)) :
  begun.map (fun item=>(item.1,env.canonicalDigest item.2.grantEnvelope)) =
   rows.map fun row=>(row.1,.ok row.2) := by
 induction begun generalizing rows with
 | nil =>
   rw [map_nil,map_eq_nil_iff] at h
   rw [h]
   rfl
 | cons item begun ih =>
   cases rows with
   | nil => cases h
   | cons row rows =>
     rw [map_cons,map_cons,cons.injEq,Prod.mk.injEq] at h
     obtain ⟨⟨hid,hkey⟩,hrest⟩:=h
     rw [map_cons,map_cons,ih hrest,hid,(claims_of_grantKey hkey.symm).1]

/-- However calls and crashes interleave: the journals are the begun ones, each for the grant of its
request, and no two of them were begun for one grant or for one nonce. -/
theorem grants_are_single_use (env:Env) (start r:Runner) (hstart:Initial start)
  (hr:Reachable env start r) :
  r.begun.map (fun item=>(item.1,env.canonicalDigest item.2.grantEnvelope)) =
   r.world.store.journals.map (fun row=>(row.journalId,.ok row.approvalObjectDigest)) ∧
  r.begun.Pairwise fun item item'=>
   env.canonicalDigest item.2.grantEnvelope≠env.canonicalDigest item'.2.grantEnvelope ∧
   decisionNonce item.2≠decisionNonce item'.2 := by
 obtain ⟨stage,reqs,hinv⟩:=(accounted_of_reachable hr hstart).exists_inv
 have hdigests:=digests_of_keys hinv.logged
 constructor
 · rw [hdigests,spending,List.map_map]
   rfl
 · have hgrants:=pairwise_map.mp hinv.grants.distinct
   have hnonces:=pairwise_map.mp hinv.nonces.distinct
   refine (hgrants.and hnonces).imp_of_mem ?_
   intro item item' hitem hitem' hkeys
   obtain ⟨digest,hkey,-⟩:=hinv.grants.paid item.2 (mem_map_of_mem hitem)
   obtain ⟨digest',hkey',-⟩:=hinv.grants.paid item'.2 (mem_map_of_mem hitem')
   obtain ⟨hdigest,hnonce⟩:=claims_of_grantKey hkey
   obtain ⟨hdigest',hnonce'⟩:=claims_of_grantKey hkey'
   constructor
   · intro heq
     rw [hdigest,hdigest',Except.ok.injEq] at heq
     exact hkeys.1 (by rw [hkey,hkey',heq])
   · intro heq
     exact hkeys.2 (by rw [hnonce,hnonce',heq])

open PromotionHistory in
theorem grants_are_single_use_sample :
  ∃r,Reachable (sampleEnv sampleEntries) ⟨sampleStart [("b",[98])],[],.closed⟩ r ∧
    r.begun.length=1 ∧
    r.begun.Pairwise fun item item'=>
     (sampleEnv sampleEntries).canonicalDigest item.2.grantEnvelope ≠
      (sampleEnv sampleEntries).canonicalDigest item'.2.grantEnvelope ∧
     decisionNonce item.2≠decisionNonce item'.2 := by
 have hlength:(sampleCall 40).2.store.journals.length=1 := by decide +kernel
 obtain ⟨begun,hreach⟩:=reachable_sampleCall 40
 obtain ⟨hlogged,hdistinct⟩:=grants_are_single_use _ _ _ ⟨rfl,rfl,rfl⟩ hreach
 refine ⟨_,hreach,?_,hdistinct⟩
 have hsame:=congrArg length hlogged
 rw [length_map,length_map] at hsame
 exact hsame.trans hlength

end Runs

end EpistemicCompiler.PromotionSpending
