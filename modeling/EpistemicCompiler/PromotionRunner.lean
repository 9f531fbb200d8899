import EpistemicCompiler.PromotionHistory
import EpistemicCompiler.PromotionLeases

set_option autoImplicit false

/-!
# The runner process

One process at a time has the store open: `LocalStore::open` holds an exclusive file lock. Opening
runs `reconcile_on_open`, the only caller of `reconcile_all`; only then are calls of
`apply_promotion` served, any number at once. The process may die at any moment.
-/
namespace EpistemicCompiler.PromotionRunner
open StepPrograms StepPrograms.StepProgram SharedPrograms PromotionWorld PromotionFiles
 PromotionJournal PromotionGrant PromotionApply PromotionRecovery PromotionTables
 PromotionProtocol PromotionLeases List Option Function

variable (env:Env) {req:ApplyRequest}

def markReconciling (store:Store) : Store :=
 { store with workspaces:=store.workspaces.map fun row=>
   if store.journals.any fun journal=>
     journal.workspaceId=row.workspaceId && !journal.state.terminal then
    { row with recoveryState:=.reconciling }
   else row }

def reconcileOnOpen : Promotion Unit := do
 updateStore markReconciling
 reconcileAll env

/-- `open_trusted_session` inserts a row under the hash of a nonce it has just drawn. -/
def openSession (store:Store) (hash:Digest) : Store :=
 { store with sessions:=fun d=>if d=hash then some .created else store.sessions d }

abbrev Pool := List (ApplyRequest×Promotion ApplyOutcome)

inductive Process where
 | closed
 | opening (rest:Promotion Unit)
 | serving (pool:Pool)

structure Runner where
 world : World
 begun : List (ℕ×ApplyRequest)
 process : Process

def record (begun:List (ℕ×ApplyRequest)) (req:ApplyRequest) (before after:World) :
    List (ℕ×ApplyRequest) :=
 if after.store.nextJournal=before.store.nextJournal then begun
 else begun++[(before.store.nextJournal,req)]

/-- The failures a process meets and its clock are its own; digests and keys are not. -/
def processEnv (faults:Faults) (clock:String) : Env :=
 { env with faults:=faults, clock:=clock }

/-- One step of the runner or of its surroundings: other programs write files, and sessions are
opened under fresh nonces. Journals are recovered when the store is opened, or on the open store
while no call runs; a recovery that fails there leaves the store open. -/
inductive Step (env:Env) : Runner → Runner → Prop where
 | openStore {w:World} {begun:List (ℕ×ApplyRequest)} (faults:Faults) (clock:String) :
   Step env ⟨w,begun,.closed⟩
    ⟨w,begun,.opening (reconcileOnOpen (processEnv env faults clock))⟩
 | reconcile {w:World} {begun:List (ℕ×ApplyRequest)} {act:World → World}
   {next:World → Promotion Unit} :
   Step env ⟨w,begun,.opening (.step act next)⟩ ⟨act w,begun,.opening (next w)⟩
 | opened {w:World} {begun:List (ℕ×ApplyRequest)} {result:Except PromotionError Unit} :
   Step env ⟨w,begun,.opening (.done result)⟩ ⟨w,begun,.serving []⟩
 | recover {w:World} {begun:List (ℕ×ApplyRequest)} {pool:Pool} (faults:Faults)
   (clock:String) (h:∀item∈pool,∃result,item.2=.done result) :
   Step env ⟨w,begun,.serving pool⟩
    ⟨w,begun,.opening (reconcileAll (processEnv env faults clock))⟩
 | call {w:World} {begun:List (ℕ×ApplyRequest)} {pool:Pool} (faults:Faults)
   (clock:String) (req:ApplyRequest) :
   Step env ⟨w,begun,.serving pool⟩ ⟨w,begun,
    .serving (pool++[(req,applyPromotion (processEnv env faults clock) req)])⟩
 | apply {w:World} {begun:List (ℕ×ApplyRequest)} {pool:Pool} {i:ℕ} {req:ApplyRequest}
   {act:World → World} {next:World → Promotion ApplyOutcome}
   (h:pool[i]?=some (req,.step act next)) :
   Step env ⟨w,begun,.serving pool⟩
    ⟨act w,record begun req w (act w),.serving (pool.set i (req,next w))⟩
 | crash {w:World} {begun:List (ℕ×ApplyRequest)} {process:Process} :
   Step env ⟨w,begun,process⟩ ⟨w,begun,.closed⟩
 | external {w:World} {begun:List (ℕ×ApplyRequest)} {process:Process}
   (files:Location → Option Node) :
   Step env ⟨w,begun,process⟩ ⟨{ w with files:=files },begun,process⟩
 | session {w:World} {begun:List (ℕ×ApplyRequest)} {process:Process} {hash:Digest}
   (h:w.store.sessions hash=none) :
   Step env ⟨w,begun,process⟩
    ⟨{ w with store:=openSession w.store hash },begun,process⟩

def Initial (r:Runner) : Prop :=
 r.world.store.journals=[] ∧ r.begun=[] ∧ r.process=.closed

def Reachable (start r:Runner) : Prop :=
 Relation.ReflTransGen (Step env) start r

section

structure PoolInv (stage:ℕ → Stage) (reqs:List ApplyRequest) (t:Leases) : Prop where
 exclusive : Exclusive t
 owned : ∀i req lease,reqs[i]?=some req → stage i=.leased lease →
  LeaseInv t req.workspaceId lease
 apart : ∀i k req req' lease lease',i≠k → reqs[i]?=some req → reqs[k]?=some req' →
  stage i=.leased lease → stage k=.leased lease' → held lease=true →
  held lease'=true → req.workspaceId≠req'.workspaceId

variable {stage:ℕ → Stage} {reqs:List ApplyRequest} {t t':Leases} {i:ℕ} {stage':Stage}

/-- A call changes its own stage: the other calls keep theirs and have to keep what they rely on. -/
lemma PoolInv.update (h:PoolInv stage reqs t) (hreq:reqs[i]?=some req) (hex:Exclusive t')
  (hself:∀lease,stage'=.leased lease → LeaseInv t' req.workspaceId lease)
  (hother:∀k req' lease,k≠i → reqs[k]?=some req' → stage k=.leased lease →
   LeaseInv t' req'.workspaceId lease)
  (hheld:∀k req' lease lease',k≠i → reqs[k]?=some req' → stage'=.leased lease →
   stage k=.leased lease' → held lease=true → held lease'=true →
   req.workspaceId≠req'.workspaceId) : PoolInv (Function.update stage i stage') reqs t' where
 exclusive := hex
 owned k req' lease hk hstage := by
  by_cases hki : k=i
  · subst hki
    rw [update_self] at hstage
    obtain rfl : req=req':=some.inj (hreq.symm.trans hk)
    exact hself lease hstage
  · rw [update_of_ne hki] at hstage
    exact hother k req' lease hki hk hstage
 apart k m req₁ req₂ lease₁ lease₂ hkm hk hm hstage₁ hstage₂ hheld₁ hheld₂ := by
  by_cases hki : k=i
  · subst hki
    rw [update_self] at hstage₁
    rw [update_of_ne (Ne.symm hkm)] at hstage₂
    obtain rfl : req=req₁:=some.inj (hreq.symm.trans hk)
    exact hheld m req₂ lease₁ lease₂ (Ne.symm hkm) hm hstage₁ hstage₂ hheld₁ hheld₂
  · rw [update_of_ne hki] at hstage₁
    by_cases hmi : m=i
    · subst hmi
      rw [update_self] at hstage₂
      obtain rfl : req=req₂:=some.inj (hreq.symm.trans hm)
      exact Ne.symm (hheld k req₁ lease₂ lease₁ hki hk hstage₂ hstage₁ hheld₂ hheld₁)
    · rw [update_of_ne hmi] at hstage₂
      exact h.apart k m req₁ req₂ lease₁ lease₂ hkm hk hm hstage₁ hstage₂ hheld₁ hheld₂

lemma PoolInv.unleased (h:PoolInv stage reqs t) (hreq:reqs[i]?=some req)
  (hstage:∀lease,stage'≠.leased lease) : PoolInv (Function.update stage i stage') reqs t :=
 h.update hreq h.exclusive (fun lease heq=>absurd heq (hstage lease))
  (fun k req' lease _ hk hl=>h.owned k req' lease hk hl)
  (fun _ _ lease _ _ _ heq=>absurd heq (hstage lease))

lemma PoolInv.step {env:Env} {w w':World} (h:PoolInv stage reqs (leases w))
  (hreq:reqs[i]?=some req) (hmove:Moves env req (stage i) w w' stage') :
  PoolInv (Function.update stage i stage') reqs (leases w') := by
 generalize hstage : stage i=before at hmove
 cases hmove with
 | quiet htables =>
   rw [leases_of_tables htables,← hstage,update_eq_self]
   exact h
 | payNonce | payGrant => exact h.unleased hreq fun _=>by simp
 | @begin _ claims row _ hrow hready =>
   have hmem:=List.mem_of_find?_eq_some hrow
   have hid:row.workspaceId=req.workspaceId := by simpa using List.find?_some hrow
   have hfree:∀open_,Open (leases w) open_ → open_.workspaceId≠req.workspaceId := by
    intro open_ hopen hws
    exact (h.exclusive.leased open_ hopen row hmem (hid.trans hws.symm)).1 hready
   have hother:∀k req' lease,reqs[k]?=some req' → stage k=.leased lease →
     held lease=true → req'.workspaceId≠req.workspaceId := by
    intro k req' lease hk hl hheld
    rw [← hid]
    intro heq
    have howned:=h.owned k req' lease hk hl
    cases lease with
    | holding j => exact (howned.lease row hmem heq.symm).1 hready
    | ended j => exact (howned.1.lease row hmem heq.symm).1 hready
    | finished => cases hheld
   refine h.update hreq (h.exclusive.begin rfl hfree) ?_ ?_ ?_
   · rintro lease ⟨⟩
     exact owns_begin h.exclusive rfl hfree
   · intro k req' lease _ hk hl
     exact (h.owned k req' lease hk hl).begin rfl (hother k req' lease hk hl)
   · intro k req' lease lease' _ hk _ hl _ hheld
     exact Ne.symm (hother k req' lease' hk hl hheld)
 | @lease _ _ lease lease' hturn =>
   have hown:=h.owned i req lease hreq hstage
   have hkeeps:held lease'=true → held lease=true := by
    intro hheld
    cases hturn <;> first | exact hheld | rfl
   refine h.update hreq (exclusive_of_moves hturn h.exclusive hown) ?_ ?_ ?_
   · rintro _ ⟨⟩
     exact owner_of_moves hturn hown
   · intro k req' theirs hki hk hl
     refine others_of_moves hturn hown (fun hheld htheir=>?_) (h.owned k req' theirs hk hl)
     exact h.apart k i req' req theirs lease hki hk hreq hl hstage htheir hheld
   · rintro k req' _ theirs hki hk ⟨⟩ hl hheld htheir
     exact Ne.symm (h.apart k i req' req theirs lease hki hk hreq hl hstage htheir (hkeeps hheld))

lemma PoolInv.spawn (h:PoolInv stage reqs t) (req:ApplyRequest) :
  PoolInv (Function.update stage reqs.length .fresh) (reqs++[req]) t := by
 have hold:∀i req',(reqs++[req])[i]?=some req' →
   ∀lease,Function.update stage reqs.length .fresh i=.leased lease →
   reqs[i]?=some req' ∧ stage i=.leased lease := by
  intro i req' hi lease hstage
  by_cases hlen : i=reqs.length
  · rw [hlen,update_self] at hstage
    cases hstage
  · rw [update_of_ne hlen] at hstage
    have hlt:=(List.getElem?_eq_some_iff.mp hi).1
    rw [length_append,length_singleton] at hlt
    rw [getElem?_append_left (by omega)] at hi
    exact ⟨hi,hstage⟩
 refine ⟨h.exclusive,?_,?_⟩
 · intro i req' lease hi hstage
   obtain ⟨hi,hstage⟩:=hold i req' hi lease hstage
   exact h.owned i req' lease hi hstage
 · intro i k req₁ req₂ lease₁ lease₂ hik hi hk hstage₁ hstage₂
   obtain ⟨hi,hstage₁⟩:=hold i req₁ hi lease₁ hstage₁
   obtain ⟨hk,hstage₂⟩:=hold k req₂ hk lease₂ hstage₂
   exact h.apart i k req₁ req₂ lease₁ lease₂ hik hi hk hstage₁ hstage₂

end

section

variable {env:Env} {t:Leases}

def RecoveryInv (workspaceId:String) (journalId:ℕ) (pending:List JournalRow)
    (lease:Lease) (t:Leases) : Prop :=
 Exclusive t ∧ LeaseInv t workspaceId lease ∧
  (∀j,lease=.holding j ∨ lease=.ended j → j=journalId) ∧
  ∀row∈pending,Open t row ∧ row.journalId≠journalId

lemma recoveryInv_moves {workspaceId:String} {journalId:ℕ} {pending:List JournalRow}
  {lease lease':Lease} {w w':World}
  (h:RecoveryInv workspaceId journalId pending lease (leases w))
  (hmove:LeaseMoves workspaceId lease w w' lease') :
  RecoveryInv workspaceId journalId pending lease' (leases w') := by
 obtain ⟨hex,hinv,hid,hpending⟩:=h
 refine ⟨exclusive_of_moves hmove hex hinv,owner_of_moves hmove hinv,?_,?_⟩
 · intro j hj
   cases hmove with
   | quiet | advance => exact hid j hj
   | finish _ => exact hid j (hj.symm.imp (fun h=>by cases h; rfl) (fun h=>by cases h))
   | release | block => rcases hj with hj | hj <;> cases hj
 · intro row hrow
   obtain ⟨hopen,hne⟩:=hpending row hrow
   refine ⟨?_,hne⟩
   cases hmove with
   | quiet htables => rwa [leases_of_tables htables]
   | advance | finish =>
     have hj:=hid _ (.inl rfl)
     exact ⟨mem_map.mpr ⟨row,hopen.1,if_neg (hj ▸ hne)⟩,hopen.2⟩
   | release | block => exact hopen

lemma alone_reconcileJournals (pending:List JournalRow) (hex:Exclusive t)
  (hopen:∀row∈pending,Open t row) (hids:(pending.map (·.journalId)).Nodup) :
  Alone leases Exclusive (fun _ t=>Exclusive t) (reconcileJournals env pending) t := by
 induction pending generalizing t with
 | nil => exact hex
 | cons journal pending ih =>
   rw [map_cons,nodup_cons] at hids
   have hjournal:=hopen journal mem_cons_self
   have hstart:RecoveryInv journal.workspaceId journal.journalId pending
     (.holding journal.journalId) t := by
    refine ⟨hex,hex.owns hjournal,fun j hj=>?_, fun row hrow=>?_⟩
    · rcases hj with hj | hj <;> cases hj
      rfl
    · refine ⟨hopen row (mem_cons_of_mem _ hrow),fun heq=>hids.1 ?_⟩
      exact mem_map.mpr ⟨row,hrow,heq⟩
   have hsettles:Settles journal.workspaceId journal.journalId (reconcileJournal env journal) :=
    settles_reconcileJournal hjournal.2
   have hone:=Follows.alone (fun _ _ _ _ h hmove=>recoveryInv_moves h hmove) hsettles hstart
   refine .bind (hone.mono (fun _ ⟨_,h⟩=>h.1) fun _ _ h=>h) ?_ ?_
   · rintro _ t' ⟨lease,-,hex',-,-,hpending⟩
     exact ih hex' (fun row hrow=>(hpending row hrow).1) hids.2
   · rintro e t' ⟨lease,-,hex',-⟩
     exact hex'

lemma alone_releaseLeases (pending:List (String×JournalState)) (hex:Exclusive t)
  (hfree:∀item∈pending,∀row,Open t row → row.workspaceId≠item.1) :
  Alone leases Exclusive (fun _ t=>Exclusive t) (releaseLeases pending) t := by
 induction pending generalizing t with
 | nil => exact hex
 | cons item pending ih =>
   obtain ⟨workspaceId,state⟩:=item
   have hdrop:∀lease,Alone leases Exclusive
     (fun _ t'=>t'=t.mapWorkspaces (regrant workspaceId lease none))
     (dropLease workspaceId lease) t := fun lease=>
    .write (fun w hw=>by rw [← hw]; rfl) (hex.release (hfree _ mem_cons_self) lease) rfl
   refine .bind (hdrop _) ?_ ?_
   · rintro _ t' rfl
     refine ih (hex.release (hfree _ mem_cons_self) _) fun item hitem row hopen=>?_
     exact hfree item (mem_cons_of_mem _ hitem) row hopen
   · rintro e t' rfl
     exact hex.release (hfree _ mem_cons_self) _

lemma alone_releaseReceiptedLeases (hex:Exclusive t) :
  Alone leases Exclusive (fun _ t=>Exclusive t) releaseReceiptedLeases t := by
 have hlist:Alone leases Exclusive (fun r t'=>t'=t ∧ ∀items,r=.ok items → ∀item∈items,
    ∀row,Open t row → row.workspaceId≠item.1) listReceiptedHeldLeases t := by
  rintro w rfl
  refine ⟨hex,rfl,?_⟩
  rintro items ⟨⟩ item hitem
  obtain ⟨ws,hws,hitem⟩:=mem_flatMap.mp hitem
  obtain ⟨row,hrow,rfl⟩:=mem_map.mp hitem
  obtain ⟨hrow,hheld⟩:=mem_filter.mp hrow
  obtain ⟨hact,-,hended⟩:=of_decide_eq_true hheld
  intro other hopen heq
  have hsame:=(hex.leased other hopen ws hws heq.symm).2
  rw [hact,Option.some.injEq] at hsame
  obtain rfl:=hex.row_eq hrow hopen.1 hsame
  rw [hopen.2] at hended
  cases hended
 refine .bind hlist ?_ ?_
 · rintro items t' ⟨rfl,hfree⟩
   exact alone_releaseLeases items hex (hfree items rfl)
 · rintro e t' ⟨rfl,-⟩
   exact hex

lemma alone_reconcileAll (hex:Exclusive t) :
  Alone leases Exclusive (fun _ t=>Exclusive t) (reconcileAll env) t := by
 have hlist:Alone leases Exclusive
   (fun r t'=>t'=t ∧ ∀rows,r=.ok rows → (∀row∈rows,Open t row) ∧
    (rows.map (·.journalId)).Nodup) listNonterminal t := by
  rintro w rfl
  refine ⟨hex,rfl,?_⟩
  rintro rows ⟨⟩
  refine ⟨fun row hrow=>?_, ?_⟩
  · obtain ⟨hmem,hopen⟩:=mem_filter.mp hrow
    exact ⟨hmem,by simpa using hopen⟩
  · exact hex.ids.sublist (filter_sublist.map _)
 refine .bind hlist ?_ ?_
 · rintro rows t' ⟨rfl,hrows⟩
   obtain ⟨hopen,hids⟩:=hrows rows rfl
   refine .bind (alone_reconcileJournals rows hex hopen hids) ?_ ?_
   · exact fun _ t' hex'=>alone_releaseReceiptedLeases hex'
   · exact fun _ _ hex'=>hex'
 · rintro e t' ⟨rfl,-⟩
   exact hex

def mark (journals:List JournalRow) (row:WorkspaceRow) : WorkspaceRow :=
 if journals.any fun journal=>journal.workspaceId=row.workspaceId && !journal.state.terminal
 then { row with recoveryState:=.reconciling }
 else row

lemma exclusive_mark (h:Exclusive t) : Exclusive (t.mapWorkspaces (mark t.journals)) := by
 refine h.mapWorkspaces (fun ws=>?_) fun row hopen ws hws hsame=>?_
 · unfold mark
   split <;> rfl
 · obtain ⟨hready,hact⟩:=h.leased row hopen ws hws hsame
   unfold mark
   split
   · exact ⟨by simp,hact⟩
   · exact ⟨hready,hact⟩

lemma alone_reconcileOnOpen (hex:Exclusive t) :
  Alone leases Exclusive (fun _ t=>Exclusive t) (reconcileOnOpen env) t := by
 have hmark:Alone leases Exclusive (fun _ t'=>t'=t.mapWorkspaces (mark t.journals))
   (updateStore markReconciling) t :=
  .write (fun w hw=>by rw [← hw]; rfl) (exclusive_mark hex) rfl
 refine .bind hmark ?_ ?_
 · rintro _ t' rfl
   exact alone_reconcileAll (exclusive_mark hex)
 · rintro e t' rfl
   exact exclusive_mark hex

end

section

variable {env:Env} {start r r':Runner}

def ProcessInv (env:Env) (w:World) : Process → Prop
 | .closed => True
 | .opening rest => Alone leases Exclusive (fun _ _=>True) rest (leases w)
 | .serving pool => ∃stage,Standing (Moves env) stage pool ∧
   PoolInv stage (pool.map (·.1)) (leases w)

lemma ProcessInv.frame {w w':World} {process:Process} (h:ProcessInv env w process)
  (heq:leases w'=leases w) : ProcessInv env w' process := by
 cases process with
 | closed => trivial
 | opening | serving =>
   unfold ProcessInv
   rw [heq]
   exact h

lemma moves_processEnv {faults:Faults} {clock:String} {stage stage':Stage} {w w':World}
  (h:Moves (processEnv env faults clock) req stage w w' stage') :
  Moves env req stage w w' stage' := by
 cases h with
 | quiet htables => exact .quiet htables
 | payNonce hclaims hsession => exact .payNonce hclaims hsession
 | payGrant hclaims hgrant => exact .payGrant hclaims hgrant
 | begin hclaims hrow hready => exact .begin hclaims hrow hready
 | lease hmove => exact .lease hmove

lemma follows_call (faults:Faults) (clock:String) (req:ApplyRequest) :
  Follows (Moves env req) (fun _ _=>True)
   (applyPromotion (processEnv env faults clock) req) .fresh :=
 .weaken follows_applyPromotion fun _ _ _ _=>moves_processEnv

lemma map_set_request {pool:Pool} {i:ℕ} {p p':Promotion ApplyOutcome}
  (h:pool[i]?=some (req,p)) : (pool.set i (req,p')).map (·.1)=pool.map (·.1) := by
 have hreq:(pool.map (·.1))[i]?=some req := by rw [getElem?_map,h]; rfl
 obtain ⟨hlt,heq⟩:=List.getElem?_eq_some_iff.mp hreq
 rw [map_set,← heq,set_getElem_self]

lemma step_invariant (h:Step env r r')
  (hinv:Exclusive (leases r.world) ∧ ProcessInv env r.world r.process) :
  Exclusive (leases r'.world) ∧ ProcessInv env r'.world r'.process := by
 obtain ⟨hex,hprocess⟩:=hinv
 cases h with
 | openStore faults clock =>
   exact ⟨hex,(alone_reconcileOnOpen hex).mono (fun _ h=>h) fun _ _ _=>trivial⟩
 | recover faults clock _ =>
   exact ⟨hex,(alone_reconcileAll hex).mono (fun _ h=>h) fun _ _ _=>trivial⟩
 | @reconcile w _ act next => exact hprocess w rfl
 | opened => exact ⟨hex,fun _=>.fresh,standing_nil,hex,(fun _ _ _ hi=>by cases hi),
   fun _ _ _ _ _ _ _ hi=>by cases hi⟩
 | @call w begun pool faults clock req =>
   obtain ⟨stage,hstand,hpool⟩:=hprocess
   refine ⟨hex,_,hstand.spawn (follows_call faults clock req),?_⟩
   have hlen:pool.length=(pool.map (·.1)).length:=(length_map _).symm
   rw [map_append,hlen]
   exact hpool.spawn req
 | @apply w begun pool i req act next hi =>
   obtain ⟨stage,hstand,hpool⟩:=hprocess
   obtain ⟨stage',hmove,hstand'⟩:=hstand.step hi w
   have hreq:(pool.map (·.1))[i]?=some req := by rw [getElem?_map,hi]; rfl
   have hpool':=hpool.step hreq hmove
   refine ⟨hpool'.exclusive,_,hstand',?_⟩
   rw [map_set_request hi]
   exact hpool'
 | crash => exact ⟨hex,trivial⟩
 | external | session => exact ⟨hex,hprocess.frame rfl⟩

lemma Initial.invariant (h:Initial r) :
  Exclusive (leases r.world) ∧ ProcessInv env r.world r.process := by
 obtain ⟨hjournals,-,hprocess⟩:=h
 have hnone:∀row,row ∉ (leases r.world).journals := by
  intro row hrow
  rw [leases,hjournals] at hrow
  cases hrow
 refine ⟨⟨?_,?_,?_,?_⟩,?_⟩
 · rw [leases,hjournals]
   exact nodup_nil
 · exact fun row hrow=>absurd hrow (hnone row)
 · exact fun row _ hopen=>absurd hopen.1 (hnone row)
 · exact fun row hopen=>absurd hopen.1 (hnone row)
 · rw [hprocess]
   trivial

lemma Reachable.exclusive (h:Reachable env start r) (hstart:Initial start) :
  Exclusive (leases r.world) := by
 have hinv:Exclusive (leases r.world) ∧ ProcessInv env r.world r.process := by
  induction h with
  | refl => exact hstart.invariant
  | tail _ hstep ih => exact step_invariant hstep ih
 exact hinv.1

/-- However calls, crashes and recoveries interleave, a workspace has one open journal at most, and
none while its lease is ready. -/
theorem one_promotion_at_a_time (env:Env) (start r:Runner) (hstart:Initial start)
  (hr:Reachable env start r) :
  (∀row∈r.world.store.journals,∀row'∈r.world.store.journals,
   row.workspaceId=row'.workspaceId → row.state.terminal=false →
   row'.state.terminal=false → row=row') ∧
  ∀ws∈r.world.store.workspaces,ws.recoveryState=.ready →
    ∀row∈r.world.store.journals,row.workspaceId=ws.workspaceId →
      row.state.terminal=true := by
 have hex:=hr.exclusive hstart
 constructor
 · intro row hrow row' hrow' hws hopen hopen'
   exact hex.row_eq hrow hrow' (hex.single row row' ⟨hrow,hopen⟩ ⟨hrow',hopen'⟩ hws)
 · intro ws hws hready row hrow hsame
   by_contra hopen
   have hlease:=hex.leased row ⟨hrow,by simpa using hopen⟩ ws hws hsame.symm
   exact hlease.1 hready

end

section

variable (env:Env)

lemma reachable_opening (p:Promotion Unit) (w:World) (begun:List (ℕ×ApplyRequest)) :
  Reachable env ⟨w,begun,.opening p⟩ ⟨(p.run w).2,begun,.opening (.done (p.run w).1)⟩ := by
 induction p generalizing w with
 | done r => exact .refl
 | step act next ih => exact .head .reconcile (ih w (act w))

lemma reachable_serving (n:ℕ) (req:ApplyRequest) (p:Promotion ApplyOutcome) (w:World)
  (begun:List (ℕ×ApplyRequest)) : ∃begun',Reachable env ⟨w,begun,.serving [(req,p)]⟩
   ⟨(p.advance n w).2,begun',.serving [(req,(p.advance n w).1)]⟩ := by
 induction n generalizing p w begun with
 | zero => exact ⟨begun,.refl⟩
 | succ n ih =>
   cases p with
   | done r => exact ⟨begun,.refl⟩
   | step act next =>
     obtain ⟨begun',hrest⟩:=ih (next w) (act w) (record begun req w (act w))
     have hstep:Step env ⟨w,begun,.serving [(req,.step act next)]⟩
       ⟨act w,record begun req w (act w),.serving [(req,next w)]⟩ := .apply (i := 0) rfl
     exact ⟨begun',.head hstep hrest⟩

lemma reachable_call (n:ℕ) (faults:Faults) (clock:String) (req:ApplyRequest) (w:World) :
  ∃begun,Reachable env ⟨w,[],.closed⟩
   ⟨((applyPromotion (processEnv env faults clock) req).advance n
     ((reconcileOnOpen (processEnv env faults clock)).run w).2).2,begun,.serving
     [(req,((applyPromotion (processEnv env faults clock) req).advance n
      ((reconcileOnOpen (processEnv env faults clock)).run w).2).1)]⟩ := by
 obtain ⟨begun,hcall⟩:=reachable_serving env n req _ _ []
 exact ⟨begun,.head (.openStore faults clock) ((reachable_opening env _ w []).trans
  (.head .opened (.head (.call faults clock req) hcall)))⟩

open PromotionHistory

def sampleCall (n:ℕ) : Promotion ApplyOutcome×World :=
 (applyPromotion (sampleEnv sampleEntries) (sampleRequest sampleEntries)).advance n
  ((reconcileOnOpen (sampleEnv sampleEntries)).run (sampleStart [("b",[98])])).2

lemma reachable_sampleCall (n:ℕ) :
  ∃begun,Reachable (sampleEnv sampleEntries) ⟨sampleStart [("b",[98])],[],.closed⟩
   ⟨(sampleCall n).2,begun,.serving [(sampleRequest sampleEntries,(sampleCall n).1)]⟩ :=
 reachable_call (sampleEnv sampleEntries) n noFaults "2026-01-01" (sampleRequest sampleEntries) _

theorem one_promotion_at_a_time_sample :
  ∃r,Reachable (sampleEnv sampleEntries) ⟨sampleStart [("b",[98])],[],.closed⟩ r ∧
    (∃row∈r.world.store.journals,row.state=.committing) ∧
    (∀row∈r.world.store.journals,∀row'∈r.world.store.journals,
     row.workspaceId=row'.workspaceId → row.state.terminal=false →
     row'.state.terminal=false → row=row') ∧
    ∀ws∈r.world.store.workspaces,ws.recoveryState≠.ready := by
 obtain ⟨⟨row,hrow,hcommitting⟩,hworkspaces⟩ :
   (∃row∈(sampleCall 40).2.store.journals,row.state=.committing ∧ row.workspaceId = "ws") ∧
    ∀ws∈(sampleCall 40).2.store.workspaces,ws.workspaceId = "ws" := by
  decide +kernel
 obtain ⟨begun,hreach⟩:=reachable_sampleCall 40
 obtain ⟨hsingle,hready⟩:=one_promotion_at_a_time _ _ _ ⟨rfl,rfl,rfl⟩ hreach
 refine ⟨_,hreach,⟨row,hrow,hcommitting.1⟩,hsingle,fun ws hws hlease=>?_⟩
 have hended:=hready ws hws hlease row hrow
  (hcommitting.2.trans (hworkspaces ws hws).symm)
 rw [hcommitting.1] at hended
 cases hended

/-- Nothing keeps `reconcile_all` from running between two steps of a call. -/
inductive FreeStep (env:Env) : Runner → Runner → Prop where
 | step {r r':Runner} (h:Step env r r') : FreeStep env r r'
 | reconcileAll {w:World} {begun:List (ℕ×ApplyRequest)} {pool:Pool} (faults:Faults)
   (clock:String) : FreeStep env ⟨w,begun,.serving pool⟩
    ⟨((reconcileAll (processEnv env faults clock)).run w).2,begun,.serving pool⟩

/-- A call is preparing its entries when its journal is recovered and its lease released; it goes on
and marks the journal as prepared. -/
theorem recovery_under_a_call :
  ∃r,Relation.ReflTransGen (FreeStep (sampleEnv sampleEntries))
    ⟨sampleStart [("b",[98])],[],.closed⟩ r ∧
   ∃ws∈r.world.store.workspaces,ws.recoveryState=.ready ∧
    ∃row∈r.world.store.journals,row.workspaceId=ws.workspaceId ∧ row.state.terminal=false := by
 obtain ⟨begun,hcall⟩:=reachable_sampleCall 10
 obtain ⟨begun',hrest⟩:=reachable_serving (sampleEnv sampleEntries) 30 (sampleRequest sampleEntries)
  (sampleCall 10).1 ((reconcileAll (sampleEnv sampleEntries)).run (sampleCall 10).2).2 begun
 have hfree:∀{r r'},Reachable (sampleEnv sampleEntries) r r' →
   Relation.ReflTransGen (FreeStep (sampleEnv sampleEntries)) r r' :=
  fun h=>Relation.ReflTransGen.mono (fun _ _=>FreeStep.step) _ _ h
 refine ⟨_,((hfree hcall).tail (.reconcileAll noFaults "2026-01-01")).trans (hfree hrest),?_⟩
 dsimp only
 decide +kernel

end

end EpistemicCompiler.PromotionRunner
