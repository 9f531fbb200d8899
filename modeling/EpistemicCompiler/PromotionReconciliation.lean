import EpistemicCompiler.PromotionForward
import EpistemicCompiler.PromotionReceipts

set_option autoImplicit false

/-!
# Reconciliation settles every interrupted promotion

Started in any state that an interrupted promotion can leave behind, `reconcile_all` keeps the
invariant at every step, so it can be interrupted itself, and ends the journal unless a file
operation fails.
-/
namespace EpistemicCompiler.PromotionReconciliation
open StepPrograms PromotionWorld PromotionFiles PromotionJournal PromotionGrant PromotionApply
 PromotionRecovery PromotionReads PromotionRules PromotionPlan PromotionRollback PromotionForward
 PromotionReceipts List

variable {lease:RecoveryState×Option ℕ}

variable {env:Env} {req:ApplyRequest} {start:World} {v:Tree} {s:Store}
 {st:ℕ → EntryState} {state:JournalState} {journal:JournalRow} {given:Premises}

def ExpectsAfter (env:Env) (req:ApplyRequest) : Prop :=
 ∀tree : Path → Option Node,
   env.snapshotRootDigest tree req.workspaceId=req.expectedResultRootDigest →
    ∀e∈req.entries,bytesOf ((tree e.relativePath).map shape)=after e

structure Conditions (env:Env) (req:ApplyRequest) (start:World) (given:Premises) :
  Prop where
 failing : ∀site,Faulty env site → given.failed
 injective : Function.Injective env.contentDigest
 probe : ∀n,env.faults .exists n=false
 clear : Clear req start
 quiet : Quiet req start
 expects : given.expects → ExpectsAfter env req

structure Ours (req:ApplyRequest) (start:World) (journal:JournalRow) : Prop where
 journalId : journal.journalId=start.store.nextJournal
 workspaceId : journal.workspaceId=req.workspaceId
 expected : journal.expectedResultRootDigest=req.expectedResultRootDigest

def Settled (env:Env) (req:ApplyRequest) (start:World) (given:Premises) :
    Except PromotionError Unit → Tree → Store → Prop
 | .ok (), v, s => ∃state lease,Begun env.contentDigest req start given state lease v s ∧
   state.terminal=true
 | .error _, _, _ => given.failed

/-- Interrupted at any step the invariant holds, and at its end the program has settled the journal.
-/
abbrev Settles (env:Env) (req:ApplyRequest) (start:World) (given:Premises)
    (program:Promotion Unit) (v:Tree) (s:Store) : Prop :=
 Meets (Consistent env.contentDigest req start given) (Settled env req start given) program v s

section

variable {root:RootDir}

lemma meets_persistTerminal {Q:Post Unit} {state':JournalState} {lease:RecoveryState}
  {outcome:List AffectedPath → ReceiptOutcome} (hours:Ours req start journal)
  (hquiet:Quiet req start) (hsound:Sound env req start given v s)
  (hledger:Ledger req start s state (held start))
  (hends:Ends env.contentDigest req start given state' lease v)
  (hok:∀s',Opened env req start given state' (lease,none) v s' → Q (.ok ()) v s')
  (hfault:Faulty env .receipt → Q (.error .io) v s) :
  Meets (Sound env req start given) Q
   (persistTerminal env journal root state' lease outcome) v s := by
 unfold persistTerminal
 rw [hours.journalId,hours.workspaceId]
 refine .bind (meets_observing (reading_affectedPathsFor _ _) hsound fun affected=>?_)
 refine .bind (meets_observing (reading_approvalIdFor _) hsound fun approvalId=>?_)
 refine .bind (meets_persistReceipt hquiet hsound hledger hends (fun s' hs'=>?_) hfault)
 exact meets_dropLease hs'.1 hends hok

variable (h:Conditions env req start given) (hours:Ours req start journal)
include h hours

variable (hsound:Sound env req start given v s) (hledger:Ledger req start s state (held start))
include hsound hledger

lemma meets_terminalStale {observed:Digest} (hbefore:AllBefore req start v)
  (hresidue:Residue req start v) :
  Settles env req start given (terminalStale env journal root observed) v s :=
 meets_persistTerminal hours h.quiet hsound hledger (ends_unchanged hbefore hresidue (.inr rfl))
  (fun _ hs'=>⟨_,_,hs',rfl⟩) (h.failing _)

lemma meets_terminalRolledBack (hbefore:AllBefore req start v) (hresidue:Residue req start v) :
  Settles env req start given (terminalRolledBack env journal root) v s := by
 refine .bind (meets_observing (reading_observedRoot _ _ _) hsound fun snapshot=>?_)
 exact meets_persistTerminal hours h.quiet hsound hledger
  (ends_unchanged hbefore hresidue (.inl rfl)) (fun _ hs'=>⟨_,_,hs',rfl⟩) (h.failing _)

lemma meets_terminalManual (hfail:given.failed) :
  Settles env req start given (terminalManual env journal root) v s := by
 refine .bind (meets_observing (reading_observedRoot _ _ _) hsound fun snapshot=>?_)
 refine .bind (meets_observing (reading_affectedPathsFor _ _) hsound fun evidence=>?_)
 refine .bind (meets_persistTerminal hours h.quiet hsound hledger
  ⟨rfl,fun _=>⟨.inl rfl,hfail⟩,fun _=>⟨.inr rfl,hfail⟩⟩ (fun s' hs'=>?_) (h.failing _))
 have hbegun:Opened env req start given .manualRecoveryRequired blocked v
   (Store.setRecovery s' req.workspaceId .manualRecoveryRequired) :=
  ⟨hs'.1.setRecovery _,.inr rfl,hfail⟩
 rw [hours.workspaceId]
 exact meets_updateStore ⟨.inr ⟨_,_,hbegun⟩,_,_,hbegun,rfl⟩

end

section

lemma allAfter_of_digest (hexpects:ExpectsAfter env req) {tree:Path → Option Node}
  (htree:∀path,(tree path).map shape=v ⟨req.root,path⟩)
  (hdigest:env.snapshotRootDigest tree req.workspaceId=req.expectedResultRootDigest) :
  AllAfter req v := by
 intro e he
 rw [← hexpects tree hdigest e he,htree]
 rfl

variable (h:Conditions env req start given) (hours:Ours req start journal)
include h hours

section

variable (hstate:state=.verifying ∨ state=.rollingBack)
 (hstaged:Midway env req start state st v s) (hrolled:RolledOk req start v st)
include hstate hstaged hrolled

lemma meets_rollbackThen {rolledBack:Promotion Unit}
  (hnext:∀u s',Sound env req start given u s' →
   Ledger req start s' state (held start) → AllBefore req start u → Residue req start u →
   Meets (Sound env req start given) (Settled env req start given) rolledBack u s') :
  Settles env req start given (rollbackThen env journal req.root rolledBack) v s := by
 unfold rollbackThen
 rw [hours.journalId]
 refine .bind (.attempt (meets_rollbackApplied h.injective h.probe h.clear hstaged
  hrolled (fun u s' st' hs' hr=>hs'.consistent_rolling hstate hr)
  (fun u s' st' hs' hbefore=>?_)
  fun hfault u s' st' _ _=>?_))
 · exact hnext u s' (hs'.consistent_rolling hstate hbefore.rolledOk) hs'.ledger hbefore
    hs'.core.tree.residue
 · exact .throw (h.failing _ hfault)

lemma meets_rollbackMismatchedSnapshot {observed:Digest} :
  Settles env req start given (rollbackMismatchedSnapshot env journal req.root observed) v s :=
 meets_rollbackThen h hours hstate hstaged hrolled fun _ _ hsound hledger hbefore hresidue=>
  meets_terminalStale h hours hsound hledger hbefore hresidue

end

lemma meets_recoverRollback (hstaged:Midway env req start state st v s)
  (hrolled:RolledOk req start v st) :
  Settles env req start given (recoverRollback env journal req.root) v s := by
 have hstaged':=hstaged.setJournal h.quiet .rollingBack rfl
 unfold recoverRollback
 rw [hours.journalId]
 refine .bind (meets_updateStore ⟨hstaged'.consistent_rolling (.inr rfl) hrolled,?_⟩)
 exact meets_rollbackThen h hours (.inr rfl) hstaged' hrolled
  fun _ _ hsound hledger hbefore hresidue=>
   meets_terminalRolledBack h hours hsound hledger hbefore hresidue

lemma meets_terminalCommitted (hstaged:Midway env req start .verifying st v s)
  (hrolled:RolledOk req start v st) :
  Settles env req start given (terminalCommitted env journal req.root) v s := by
 have hsound:Sound env req start given v s :=
  hstaged.consistent_rolling (.inl rfl) hrolled
 refine .bind (meets_snapshot hsound hstaged.core.tree.root (h.failing _) fun tree htree=>?_)
 rw [hours.workspaceId]
 simp only [Next,hours.expected]
 split
 case isTrue => exact meets_rollbackMismatchedSnapshot h hours (.inl rfl) hstaged hrolled
 case isFalse hdigest =>
  exact meets_persistTerminal hours h.quiet hsound hstaged.ledger (ends_committed fun hgiven=>
    allAfter_of_digest (h.expects hgiven) htree (not_not.mp hdigest))
   (fun _ hs'=>⟨_,_,hs',rfl⟩) (h.failing _)

lemma meets_recoverVerifying (hstaged:Midway env req start .verifying st v s)
  (hrolled:RolledOk req start v st) :
  Settles env req start given (recoverVerifying env journal req.root) v s := by
 have hsound:Sound env req start given v s :=
  hstaged.consistent_rolling (.inl rfl) hrolled
 unfold recoverVerifying
 rw [hours.journalId]
 refine .bind (meets_loadEntries hstaged.core hsound ?_)
 refine .bind (meets_observing (reading_allAfter _ _) hsound fun reached=>?_)
 cases reached with
 | false =>
   exact meets_rollbackThen h hours (.inl rfl) hstaged hrolled
    fun _ _ hsound hledger hbefore hresidue=>
     meets_terminalRolledBack h hours hsound hledger hbefore hresidue
 | true =>
   refine .bind (meets_snapshot hsound hstaged.core.tree.root (h.failing _) fun tree _=>?_)
   simp only [Next]
   split
   · exact meets_terminalCommitted h hours hstaged hrolled
   · exact meets_rollbackMismatchedSnapshot h hours (.inl rfl) hstaged hrolled

variable (hstate:state=.prepared ∨ state=.committing)
 (hstaged:Midway env req start state st v s) (hst:Forwards st)
include hstate hstaged hst

lemma meets_rollForward {Q:Post Unit}
  (hok:∀u s' st',Midway env req start .verifying st' u s' → Forwards st' → Q (.ok ()) u s')
  (herror:∀u s' st' state' e',(state'=.prepared ∨ state'=.committing) →
   Midway env req start state' st' u s' → Forwards st' →
   ForwardError env e' → Q (.error e') u s') :
  Meets (Sound env req start given) Q
   (rollForward env journal req.workspaceRoot
    (planRows env.contentDigest req start st req.entries.zipIdx)) v s := by
 have hkept:∀u : Tree,(∀loc : Location,loc.root=req.root → u loc=v loc) →
   Midway env req start state st u s :=
  fun u hu=>⟨hstaged.ledger,hstaged.core.withTree (hstaged.core.tree.congr hu)⟩
 unfold rollForward
 rw [hours.journalId,h.quiet.stage]
 refine .bind (meets_createDirAll (fun u=>∀loc : Location,loc.root=req.root → u loc=v loc)
  (fun u q hu _ _ _ loc hloc=>?_)
  (fun u hu=>(hkept u hu).consistent_forward hstate hst) (fun _ _=>rfl) (fun u hu _=>?_)
  fun u e' hu he'=>herror u s st state e' hstate (hkept u hu) hst (.inl he'))
 · rw [Tree.set_other,hu loc hloc]
   rintro rfl
   exact stage_apart hloc
 · have hstaged':=(hkept u hu).setJournal h.quiet .committing rfl
   refine .bind (meets_updateStore ⟨hstaged'.consistent_forward (.inr rfl) hst,?_⟩)
   refine .bind (meets_forwardEntries h.probe h.clear hstaged' hst
    (fun _ _ _ hs' hst'=>hs'.consistent_forward (.inr rfl) hst') (fun u' s' st' hs' hst'=>?_)
    (fun u' s' st' e' hs' hst' he'=>herror u' s' st' _ e' (.inr rfl) hs' hst' he') fun _ hy=>hy)
   have hverifying:=hs'.setJournal h.quiet .verifying rfl
   exact meets_updateStore ⟨hverifying.consistent_rolling (.inl rfl) (.of_forward hst'),
    hok _ _ _ hverifying hst'⟩

lemma meets_recoverCommitting :
  Settles env req start given (recoverCommitting env journal req.workspaceRoot) v s := by
 have hsound:Sound env req start given v s :=
  hstaged.consistent_forward hstate hst
 unfold recoverCommitting
 rw [hours.journalId]
 refine .bind (meets_loadEntries hstaged.core hsound ?_)
 refine .bind (meets_anyForeign h.probe hstaged.core (fun _ hy=>hy) hsound fun found hfound=>?_)
 cases found with
 | true => exact meets_terminalManual h hours hsound hstaged.ledger (h.failing _ (hfound rfl))
 | false =>
   refine .bind (.attempt (meets_rollForward h hours hstate hstaged hst
    (fun u s' st' hs' hst'=>?_) fun u s' st' state' e' hstate' hs' hst' he'=>?_))
   · exact meets_recoverVerifying h hours hs' (.of_forward hst')
   · simp only [Next]
     split
     case isTrue hconflict =>
      refine meets_terminalManual h hours (hs'.consistent_forward hstate' hst') hs'.ledger ?_
      rcases he' with (rfl | rfl) | ⟨-,hfault⟩
      · exact absurd hconflict (by decide)
      · exact absurd hconflict (by decide)
      · exact h.failing _ hfault
     case isFalse => exact meets_recoverRollback h hours hs' (.of_forward hst')

end

section

lemma active_journals (hquiet:Quiet req start) (h:Ledger req start s state lease) :
  ∃journal,Ours req start journal ∧ journal.state=state ∧
    s.journals.filter (! ·.state.terminal)=if state.terminal then [] else [journal] := by
 obtain ⟨approval,receipt,hjournals,-⟩:=h.journals
 refine ⟨(journalPlan req approval).row start.store.nextJournal state receipt, ⟨rfl,rfl,rfl⟩,rfl,?_⟩
 rw [hjournals,filter_append,hquiet.no_active,nil_append]
 cases hterm : state.terminal <;> simp [JournalPlan.row,hterm]

variable (h:Conditions env req start given) (hours:Ours req start journal)
include h hours

variable (hstate:journal.state=state) (hactive:state.terminal=false)
 (hbegun:Opened env req start given state lease v s)
include hstate hactive hbegun

lemma meets_reconcileAt :
  Settles env req start given (reconcileAt env journal req.workspaceRoot) v s := by
 obtain ⟨hledger,hphase⟩:=hbegun
 unfold reconcileAt
 rw [hstate]
 cases state with
 | preparing =>
   obtain ⟨rfl,hunmoved⟩:=hphase
   exact meets_terminalStale h hours (.inr ⟨_,_,hledger,rfl,hunmoved⟩) hledger
    hunmoved.before hunmoved.residue
 | prepared =>
   obtain ⟨rfl,st,hcore,hst⟩:=hphase
   exact meets_recoverCommitting h hours (.inl rfl) ⟨hledger,hcore⟩ hst
 | committing =>
   obtain ⟨rfl,st,hcore,hst⟩:=hphase
   exact meets_recoverCommitting h hours (.inr rfl) ⟨hledger,hcore⟩ hst
 | verifying =>
   obtain ⟨rfl,st,hcore,hrolled⟩:=hphase
   exact meets_recoverVerifying h hours ⟨hledger,hcore⟩ hrolled
 | rollingBack =>
   obtain ⟨rfl,st,hcore,hrolled⟩:=hphase
   exact meets_recoverRollback h hours ⟨hledger,hcore⟩ hrolled
 | committed | rolledBack | stale | manualRecoveryRequired => cases hactive

lemma meets_reconcileJournal :
  Settles env req start given (reconcileJournal env journal) v s := by
 have hsound:Sound env req start given v s:=.inr ⟨_,_,hbegun⟩
 refine .bind (meets_readStore
  (f := fun s=>(Store.lookupWorkspace s journal.workspaceId).map (·.rootPath)) hsound ?_)
 rw [hours.workspaceId,hbegun.1.rootPath h.quiet]
 refine .bind (meets_pathExists h.probe hsound ?_)
 have hroot:v ⟨.workspace req.workspaceRoot,[]⟩=some .directory:=hbegun.root hactive
 rw [hroot]
 exact meets_reconcileAt h hours hstate hactive hbegun

end

def releasedLease (state:JournalState) : RecoveryState×Option ℕ :=
 (if state=.manualRecoveryRequired then .manualRecoveryRequired else .ready,none)

lemma Phase.release {digest:Bytes → Digest} (hterm:state.terminal=true)
  (h:Phase digest req start given state lease v s) (s':Store) :
  Phase digest req start given state (releasedLease state) v s' := by
 cases state with
 | committed | rolledBack | stale | manualRecoveryRequired => exact ⟨.inr rfl,h.2⟩
 | preparing | prepared | committing | verifying | rollingBack => cases hterm

lemma meets_releaseLeases {leases:List (String×JournalState)}
  (hterm:state.terminal=true) (hleases:∀x∈leases,x=(req.workspaceId,state))
  (hbegun:Opened env req start given state lease v s) :
  Meets (Sound env req start given) (fun r v s=>r=.ok () ∧
   ∃lease,Opened env req start given state lease v s)
   (releaseLeases leases) v s := by
 induction leases generalizing s lease with
 | nil => exact .pure ⟨rfl,lease,hbegun⟩
 | cons x leases ih =>
   obtain rfl:=hleases x mem_cons_self
   have hbegun':Opened env req start given state (releasedLease state) v
     (Store.setWorkspace s req.workspaceId (releasedLease state).1 none) :=
    ⟨hbegun.1.setWorkspace _ _,Phase.release hterm hbegun.2 _⟩
   refine .bind (meets_updateStore ⟨.inr ⟨_,_,hbegun'⟩,?_⟩)
   exact ih (fun y hy=>hleases y (mem_cons_of_mem _ hy)) hbegun'

lemma Phase.lease_eq {digest:Bytes → Digest}
  (h:Phase digest req start given state lease v s) :
  lease.2=none ∨ lease.2=some start.store.nextJournal := by
 cases state with
 | preparing | prepared | committing | verifying | rollingBack => exact .inr (by rw [h.1]; rfl)
 | committed | rolledBack | stale | manualRecoveryRequired =>
   rcases h.1 with h | h
   · exact .inr (by rw [h]; rfl)
   · exact .inl (by rw [h]; rfl)

lemma receiptedLease_eq (hquiet:Quiet req start) (h:Ledger req start s state lease)
  (hlease:lease.2=none ∨ lease.2=some start.store.nextJournal) {x:String×JournalState}
  (hx:x∈s.workspaces.flatMap (receiptedLease s)) : x=(req.workspaceId,state) := by
 obtain ⟨approval,receipt,hjournals,-⟩:=h.journals
 obtain ⟨row,hrow,hx⟩:=mem_flatMap.mp hx
 obtain ⟨journal,hjournal,rfl⟩:=mem_map.mp hx
 obtain ⟨hmem,hheld⟩:=mem_filter.mp hjournal
 simp only [decide_eq_true_eq] at hheld
 rw [h.workspaces,leased,mem_map] at hrow
 obtain ⟨old,hold,rfl⟩:=hrow
 by_cases hid : old.workspaceId=req.workspaceId
 · simp only [hid,if_true] at hheld ⊢
   obtain ⟨hactive,-,-⟩:=hheld
   rcases hlease with hnone | hsome
   · simp [hnone] at hactive
   · have hjournalId:start.store.nextJournal=journal.journalId := by
      simpa [hsome] using hactive
     rw [hjournals] at hmem
     rcases mem_append.mp hmem with hmem | hmem
     · exact absurd hjournalId.symm (hquiet.old journal hmem)
     · rw [mem_singleton.mp hmem]
       rfl
 · simp [hid,hquiet.released old hold] at hheld

lemma meets_releaseReceiptedLeases (hquiet:Quiet req start) (hterm:state.terminal=true)
  (hbegun:Opened env req start given state lease v s) :
  Meets (Sound env req start given) (fun r v s=>r=.ok () ∧
   ∃lease,Opened env req start given state lease v s)
   releaseReceiptedLeases v s := by
 refine .bind (meets_readStore (f := fun s=>s.workspaces.flatMap (receiptedLease s))
  (.inr ⟨_,_,hbegun⟩) ?_)
 exact meets_releaseLeases hterm
  (fun x hx=>receiptedLease_eq hquiet hbegun.1 (Phase.lease_eq hbegun.2) hx) hbegun

def Reconciled (env:Env) (req:ApplyRequest) (start:World) (given:Premises) :
    Except PromotionError Unit → Tree → Store → Prop
 | .ok (), v, s => Idle start v s ∨ ∃state lease,
   Begun env.contentDigest req start given state lease v s ∧ state.terminal=true
 | .error _, _, _ => given.failed

lemma meets_reconcileAll_idle (hquiet:Quiet req start) (h:Idle start v s) :
  Meets (Sound env req start given) (Reconciled env req start given)
   (reconcileAll env) v s := by
 have hjournals:s.journals.filter (! ·.state.terminal)=[] := by
  rw [h.journals]
  exact hquiet.no_active
 have hleases:s.workspaces.flatMap (receiptedLease s)=[] := by
  rw [h.workspaces,flatMap_eq_nil_iff]
  intro row hrow
  simp [receiptedLease,hquiet.released row hrow]
 refine .bind (meets_readStore (f := fun s=>s.journals.filter (! ·.state.terminal)) (.inl h) ?_)
 rw [hjournals]
 refine .bind (.pure (.bind (meets_readStore
  (f := fun s=>s.workspaces.flatMap (receiptedLease s)) (.inl h) ?_)))
 rw [hleases]
 exact .pure (.inl h)

lemma meets_reconcileJournals (h:Conditions env req start given)
  (hbegun:Opened env req start given state lease v s) :
  Settles env req start given
   (reconcileJournals env (s.journals.filter (! ·.state.terminal))) v s := by
 obtain ⟨journal,hours,hstate,hactive⟩:=active_journals h.quiet hbegun.1
 rw [hactive]
 cases hterm : state.terminal with
 | true =>
   exact .pure ⟨state,lease,hbegun,hterm⟩
 | false =>
   refine .bind ((meets_reconcileJournal h hours hstate hterm hbegun).post ?_)
   intro r u s' hsettled
   cases r with
   | ok => exact .pure hsettled
   | error e => exact hsettled

lemma meets_reconcileAll (h:Conditions env req start given)
  (hsound:Sound env req start given v s) :
  Meets (Sound env req start given) (Reconciled env req start given)
   (reconcileAll env) v s := by
 rcases hsound with hidle | ⟨state,lease,hbegun⟩
 · exact meets_reconcileAll_idle h.quiet hidle
 · refine .bind (meets_readStore (f := fun s=>s.journals.filter (! ·.state.terminal))
    (.inr ⟨_,_,hbegun⟩) ?_)
   refine .bind ((meets_reconcileJournals h hbegun).post fun r u s' hsettled=>?_)
   cases r with
   | error e => exact hsettled
   | ok =>
     obtain ⟨state',lease',hbegun',hterm⟩:=hsettled
     refine (meets_releaseReceiptedLeases h.quiet hterm hbegun').post ?_
     rintro r u' s'' ⟨rfl,lease'',hbegun''⟩
     exact .inr ⟨state',lease'',hbegun'',hterm⟩

end EpistemicCompiler.PromotionReconciliation
