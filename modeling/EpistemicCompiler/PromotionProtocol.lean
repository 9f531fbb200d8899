import EpistemicCompiler.PromotionTables

set_option autoImplicit false

/-!
# The protocol of a promotion

A promotion spends the nonce and the grant, takes the lease together with a new journal, moves that
journal to a terminal state and hands the lease back. Recovery follows the second half for every
journal it finds open.
-/
namespace EpistemicCompiler.PromotionProtocol
open StepPrograms StepPrograms.StepProgram SharedPrograms PromotionWorld PromotionFiles
 PromotionJournal PromotionGrant PromotionApply PromotionRecovery PromotionReads PromotionTables

variable {α:Type} {workspaceId:String} {journalId:ℕ} {env:Env} {req:ApplyRequest}

variable (root:RootDir) {state:JournalState}

section

inductive Lease where
 | holding (journalId:ℕ)
 | ended (journalId:ℕ)
 | finished

inductive LeaseMoves (workspaceId:String) : Lease → World → World → Lease → Prop where
 | quiet {lease:Lease} {w w':World} (h:tables w'=tables w) :
   LeaseMoves workspaceId lease w w' lease
 | advance {w:World} {journalId:ℕ} {state:JournalState} (h:state.terminal=false) :
   LeaseMoves workspaceId (.holding journalId) w
    { w with store:=Store.setJournal w.store journalId state none } (.holding journalId)
 | finish {w:World} {journalId:ℕ} {state:JournalState} {receipt:Digest}
   (h:state.terminal=true) :
   LeaseMoves workspaceId (.holding journalId) w
    { w with store:=Store.setJournal w.store journalId state (some receipt) }
    (.ended journalId)
 | release {w:World} {journalId:ℕ} {state:RecoveryState} :
   LeaseMoves workspaceId (.ended journalId) w
    { w with store:=Store.setWorkspace w.store workspaceId state none } .finished
 | block {w:World} {state:RecoveryState} (h:state≠.ready) :
   LeaseMoves workspaceId .finished w
    { w with store:=Store.setRecovery w.store workspaceId state } .finished

variable {β:Type}

def Holds (workspaceId:String) (journalId:ℕ) (p:Promotion α) : Prop :=
 Follows (LeaseMoves workspaceId) (fun _ lease=>lease=.holding journalId) p
  (.holding journalId)

/-- The program has ended the journal and handed the lease back when it succeeds. -/
def Settles (workspaceId:String) (journalId:ℕ) (p:Promotion α) : Prop :=
 Follows (LeaseMoves workspaceId) (fun r lease=>r.isOk=true → lease=.finished) p
  (.holding journalId)

variable {p:Promotion α} {f:α → Promotion β}

lemma follows_quiet {lease:Lease} {Q:Except PromotionError α → Lease → Prop}
  (h:Quiet p) (hQ:∀r,Q r lease) : Follows (LeaseMoves workspaceId) Q p lease :=
 h.follows (fun _ _ htables=>.quiet htables) hQ

lemma holds_quiet (h:Quiet p) : Holds workspaceId journalId p :=
 follows_quiet h fun _=>rfl

lemma Holds.bind (h:Holds workspaceId journalId p)
  (hf:∀a,Holds workspaceId journalId (f a)) : Holds workspaceId journalId (p >>= f) := by
 refine Follows.bind (h.post fun r lease hlease=>?_)
 subst hlease
 cases r with
 | ok a => exact hf a
 | error e => rfl

lemma Holds.settles (h:Holds workspaceId journalId p)
  (hf:∀a,Settles workspaceId journalId (f a)) : Settles workspaceId journalId (p >>= f) := by
 refine Follows.bind (h.post fun r lease hlease=>?_)
 subst hlease
 cases r with
 | ok a => exact hf a
 | error e => exact fun hok=>by cases hok

lemma Holds.attempt (h:Holds workspaceId journalId p) :
  Holds workspaceId journalId (p.attempt : Promotion (Except PromotionError α)) :=
 Follows.attempt (h.post fun _ _ hlease=>hlease)

lemma Quiet.settles (h:Quiet p)
  (hf:∀a,Settles workspaceId journalId (f a)) : Settles workspaceId journalId (p >>= f) :=
 (holds_quiet h).settles hf

lemma settles_reading (h:Reading false p)
  (hf:∀a,Settles workspaceId journalId (f a)) : Settles workspaceId journalId (p >>= f) :=
 (holds_quiet (quiet_of_reading h)).settles hf

lemma settles_throw (e:PromotionError) :
  Settles workspaceId journalId (StepProgram.throw e : Promotion α) :=
 fun hok=>by cases hok

lemma settles_ite {c:Prop} [Decidable c] {q:Promotion α}
  (hp:Settles workspaceId journalId p) (hq:Settles workspaceId journalId q) :
  Settles workspaceId journalId (if c then p else q) := by
 split
 · exact hp
 · exact hq

lemma holds_setJournalState (h:state.terminal=false) :
  Holds workspaceId journalId (setJournalState journalId state none) :=
 .write (fun _=>.advance h) rfl

end

lemma settles_persistReceipt {receipt:ApplyReceipt} {f:Unit → Promotion α}
  (hstate:state.terminal=true)
  (hf:Follows (LeaseMoves workspaceId) (fun r lease=>r.isOk=true → lease=.finished) (f ())
   (.ended journalId)) :
  Settles workspaceId journalId (persistReceipt env journalId state receipt >>= f) := by
 have hsign:Quiet (fallible env .receipt fun w=>.ok ((),w)) :=
  quiet_fallible fun w a w' h=>by
   cases h
   rfl
 refine .bind (.bind (follows_quiet hsign fun r=>?_))
 cases r with
 | ok _ => exact .write (fun _=>.finish hstate) hf
 | error e => exact fun hok=>by cases hok

lemma follows_dropLease {Q:Except PromotionError Unit → Lease → Prop} {state:RecoveryState}
  (hQ:Q (.ok ()) .finished) :
  Follows (LeaseMoves workspaceId) Q (dropLease workspaceId state) (.ended journalId) :=
 .write (fun _=>.release) hQ

lemma settles_finish {lease:RecoveryState}
  {outcome:Digest → List AffectedPath → ReceiptOutcome} (hstate:state.terminal=true) :
  Settles req.workspaceId journalId (finish env req journalId state lease outcome) := by
 refine settles_reading (reading_observedRoot _ _ _) fun _=>?_
 refine settles_reading (reading_affectedPathsFor _ _) fun _=>?_
 refine settles_persistReceipt hstate (.bind (follows_dropLease ?_))
 exact fun _=>rfl

lemma settles_concludeCommitted {snapshot:Digest}
  {affected:List AffectedPath} :
  Settles req.workspaceId journalId (concludeCommitted env req journalId snapshot affected) := by
 refine Quiet.settles (quiet_maybeCrash _ _) fun _=>?_
 have hreceipt:Quiet (committedReceipt env req journalId snapshot affected) :=
  .bind (.read _) fun _=>.pure _
 refine Quiet.settles hreceipt fun _=>settles_persistReceipt rfl ?_
 refine Follows.bind (follows_quiet (quiet_maybeCrash _ _) fun r=>?_)
 cases r with
 | error e => exact fun hok=>by cases hok
 | ok _ =>
   refine .bind (follows_dropLease ?_)
   refine .bind (follows_quiet (quiet_removeStage _).attempt fun r=>?_)
   cases r with
   | ok | error => exact fun _=>rfl

lemma holds_commitEntries (stage:Location) (entries:List PreparedEntry) :
  Holds req.workspaceId journalId (commitEntries env req root stage journalId entries) := by
 induction entries with
 | nil => exact holds_quiet (.pure _)
 | cons entry entries ih =>
   refine .bind ?_ fun _=>ih
   unfold commitEntry
   split
   · refine .bind (holds_setJournalState rfl) fun _=>holds_quiet ?_
     exact .bind (quiet_maybeCrash _ _) fun _=>.throw _
   · refine holds_quiet (.bind (quiet_of_reading (reading_reccheckPrecondition _ _)) fun _=>?_)
     exact .bind (quiet_moveEntry _ _ _) fun _=>
      .bind (quiet_maybeCrash _ _) fun _=>
       .bind (quiet_setEntryState _ _ _) fun _=>
        .bind (quiet_rewriteAfter _ _ _) fun _=>quiet_maybeCrash _ _

lemma holds_rollbackJournal :
  Holds req.workspaceId journalId (rollbackJournal env req root journalId) :=
 (holds_setJournalState rfl).bind fun _=>holds_quiet
  (.bind (quiet_maybeCrash _ _) fun _=>quiet_rollbackApplied _ _)

lemma settles_abort {rolledBack:Promotion ApplyOutcome}
  (h:Settles req.workspaceId journalId rolledBack) (e:PromotionError) :
  Settles req.workspaceId journalId (abort env req journalId rolledBack e) := by
 unfold abort
 split
 · exact settles_throw _
 · refine (holds_rollbackJournal _).attempt.settles fun r=>?_
   split
   · exact h
   · exact settles_throw _
   · exact settles_ite (settles_finish rfl) (settles_finish rfl)

lemma settles_verifyPhase :
  Settles req.workspaceId journalId (verifyPhase env req journalId) := by
 refine (holds_setJournalState rfl).settles fun _=>?_
 refine Quiet.settles (quiet_maybeCrash _ _) fun _=>?_
 refine Quiet.settles (quiet_verifyResult _ _ _).attempt fun r=>?_
 split
 · exact settles_concludeCommitted
 · exact settles_abort (settles_finish rfl) _

lemma settles_commitPhase (prepared:List PreparedEntry) :
  Settles req.workspaceId journalId (commitPhase env req journalId prepared) := by
 refine settles_reading (reading_recheckAll _ _).attempt fun r=>?_
 split
 · exact settles_finish rfl
 · refine (holds_setJournalState rfl).settles fun _=>?_
   refine Quiet.settles (quiet_maybeCrash _ _) fun _=>?_
   refine (holds_commitEntries _ _ _).attempt.settles fun r=>?_
   split
   · exact settles_verifyPhase
   · exact settles_abort (settles_finish rfl) _

lemma settles_applyJournaled :
  Settles req.workspaceId journalId (applyJournaled env req journalId) := by
 refine Quiet.settles (quiet_storeApplyContext _ _) fun _=>?_
 refine Quiet.settles (quiet_createDirAll _ _ _) fun _=>?_
 refine settles_reading reading_sameVolume fun _=>?_
 refine Quiet.settles (quiet_prepareEntries _ _ _ _ _).attempt fun r=>?_
 split
 · have hfinish:Settles _ journalId (finishStale env req journalId):=settles_finish rfl
   exact .bind (.attempt (.post hfinish fun r lease _ hok=>by cases hok))
 · refine (holds_setJournalState rfl).settles fun _=>?_
   refine Quiet.settles (quiet_fsyncDirectory _ _) fun _=>?_
   refine Quiet.settles (quiet_maybeCrash _ _) fun _=>?_
   exact Quiet.settles (quiet_mutateHook _) fun _=>settles_commitPhase _

section

variable {journal:JournalRow}

lemma settles_persistTerminal {root:RootDir} {lease:RecoveryState}
  {outcome:List AffectedPath → ReceiptOutcome} (hstate:state.terminal=true) :
  Settles journal.workspaceId journal.journalId
   (persistTerminal env journal root state lease outcome) := by
 have happroval:Quiet (approvalIdFor journal) :=
  .bind (.read _) fun _=>.pure _
 refine settles_reading (reading_affectedPathsFor _ _) fun _=>?_
 refine Quiet.settles happroval fun _=>?_
 exact settles_persistReceipt hstate (follows_dropLease fun _=>rfl)

lemma settles_terminalRolledBack :
  Settles journal.workspaceId journal.journalId (terminalRolledBack env journal root) :=
 settles_reading (reading_observedRoot _ _ _) fun _=>settles_persistTerminal rfl

lemma settles_terminalManual :
  Settles journal.workspaceId journal.journalId (terminalManual env journal root) := by
 refine settles_reading (reading_observedRoot _ _ _) fun _=>?_
 refine settles_reading (reading_affectedPathsFor _ _) fun _=>?_
 refine .bind (.post (settles_persistTerminal rfl) fun r lease hlease=>?_)
 cases r with
 | error e => exact fun hok=>by cases hok
 | ok _ =>
   rw [hlease rfl]
   exact .write (fun _=>.block (by decide)) fun _=>rfl

lemma settles_rollbackThen {root:RootDir} {rolledBack:Promotion Unit}
  (h:Settles journal.workspaceId journal.journalId rolledBack) :
  Settles journal.workspaceId journal.journalId (rollbackThen env journal root rolledBack) := by
 refine Quiet.settles (quiet_rollbackApplied _ _).attempt fun r=>?_
 split
 · exact h
 · exact settles_ite (settles_terminalManual _) (settles_throw _)

lemma settles_recoverRollback :
  Settles journal.workspaceId journal.journalId (recoverRollback env journal root) :=
 (holds_setJournalState rfl).settles fun _=>settles_rollbackThen (settles_terminalRolledBack _)

lemma settles_recoverVerifying :
  Settles journal.workspaceId journal.journalId (recoverVerifying env journal root) := by
 have hmismatch:∀observed,Settles journal.workspaceId journal.journalId
   (rollbackMismatchedSnapshot env journal root observed) := fun _=>
  settles_rollbackThen (settles_persistTerminal rfl)
 refine settles_reading (.read _) fun _=>?_
 refine settles_reading (reading_allAfter _ _) fun _=>settles_ite ?_
  (settles_rollbackThen (settles_terminalRolledBack _))
 refine settles_reading (reading_snapshot _ _) fun _=>settles_ite ?_ (hmismatch _)
 exact settles_reading (reading_snapshot _ _) fun _=>
  settles_ite (hmismatch _) (settles_persistTerminal rfl)

lemma settles_recoverCommitting (rootPath:String) :
  Settles journal.workspaceId journal.journalId (recoverCommitting env journal rootPath) := by
 have hforward:∀entries,Holds journal.workspaceId journal.journalId
   (rollForward env journal rootPath entries) := fun _=>
  (holds_quiet (quiet_createDirAll _ _ _)).bind fun _=>
   (holds_setJournalState rfl).bind fun _=>
    (holds_quiet (quiet_forwardEntries _ _ _ _)).bind fun _=>holds_setJournalState rfl
 refine settles_reading (.read _) fun entries=>?_
 refine Quiet.settles (quiet_anyForeign _ _) fun _=>settles_ite (settles_terminalManual _) ?_
 refine (hforward entries).attempt.settles fun r=>?_
 split
 · exact settles_recoverVerifying _
 · exact settles_ite (settles_terminalManual _) (settles_recoverRollback _)

lemma settles_reconcileJournal (hopen:journal.state.terminal=false) :
  Settles journal.workspaceId journal.journalId (reconcileJournal env journal) := by
 have hstale:∀root observed,Settles journal.workspaceId journal.journalId
   (terminalStale env journal root observed) := fun _ _=>settles_persistTerminal rfl
 refine Quiet.settles (Preserves.read _) fun rootPath=>?_
 split
 · exact hstale _ _
 · refine settles_reading (reading_pathExists _) fun _=>settles_ite ?_ (hstale _ _)
   unfold reconcileAt
   cases hstate : journal.state <;> simp only [hstate,JournalState.terminal] at hopen ⊢
   case preparing => exact hstale _ _
   case prepared => exact settles_recoverCommitting _
   case committing => exact settles_recoverCommitting _
   case verifying => exact settles_recoverVerifying _
   case rollingBack => exact settles_recoverRollback _
   all_goals cases hopen

end

inductive Stage where
 | fresh
 | noncePaid
 | paid
 | leased (lease:Lease)

inductive Moves (env:Env) (req:ApplyRequest) : Stage → World → World → Stage → Prop where
 | quiet {stage:Stage} {w w':World} (h:tables w'=tables w) : Moves env req stage w w' stage
 | payNonce {w:World} {claims:GrantClaims} (hclaims:checkGrant env req=.ok claims)
   (h:w.store.sessions (env.nonceHash claims.nonce)=some .created ∨
    w.store.sessions (env.nonceHash claims.nonce)=some .displayed) :
   Moves env req .fresh w
    { w with
      store:=Store.decideSession w.store (env.nonceHash claims.nonce) claims.decisionDigest }
    .noncePaid
 | payGrant {w:World} {claims:GrantClaims} (hclaims:checkGrant env req=.ok claims)
   (h:claims.grantDigest ∉ w.store.consumedGrants) :
   Moves env req .noncePaid w
    { w with
      store:={ w.store with
       consumedGrants:=w.store.consumedGrants++[claims.grantDigest] } } .paid
 | begin {w:World} {claims:GrantClaims} {row:WorkspaceRow}
   (hclaims:checkGrant env req=.ok claims)
   (hrow:Store.lookupWorkspace w.store req.workspaceId=some row)
   (hready:row.recoveryState=.ready) :
   Moves env req .paid w
    { w with store:=Store.openJournal w.store (journalPlan req claims.grantDigest) }
    (.leased (.holding w.store.nextJournal))
 | lease {w w':World} {lease lease':Lease} (h:LeaseMoves req.workspaceId lease w w' lease') :
   Moves env req (.leased lease) w w' (.leased lease')

lemma follows_consume {stage stage':Stage} {f:PromotionError → PromotionError}
  {p:Promotion Unit}
  (h:Follows (Moves env req) (fun r st=>if r.isOk then st=stage' else True) p stage) :
  Follows (Moves env req) (fun r st=>r.isOk=true → st=stage') (mapError f p) stage := by
 refine .bind (.attempt (.post h fun r st hst=>?_))
 cases r with
 | ok _ => exact fun _=>hst
 | error e => exact fun hok=>by cases hok

lemma follows_verifyGrant :
  Follows (Moves env req)
   (fun r st=>∀digest,r=.ok digest → st=.paid ∧
    ∃claims,checkGrant env req=.ok claims ∧ claims.grantDigest=digest)
   (verifyGrant env req) .fresh := by
 unfold verifyGrant
 split
 · exact fun digest h=>by cases h
 · rename_i claims hclaims
   have hnonce:Follows (Moves env req) (fun r st=>if r.isOk then st=.noncePaid else True)
     (consumeSessionNonce env claims.nonce claims.decisionDigest) .fresh := by
    refine .atomic fun w=>?_
    split
    · exact ⟨.fresh,.quiet rfl,trivial⟩
    · exact ⟨.noncePaid,.payNonce hclaims (.inl ‹_›),rfl⟩
    · exact ⟨.noncePaid,.payNonce hclaims (.inr ‹_›),rfl⟩
    · exact ⟨.fresh,.quiet rfl,trivial⟩
   have hgrant:Follows (Moves env req) (fun r st=>if r.isOk then st=.paid else True)
     (consumeGrant claims.grantDigest) .noncePaid := by
    refine .atomic fun w=>?_
    split
    · exact ⟨.noncePaid,.quiet rfl,trivial⟩
    · exact ⟨.paid,.payGrant hclaims ‹_›,rfl⟩
   refine .bind (.post (follows_consume hnonce) fun r st hst=>?_)
   cases r with
   | error e => exact fun digest h=>by cases h
   | ok _ =>
     rw [hst rfl]
     refine .bind (.post (follows_consume hgrant) fun r st hst=>?_)
     cases r with
     | error e => exact fun digest h=>by cases h
     | ok _ =>
       rw [hst rfl]
       rintro digest ⟨⟩
       exact ⟨rfl,claims,hclaims,rfl⟩

lemma follows_leased {Q:Except PromotionError α → Lease → Prop} {p:Promotion α}
  {lease:Lease} (h:Follows (LeaseMoves req.workspaceId) Q p lease) :
  Follows (Moves env req) (fun _ _=>True) p (.leased lease) := by
 induction p generalizing lease with
 | done r => trivial
 | step act next ih =>
   intro w
   obtain ⟨lease',hmove,hrest⟩:=h w
   exact ⟨.leased lease',.lease hmove,ih w hrest⟩

lemma follows_applyPromotion :
  Follows (Moves env req) (fun _ _=>True) (applyPromotion env req) .fresh := by
 refine .bind (.post follows_verifyGrant fun r st hst=>?_)
 cases r with
 | error e => trivial
 | ok digest =>
   obtain ⟨rfl,claims,hclaims,rfl⟩:=hst digest rfl
   refine .bind ((quiet_of_reading (reading_openRoot _)).follows (fun _ _ h=>.quiet h) fun r=>?_)
   cases r with
   | error e => trivial
   | ok _ =>
     refine .bind (.atomic fun w=>?_)
     split
     · exact ⟨.paid,.quiet rfl,trivial⟩
     · rename_i row hrow
       split
       · exact ⟨.paid,.quiet rfl,trivial⟩
       · rename_i hready
         exact ⟨_,.begin hclaims hrow (not_not.mp hready),follows_leased settles_applyJournaled⟩

end EpistemicCompiler.PromotionProtocol
