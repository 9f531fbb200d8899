import EpistemicCompiler.PromotionStaging

set_option autoImplicit false

/-!
# Committing a promotion

Every state that `apply_promotion` passes through can be reconciled: the commit moves one entry at
a time from its before to its after content, and an application that gives up first rolls back
what it has moved.
-/
namespace EpistemicCompiler.PromotionCommit
open StepPrograms PromotionWorld PromotionFiles PromotionJournal PromotionGrant PromotionApply
 PromotionReads PromotionRules PromotionPlan PromotionRollback PromotionReceipts
 PromotionReconciliation PromotionStaging

variable {env:Env} {req:ApplyRequest} {start:World} {v:Tree} {s:Store}
 {st:ℕ → EntryState} {state:JournalState} {given:Premises}
 {x:PromotionEntry×ℕ} {rest:List (PromotionEntry×ℕ)} {p:PreparedEntry}

variable {P:Guard} {Q:Post Unit}

def Waiting (req:ApplyRequest) (rest:List (PromotionEntry×ℕ)) (v:Tree) : Prop :=
 ∀x∈rest,∀b,after x.1=some b → v (source req x)=some (.file b)

lemma source_ne_dest (hclear:Clear req start) (hx:x∈req.entries.zipIdx)
  {e:PromotionEntry} (he:e∈req.entries) : source req x≠dest req e := by
 unfold source
 split
 case isTrue hkind =>
  exact hclear.createTempApart x.1 (List.fst_mem_of_mem_zipIdx hx) hkind e he
 case isFalse =>
  intro h
  exact stage_apart (congrArg Location.root h)

structure Turn (req:ApplyRequest) (x:PromotionEntry×ℕ) (rest:List (PromotionEntry×ℕ)) :
  Prop where
 entry : x∈req.entries.zipIdx
 later : ∀y∈rest,y∈req.entries.zipIdx
 fresh : x ∉ rest

lemma Turn.waiting (hclear:Clear req start) (hv:TreeOk req start v) (h:Turn req x rest)
  (hwait:Waiting req (x::rest) v) (y z:Option Shape) :
  Waiting req rest ((v.set (source req x) y).set (dest req x.1) z) := by
 have hpath:∀y∈req.entries.zipIdx,y.1.relativePath≠[] :=
  fun y hy=>dest_path_ne_nil hv (List.fst_mem_of_mem_zipIdx hy)
 intro w hw b hb
 have hne:source req w≠source req x := by
  refine source_ne hclear (h.later w hw) h.entry ?_ (hpath w (h.later w hw)) (hpath x h.entry)
  rintro rfl
  exact h.fresh hw
 have hdest:=source_ne_dest hclear (h.later w hw) (List.fst_mem_of_mem_zipIdx h.entry)
 rw [Tree.set_other _ _ hdest,Tree.set_other _ _ hne]
 exact hwait w (List.mem_cons_of_mem _ hw) b hb

lemma meets_moveEntry (hclear:Clear req start) (hcore:Core env.contentDigest req start v s st)
  (hx:Turn req x rest) (hp:PreparedFor req x p) (hwait:Waiting req (x::rest) v)
  (hP:∀u,Working req start x.1 v u → P u s)
  (hok:∀u,Working req start x.1 v u → Waiting req rest u → Q (.ok ()) u s)
  (herror:∀u e,Working req start x.1 v u → Q (.error e) u s) :
  Meets P Q (moveEntry env req.root (stage req) p) v s := by
 have he:=List.fst_mem_of_mem_zipIdx hx.entry
 have hv:=hcore.tree
 have hstart:=Working.refl (e:=x.1) hv
 have hmove:∀replace : Bool,x.1.kind≠.delete →
   Working req start x.1 v (v.set (source req x) none) →
   Meets P Q (moveEx env .commit (source req x) (dest req x.1) replace) v s := by
  intro replace hkind hgone
  obtain ⟨b,hafter⟩:=(hcore.accepted x.1 he).promoted hkind
  have hmoved:Working req start x.1 v (v.move (source req x) (dest req x.1) b) :=
   hgone.set_after hclear he nofun hafter.symm
  refine meets_moveEx (hP v hstart) (fun _=>herror v _ hstart) (fun _=>herror v _ hstart)
   fun c hc _=>?_
  obtain rfl : b=c := by
   simpa [hwait x List.mem_cons_self b hafter] using hc
  exact ⟨hP _ hmoved,hok _ hmoved (hx.waiting hclear hv hwait _ _),fun _=>herror _ _ hmoved⟩
 unfold moveEntry
 rw [hp.kind,hp.sequence,hp.relativePath,hp.createTmp]
 cases hkind : x.1.kind with
 | replace =>
   have hsrc:source req x=stagedFile (stage req) x.2 :=
    if_neg (by simp [hkind])
   have hmoved:=hmove true (by simp [hkind])
    (hstart.set_staging (by rw [hsrc]; exact stage_apart) none)
   rwa [hsrc] at hmoved
 | create =>
   have hsrc:source req x=inParentCreateTemp (dest req x.1):=if_pos hkind
   have hgone:Working req start x.1 v (v.set (source req x) none) := by
    rw [hsrc]
    exact hstart.set_temp (hclear.createTempApart x.1 he hkind) (hv.createTempFile x.1 he hkind)
     nofun (.inl ⟨x.1,he,hkind⟩)
   have hmoved:=hmove false (by simp [hkind]) hgone
   rwa [hsrc] at hmoved
 | delete =>
   have hgone:Working req start x.1 v (v.set (dest req x.1) none) :=
    hstart.set_after hclear he nofun (by simp [bytesOf,after,hkind])
   have hwait':=hx.waiting hclear hv hwait (v (source req x)) none
   rw [Tree.set_self] at hwait'
   exact meets_deletePath (hP v hstart) (fun _=>herror v _ hstart) (hv.parent x.1 he)
    (fun _=>herror v _ hstart)
    fun _ _=>⟨hP _ hgone,hok _ hgone hwait',fun _=>herror _ _ hgone⟩

lemma meets_maybeCrash {checkpoint:Checkpoint}
  (hcrash:Q (.error (.injectedCrash checkpoint)) v s) (hok:Q (.ok ()) v s) :
  Meets P Q (maybeCrash req checkpoint) v s := by
 unfold maybeCrash
 split
 · exact .throw hcrash
 · exact .pure hok

abbrev Anyhow (α:Type) : Except PromotionError α → Tree → Store → Prop := fun _ _ _=>True

lemma meets_finish {state':JournalState} {lease:RecoveryState}
  {outcome:Digest → List AffectedPath → ReceiptOutcome} (hquiet:Quiet req start)
  (hsound:Sound env req start given v s) (hledger:Ledger req start s state (held start))
  (hends:Ends env.contentDigest req start given state' lease v) :
  Meets (Sound env req start given) (Anyhow ApplyOutcome)
   (finish env req start.store.nextJournal state' lease outcome) v s := by
 refine .bind (meets_observing (reading_observedRoot _ _ _) hsound fun observed=>?_)
 refine .bind (meets_observing (reading_affectedPathsFor _ _) hsound fun affected=>?_)
 refine .bind (meets_persistReceipt hquiet hsound hledger hends (fun s' hs'=>?_) fun _=>trivial)
 exact .bind (meets_dropLease hs'.1 hends fun _ _=>.pure trivial)

lemma meets_removeStage {stage:Location} (hP:P v s) (hfault:Q (.error .io) v s)
  (hok:∀u : Tree,(∀loc : Location,loc.root≠stage.root → u loc=v loc) →
   P u s ∧ Q (.ok ()) u s) : Meets P Q (removeStage env stage) v s := by
 refine meets_fallible hP (fun _=>hfault) ?_
 rintro w rfl rfl
 refine hok _ fun loc hloc=>?_
 simp [view,hloc]

lemma consistent_preparing {done:List (PromotionEntry×ℕ)} (hv:StagingTree req start done v)
  (hs:Stocked req start env done s) : Sound env req start given v s :=
 .inr ⟨.preparing,held start,hs.ledger,rfl,hv.root,hv.contents,hv.residue⟩

lemma stagingTree_start (hclear:Clear req start) (hquiet:Quiet req start) :
  StagingTree req start [] (view start) where
 root := hquiet.rooted
 closed := hquiet.closed
 contents _ _ := content_view start _
 unchanged _ _ := rfl
 rollbackTempFile e he hkind := (hclear.rollbackTempFile e he hkind).1
 file := by simp
 staged := by simp

lemma journalPlan_workspaceId (grant:Digest) :
  (journalPlan req grant).workspaceId=req.workspaceId := rfl

lemma stagingStore_open (digest:Bytes → Digest) (grant:Digest) {row:WorkspaceRow}
  (hquiet:Quiet req start) (hidle:Idle start v s)
  (hrow:Store.lookupWorkspace s req.workspaceId=some row) :
  StagingStore digest req start [] (Store.openJournal s (journalPlan req grant)) where
 ledger :=
  { registered:=by
     have hmem:=List.mem_of_find?_eq_some hrow
     rw [hidle.workspaces] at hmem
     exact ⟨row,hmem,by simpa using List.find?_some hrow⟩
    workspaces:=by
     simp [Store.openJournal,Store.setWorkspace,hidle.workspaces,hidle.nextJournal,leased,
      held,journalPlan]
    journals:=⟨grant,none,by
     simp [Store.openJournal,hidle.journals,hidle.nextJournal],nofun⟩ }
 rows := by simp [Store.openJournal,Store.setWorkspace,hidle.entries,hquiet.fresh,planRows]
 accepted := by simp
 beforeKept := by simp
 afterKept := by simp

lemma meets_beginJournal {Q:Post ℕ} {grant:Digest} (hquiet:Quiet req start)
  (hclear:Clear req start) (hidle:Idle start v s)
  (hok:∀s',Stocked req start env [] s' → Q (.ok start.store.nextJournal) v s')
  (herror:∀e,Q (.error e) v s) :
  Meets (Sound env req start given) Q (beginJournal (journalPlan req grant))
   v s := by
 have htree:StagingTree req start [] v := by
  rw [hidle.tree]
  exact stagingTree_start hclear hquiet
 refine meets_atomic ?_
 rintro w rfl rfl
 simp only [journalPlan_workspaceId]
 cases hrow : Store.lookupWorkspace w.store req.workspaceId with
 | none => exact ⟨rfl,.inl hidle,herror _⟩
 | some row =>
   by_cases hready : row.recoveryState=.ready
   · have hstore:=stagingStore_open env.contentDigest grant hquiet hidle hrow
     have hopen:=hok _ hstore
     rw [← hidle.nextJournal] at hopen
     simp only [hready,ne_eq,not_true_eq_false,if_false]
     exact ⟨rfl,consistent_preparing htree hstore,hopen⟩
   · simp only [ne_eq,hready,not_false_eq_true,if_true]
     exact ⟨trivial,.inl hidle,herror _⟩

section Apply

variable (h:Conditions env req start given)
include h

variable {ps:List PreparedEntry}

lemma meets_commitEntry (hrewrite:req.rewriteAfterEntry=none) (hx:Turn req x rest)
  (hp:PreparedFor req x p) (hstaged:Midway env req start .committing st v s) (hst:Forwards st)
  (hwait:Waiting req (x::rest) v) (hok:∀u s' st',Midway env req start .committing st' u s' →
   Forwards st' → Waiting req rest u → Q (.ok ()) u s')
  (herror:∀u s' st' state' e,Midway env req start state' st' u s' →
   Forwards st' → Q (.error e) u s') :
  Meets (Sound env req start given) Q
   (commitEntry env req req.root (stage req)
    start.store.nextJournal p) v s := by
 have hsound:∀u s' st',Midway env req start .committing st' u s' →
   Forwards st' → Sound env req start given u s' :=
  fun _ _ _ hs' hst'=>hs'.consistent_forward (.inr rfl) hst'
 unfold commitEntry
 split
 · have hroll:=hstaged.setJournal h.quiet .rollingBack rfl
   refine .bind (meets_updateStore ⟨hroll.consistent_rolling (.inr rfl) (.of_forward hst),?_⟩)
   refine .bind (meets_maybeCrash ?_ (.throw ?_))
   · exact herror _ _ _ _ _ hroll hst
   · exact herror _ _ _ _ _ hroll hst
 · refine .bind (meets_reading (reading_reccheckPrecondition _ _) (hsound _ _ _ hstaged hst)
    fun r=>?_)
   cases r with
   | error e => exact herror _ _ _ _ _ hstaged hst
   | ok =>
     refine .bind (meets_moveEntry h.clear hstaged.core hx hp hwait
      (fun u hu=>hsound _ _ _ (hstaged.working hu) hst) (fun u hu hwait'=>?_)
      fun u e hu=>herror _ _ _ _ _ (hstaged.working hu) hst)
     have hmoved:=hstaged.working hu
     have happlied:=hmoved.setEntry x.2 .applied
     have hst':=update_applied_ne_rolledBack hst x.2
     rw [hp.sequence]
     refine .bind (meets_maybeCrash (herror _ _ _ _ _ hmoved hst) ?_)
     refine .bind (meets_updateStore ⟨hsound _ _ _ happlied hst',?_⟩)
     unfold rewriteAfter
     rw [hrewrite]
     refine .bind (.pure (meets_maybeCrash ?_ ?_))
     · exact herror _ _ _ _ _ happlied hst'
     · exact hok _ _ _ happlied hst' hwait'

lemma meets_commitEntries (hrewrite:req.rewriteAfterEntry=none)
  (hrest:∀y∈rest,y∈req.entries.zipIdx) (hnodup:rest.Nodup)
  (hps:List.Forall₂ (PreparedFor req) rest ps) (hstaged:Midway env req start .committing st v s)
  (hst:Forwards st) (hwait:Waiting req rest v)
  (hok:∀u s' st',Midway env req start .committing st' u s' → Forwards st' → Q (.ok ()) u s')
  (herror:∀u s' st' state' e,Midway env req start state' st' u s' →
   Forwards st' → Q (.error e) u s') :
  Meets (Sound env req start given) Q
   (commitEntries env req req.root (stage req)
    start.store.nextJournal ps) v s := by
 induction hps generalizing v s st with
 | nil => exact .pure (hok v s st hstaged hst)
 | @cons x p rest ps hp _ ih =>
   obtain ⟨hfresh,hnodup'⟩:=List.nodup_cons.mp hnodup
   have hlater:∀y∈rest,y∈req.entries.zipIdx :=
    fun y hy=>hrest y (List.mem_cons_of_mem _ hy)
   refine .bind (meets_commitEntry h hrewrite ⟨hrest x List.mem_cons_self,hlater,hfresh⟩ hp
    hstaged hst hwait (fun u s' st' hs' hst' hwait'=>?_) herror)
   exact ih hlater hnodup' hs' hst' hwait'

section

variable (hreliable:∀n,env.faults .rollback n=false)
 (hstaged:Midway env req start state st v s) (hrolled:RolledOk req start v st)
include hreliable hstaged hrolled

lemma meets_rollbackJournal (hok:∀u s' st',Midway env req start .rollingBack st' u s' →
   AllBefore req start u → Q (.ok ()) u s')
  (hcrash:∀u s' checkpoint,Q (.error (.injectedCrash checkpoint)) u s') :
  Meets (Sound env req start given) Q
   (rollbackJournal env req req.root start.store.nextJournal) v s := by
 have hroll:=hstaged.setJournal h.quiet .rollingBack rfl
 refine .bind (meets_updateStore ⟨hroll.consistent_rolling (.inr rfl) hrolled,?_⟩)
 refine .bind (meets_maybeCrash (hcrash _ _ _) ?_)
 refine meets_rollbackApplied h.injective h.probe h.clear hroll hrolled
  (fun _ _ _ hs' hr=>hs'.consistent_rolling (.inr rfl) hr) hok ?_
 rintro ⟨n,hn⟩
 simp [hreliable] at hn

lemma meets_abort {rolledBack:Promotion ApplyOutcome}
  (hnext:∀u s',Sound env req start given u s' →
   Ledger req start s' .rollingBack (held start) → AllBefore req start u →
   Residue req start u →
   Meets (Sound env req start given) (Anyhow ApplyOutcome) rolledBack u s') (e:PromotionError) :
  Meets (Sound env req start given) (Anyhow ApplyOutcome)
   (abort env req start.store.nextJournal rolledBack e) v s := by
 unfold abort
 split
 · exact .throw trivial
 · refine .bind (.attempt (meets_rollbackJournal h hreliable hstaged hrolled
    (fun u s' st' hs' hbefore=>?_) fun u s' checkpoint=>?_))
   · exact hnext u s' (hs'.consistent_rolling (.inr rfl) hbefore.rolledOk) hs'.ledger hbefore
      hs'.core.tree.residue
   · exact .throw trivial

end 

lemma meets_verifyResult {Q:Post (Digest×List AffectedPath)}
  (hstaged:Midway env req start state st v s) (hsound:Sound env req start given v s)
  (hok:∀r,(given.expects → AllAfter req v) → Q (.ok r) v s) (herror:∀e,Q (.error e) v s) :
  Meets (Sound env req start given) Q
   (verifyResult env req req.root start.store.nextJournal) v s := by
 refine .bind (meets_snapshot hsound hstaged.core.tree.root (fun _=>herror _) fun tree htree=>?_)
 refine .bind (meets_loadEntries hstaged.core hsound ?_)
 refine .bind (meets_reading (reading_observeEntries _ _ _) hsound fun r=>?_)
 cases r with
 | error e => exact herror e
 | ok observed =>
   simp only [Next]
   split
   · exact .throw (herror _)
   · split
     · exact .throw (herror _)
     · rename_i hdigest
       exact .pure (hok _ fun hgiven=>
        allAfter_of_digest (h.expects hgiven) htree (not_not.mp hdigest))

lemma meets_concludeCommitted {snapshot:Digest} {affected:List AffectedPath}
  (hstaged:Midway env req start state st v s) (hsound:Sound env req start given v s)
  (hafter:given.expects → AllAfter req v) :
  Meets (Sound env req start given) (Anyhow ApplyOutcome)
   (concludeCommitted env req start.store.nextJournal snapshot affected) v s := by
 have hends:Ends env.contentDigest req start given .committed .ready v:=ends_committed hafter
 unfold concludeCommitted
 rw [h.quiet.stage]
 refine .bind (meets_maybeCrash trivial ?_)
 refine .bind (.bind (meets_loadEntries hstaged.core hsound (.pure ?_)))
 refine .bind (meets_persistReceipt h.quiet hsound hstaged.ledger hends (fun s₁ hs₁=>?_)
  fun _=>trivial)
 refine .bind (meets_maybeCrash trivial ?_)
 refine .bind (meets_dropLease hs₁.1 hends fun s₂ hs₂=>?_)
 refine .bind (.attempt (meets_removeStage (.inr ⟨_,_,hs₂⟩) (.pure trivial)
  fun u hu=>⟨.inr ⟨_,_,hs₂.1,hs₂.2.1,fun hgiven e he=>?_⟩,.pure trivial⟩))
 rw [content,hu _ fun heq=>stage_apart heq.symm]
 exact hafter hgiven e he

lemma meets_verifyPhase (hreliable:∀n,env.faults .rollback n=false)
  (hstaged:Midway env req start .committing st v s) (hst:Forwards st) :
  Meets (Sound env req start given) (Anyhow ApplyOutcome)
   (verifyPhase env req start.store.nextJournal) v s := by
 have hverifying:=hstaged.setJournal h.quiet .verifying rfl
 have hrolled:RolledOk req start v st:=.of_forward hst
 have hsound:Sound env req start given v _ :=
  hverifying.consistent_rolling (.inl rfl) hrolled
 refine .bind (meets_updateStore ⟨hsound,?_⟩)
 refine .bind (meets_maybeCrash trivial ?_)
 refine .bind (.attempt (meets_verifyResult h hverifying hsound
  (fun r hafter=>meets_concludeCommitted h hverifying hsound hafter) fun e=>?_))
 exact meets_abort h hreliable hverifying hrolled (fun u s' hsound' hledger hbefore hresidue=>
  meets_finish h.quiet hsound' hledger (ends_unchanged hbefore hresidue (.inr rfl))) e

/-- No test hook plays an external writer, and a rollback inside the application does not fail. -/
structure Undisturbed (env:Env) (req:ApplyRequest) : Prop where
 mutate : req.mutateAfterPrepared=none
 rewrite : req.rewriteAfterEntry=none
 reliable : ∀n,env.faults .rollback n=false

variable (hcalm:Undisturbed env req)
include hcalm

lemma meets_commitPhase (hps:List.Forall₂ (PreparedFor req) req.entries.zipIdx ps)
  (hstaged:Midway env req start .prepared st v s) (hst:Forwards st)
  (hbefore:AllBefore req start v) (hwait:Waiting req req.entries.zipIdx v) :
  Meets (Sound env req start given) (Anyhow ApplyOutcome)
   (commitPhase env req start.store.nextJournal ps) v s := by
 have hsound:Sound env req start given v s :=
  hstaged.consistent_forward (.inl rfl) hst
 have hnodup:(req.entries.zipIdx).Nodup:=List.Nodup.of_map Prod.snd indices_nodup
 unfold commitPhase
 rw [h.quiet.stage]
 refine .bind (meets_observing (reading_recheckAll _ ps).attempt hsound fun checked=>?_)
 cases checked with
 | error e =>
   exact meets_finish h.quiet hsound hstaged.ledger
    (ends_unchanged hbefore hstaged.core.tree.residue (.inr rfl))
 | ok =>
   have hcomm:=hstaged.setJournal h.quiet .committing rfl
   refine .bind (meets_updateStore ⟨hcomm.consistent_forward (.inr rfl) hst,?_⟩)
   refine .bind (meets_maybeCrash trivial ?_)
   refine .bind (.attempt (meets_commitEntries h hcalm.rewrite (fun _ hy=>hy) hnodup
    hps hcomm hst hwait (fun u s' st' hs' hst'=>?_)
    fun u s' st' state' e hs' hst'=>?_))
   · exact meets_verifyPhase h hcalm.reliable hs' hst'
   · exact meets_abort h hcalm.reliable hs' (.of_forward hst')
      (fun u s' hsound' hledger hbefore hresidue=>
       meets_finish h.quiet hsound' hledger (ends_unchanged hbefore hresidue (.inl rfl))) e

lemma meets_commitPrepared (hv:StagingTree req start req.entries.zipIdx v)
  (hs:Stocked req start env req.entries.zipIdx s)
  (hps:List.Forall₂ (PreparedFor req) req.entries.zipIdx ps) :
  Meets (Sound env req start given) (Anyhow ApplyOutcome) (do
   setJournalState start.store.nextJournal .prepared none
   fsyncDirectory env .stage (stage req)
   maybeCrash req .prepared
   mutateHook req
   commitPhase env req start.store.nextJournal ps) v s := by
 have hst:∀i : ℕ,(fun _=>EntryState.staged : ℕ → EntryState) i≠.rolledBack:=nofun
 have hprepared:Midway env req start .prepared (fun _=>.staged) v
   (Store.setJournal s start.store.nextJournal .prepared none) :=
  ⟨hs.ledger.setJournal h.quiet nofun,(hs.core hv).congr rfl rfl⟩
 have hsound:Sound env req start given v
   (Store.setJournal s start.store.nextJournal .prepared none) :=
  hprepared.consistent_forward (.inl rfl) hst
 refine .bind (meets_updateStore ⟨hsound,?_⟩)
 refine .bind (meets_fsyncDirectory hsound (fun _=>trivial) (fun _=>?_) fun _=>trivial)
 refine .bind (meets_maybeCrash trivial ?_)
 unfold mutateHook
 rw [hcalm.mutate]
 exact .bind (.pure (meets_commitPhase h hcalm hps hprepared hst hv.contents hv.staged))

lemma meets_applyJournaled (hv:StagingTree req start [] v) (hs:Stocked req start env [] s) :
  Meets (Sound env req start given) (Anyhow ApplyOutcome)
   (applyJournaled env req start.store.nextJournal) v s := by
 have hs':Stocked req start env [] (Store.setContext s start.store.nextJournal
    ⟨req.approvalId,req.signatureKeyId,req.signerCertificateObjectDigest⟩) :=
  ⟨hs.ledger.congr rfl rfl,hs.rows,nofun,nofun,nofun⟩
 unfold applyJournaled
 rw [h.quiet.stage]
 refine .bind (meets_updateStore ⟨consistent_preparing hv hs',?_⟩)
 refine .bind (meets_createDirAll (StagingTree req start [])
  (fun u q hu _ _ _=>hu.set_staging stage_apart (by simp) _)
  (fun u hu=>consistent_preparing hu hs') hv (fun u hu _=>?_) fun _ _ _ _=>trivial)
 refine .bind (meets_reading reading_sameVolume (consistent_preparing hu hs') fun r=>?_)
 cases r with
 | error e => trivial
 | ok =>
   refine .bind (.attempt (meets_prepareEntries h.injective h.probe h.clear rfl hu hs'
    (fun _ _ _ hv' hs'=>consistent_preparing hv' hs')
    (fun u' s'' ps hu' hs'' hps=>meets_commitPrepared h hcalm hu' hs'' hps)
    fun done u' s'' e hu' hs''=>?_))
   refine .bind (.attempt ((meets_finish h.quiet (consistent_preparing hu' hs'')
    hs''.ledger (ends_unchanged hu'.contents hu'.residue (.inr rfl))).post fun _ _ _ _=>?_))
   exact .throw trivial

lemma meets_applyPromotion :
  Meets (Sound env req start given) (Anyhow ApplyOutcome)
   (applyPromotion env req) (view start) start.store := by
 have hspent:∀s,Spent start.store s → Idle start (view start) s := by
  intro s hs
  rw [hs]
  exact ⟨rfl,rfl,rfl,rfl,rfl⟩
 refine .bind (meets_verifyGrant (fun s hs=>.inl (hspent s hs)) (fun _ s₁ _ _ hs₁=>?_)
  fun _ _ _=>trivial)
 have hidle:=hspent s₁ hs₁
 refine .bind (meets_reading (reading_openRoot _) (.inl hidle) fun r=>?_)
 cases r with
 | error e => trivial
 | ok =>
   refine .bind (meets_beginJournal h.quiet h.clear hidle (fun s₂ hs₂=>?_) fun _=>trivial)
   exact meets_applyJournaled h hcalm (stagingTree_start h.clear h.quiet) hs₂

end Apply

end EpistemicCompiler.PromotionCommit
