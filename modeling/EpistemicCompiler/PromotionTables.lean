import EpistemicCompiler.PromotionReads

set_option autoImplicit false

/-!
# The shared tables of the runner's store

Promotions of several workspaces meet in five tables: the journals with their counter, the leases,
the consumed grants and the sessions. What else a promotion writes is its own.
-/
namespace EpistemicCompiler.PromotionTables
open StepPrograms StepPrograms.StepProgram SharedPrograms PromotionWorld PromotionFiles
 PromotionJournal PromotionGrant PromotionApply PromotionRecovery PromotionReads

structure Tables where
 journals : List JournalRow
 workspaces : List WorkspaceRow
 nextJournal : ℕ
 consumedGrants : List Digest
 sessions : Digest → Option SessionState

def tables (w:World) : Tables :=
 ⟨w.store.journals,w.store.workspaces,w.store.nextJournal,w.store.consumedGrants,
  w.store.sessions⟩

abbrev Quiet {α:Type} (p:Promotion α) : Prop := Preserves tables p

variable {env:Env} {α:Type}

lemma quiet_of_reading {p:Promotion α} (h:Reading false p) : Quiet p :=
 h.preserves.coarsen fun w w' hw=>by
  rw [tables,tables,(Prod.mk.inj hw).2]

lemma quiet_fallible {site:Site} {op:World → Except PromotionError (α×World)}
  (hop:∀w a w',op w=.ok (a,w') → w'.store=w.store) : Quiet (fallible env site op) := by
 refine .atomic fun w=>?_
 split
 · rfl
 · cases hcase : op w with
   | error e => rfl
   | ok result =>
     simp only [tables,tock_store]
     rw [hop w result.1 result.2 hcase]

variable (site:Site) (loc dest stage:Location) (root:RootDir) (journalId sequence index:ℕ)
 (req:ApplyRequest) (entry:EntryRow) (entries:List EntryRow)

lemma quiet_fsyncPath : Quiet (fsyncPath env site loc) := by
 refine quiet_fallible fun w a w' h=>?_
 split at h <;> cases h
 rfl

lemma quiet_fsyncDirectory : Quiet (fsyncDirectory env site loc) := by
 refine quiet_fallible fun w a w' h=>?_
 split at h <;> cases h
 rfl

lemma quiet_fsyncParent : Quiet (fsyncParent env site loc) := by
 unfold fsyncParent
 split
 · exact .pure _
 · exact quiet_fsyncDirectory _ _

lemma quiet_lookNode : Quiet (lookNode env site loc) := by
 refine quiet_fallible fun w a w' h=>?_
 cases h
 rfl

lemma quiet_createDir : Quiet (createDir env site loc) := by
 refine quiet_fallible fun w a w' h=>?_
 split at h <;> cases h
 rfl

lemma quiet_createDirAll (path:Path) : Quiet (createDirAll env site root path) := by
 induction path with
 | nil =>
   refine .bind (quiet_lookNode _ _) fun node=>?_
   split
   · exact .pure _
   · exact .throw _
   · exact quiet_createDir _ _
 | cons name parent ih =>
   refine .bind (quiet_lookNode _ _) fun node=>?_
   split
   · exact .pure _
   · exact .throw _
   · exact .bind ih fun _=>quiet_createDir _ _

lemma quiet_createFile : Quiet (createFile env site loc) := by
 refine quiet_fallible fun w a w' h=>?_
 split at h
 · cases h
 · split at h <;> cases h <;> rfl

lemma quiet_updateFile (f:FileNode → FileNode) : Quiet (updateFile env site loc f) := by
 refine quiet_fallible fun w a w' h=>?_
 split at h <;> cases h
 rfl

lemma quiet_writeStagingFile (bytes:Bytes) : Quiet (writeStagingFile env site loc bytes) :=
 .bind (quiet_createDirAll _ _ _) fun _=>
  .bind (quiet_createFile _ _) fun _=>
   .bind (quiet_updateFile _ _ _) fun _=>quiet_fsyncPath _ _

lemma quiet_moveEx (source:Location) (replace:Bool) :
  Quiet (moveEx env site source dest replace) := by
 refine .bind (quiet_fallible fun w a w' h=>?_) fun _=>
  .bind (quiet_fsyncPath _ _) fun _=>quiet_fsyncParent _ _
 split at h
 · split at h <;> cases h
   rfl
 · cases h

lemma quiet_deletePath : Quiet (deletePath env site loc) := by
 refine .bind (quiet_fallible fun w a w' h=>?_) fun _=>quiet_fsyncParent _ _
 split at h <;> cases h
 rfl

lemma quiet_getCasObject (digest:Digest) : Quiet (getCasObject digest) := by
 refine .atomic fun w=>?_
 split <;> rfl

lemma quiet_putCasObject (bytes:Bytes) : Quiet (putCasObject env bytes) :=
 .atomic fun _=>rfl

lemma quiet_setEntryState (state:EntryState) : Quiet (setEntryState journalId sequence state) :=
 .write fun _=>rfl

lemma quiet_storeApplyContext (context:ApplyContext) :
  Quiet (storeApplyContext journalId context) :=
 .write fun _=>rfl

lemma quiet_maybeCrash (checkpoint:Checkpoint) : Quiet (maybeCrash req checkpoint) :=
 .ite (.throw _) (.pure _)

lemma quiet_restoreCaptured (captured:Option CapturedMetadata) :
  Quiet (restoreCaptured env site loc captured) := by
 cases captured with
 | none => exact .pure _
 | some captured => exact .bind (quiet_updateFile _ _ _) fun _=>quiet_updateFile _ _ _

lemma quiet_captureBefore : Quiet (captureBefore env dest) := by
 refine .bind (quiet_of_reading (reading_pathExists _)) fun _=>.ite ?_ (.pure _)
 refine .bind ?_ fun _=>.pure _
 refine .bind (quiet_of_reading (reading_mapError (reading_captureHeld _ _))) fun _=>?_
 refine .ite (.throw _) (.bind (quiet_of_reading (reading_readBytes _ _)) fun _=>?_)
 exact .bind (quiet_putCasObject _) fun _=>.pure _

lemma quiet_stageAfter (entry:PromotionEntry) (captured:Option CapturedMetadata) :
  Quiet (stageAfter env stage index entry dest captured) := by
 unfold stageAfter
 split
 · exact .pure _
 · exact .bind (quiet_putCasObject _) fun _=>
    .bind (quiet_writeStagingFile _ _ _) fun _=>
     .bind (quiet_restoreCaptured _ _ _) fun _=>.pure _
 · exact .bind (quiet_putCasObject _) fun _=>
    .bind (quiet_writeStagingFile _ _ _) fun _=>
     .bind (quiet_fsyncPath _ _) fun _=>.pure _
 · exact .throw _
 · exact .throw _

lemma quiet_saveCaptured (captured:Option CapturedMetadata) :
  Quiet (saveCaptured journalId index captured) := by
 cases captured with
 | none => exact .pure _
 | some captured => exact .write fun _=>rfl

lemma quiet_prepareEntry
  (entry:PromotionEntry) : Quiet (prepareEntry env root stage journalId index entry) := by
 refine .bind (quiet_captureBefore _) fun capture=>
  .ite (.throw _) ?_
 exact .bind (quiet_stageAfter _ _ _ _ _) fun _=>
  .bind (.write fun _=>rfl) fun _=>
   .bind (quiet_saveCaptured _ _ _) fun _=>.pure _

lemma quiet_prepareEntries (entries:List PromotionEntry) :
  Quiet (prepareEntries env root stage journalId index entries) := by
 induction entries generalizing index with
 | nil => exact .pure _
 | cons entry entries ih =>
   exact .bind (quiet_prepareEntry _ _ _ _ _) fun _=>
    .bind (ih _) fun _=>.pure _

lemma quiet_moveEntry (entry:PreparedEntry) : Quiet (moveEntry env root stage entry) := by
 unfold moveEntry
 split
 · exact quiet_moveEx _ _ _ _
 · exact quiet_moveEx _ _ _ _
 · exact .throw _
 · exact quiet_deletePath _ _

lemma quiet_rewriteAfter (entry:PreparedEntry) : Quiet (rewriteAfter env req root entry) := by
 unfold rewriteAfter
 split
 · exact .ite (.bind (quiet_createFile _ _) fun _=>quiet_updateFile _ _ _) (.pure _)
 · exact .pure _

lemma quiet_restoreStoredMeta :
  Quiet (restoreStoredMeta env site journalId sequence dest) :=
 .bind (.read _) fun _=>quiet_restoreCaptured _ _ _

lemma quiet_deleteIfPresent : Quiet (deleteIfPresent env dest) :=
 .bind (quiet_of_reading (reading_pathExists _)) fun _=>
  .ite (quiet_deletePath _ _) (.pure _)

lemma quiet_restoreBefore :
  Quiet (restoreBefore env journalId entry dest) := by
 have hmove:Quiet (moveBack env dest):=.bind (quiet_of_reading (reading_pathExists _)) fun _=>
  .ite (quiet_moveEx _ _ _ _) (quiet_moveEx _ _ _ _)
 unfold restoreBefore
 split
 · exact .throw _
 · exact .bind (quiet_getCasObject _) fun _=>
    .bind (quiet_writeStagingFile _ _ _) fun _=>
     .bind hmove fun _=>quiet_restoreStoredMeta _ _ _ _

lemma quiet_rollbackOne :
  Quiet (rollbackOne env root journalId entry) := by
 refine .bind (quiet_of_reading (reading_currentDigest _ _)) fun _=>
  .ite (.pure _) (.ite (.throw _) ?_)
 split
 · exact .bind (quiet_deleteIfPresent _) fun _=>quiet_deleteIfPresent _
 · exact quiet_restoreBefore _ _ _
 · exact quiet_restoreBefore _ _ _

lemma quiet_rollbackEntries :
  Quiet (rollbackEntries env root journalId entries) := by
 induction entries with
 | nil => exact .pure _
 | cons entry entries ih =>
   refine .ite ih (.bind (quiet_rollbackOne _ _ _).attempt fun r=>?_)
   cases r with
   | ok _ => exact .bind (quiet_setEntryState _ _ _) fun _=>ih
   | error e =>
     exact .ite (.bind (quiet_setEntryState _ _ _) fun _=>
      .bind ih fun _=>.pure _) (.throw _)

lemma quiet_rollbackApplied :
  Quiet (rollbackApplied env root journalId) :=
 .bind (.read _) fun _=>
  .bind (quiet_rollbackEntries _ _ _) fun _=>
   .ite (.pure _) (.throw _)

lemma quiet_verifyResult :
  Quiet (verifyResult env req root journalId) :=
 .bind (quiet_of_reading (reading_snapshot _ _)) fun _=>
  .bind (.read _) fun _=>
   .bind (quiet_of_reading (reading_observeEntries _ _ _)) fun _=>
    .ite (.throw _) (.ite (.throw _) (.pure _))

lemma quiet_removeStage : Quiet (removeStage env stage) := by
 refine quiet_fallible fun w a w' h=>?_
 cases h
 rfl

lemma quiet_mutateHook : Quiet (mutateHook req) := by
 unfold mutateHook
 split
 · exact .write fun _=>rfl
 · exact .pure _

lemma quiet_anyForeign :
  Quiet (anyForeign env root entries) := by
 induction entries with
 | nil => exact .pure _
 | cons entry entries ih =>
   exact .bind (quiet_of_reading (reading_classifyCurrent _ _)) fun _=>
    .ite (.pure _) ih

lemma quiet_forwardPending : Quiet (forwardPending env stage journalId entry dest) := by
 unfold forwardPending
 split
 · unfold forwardReplace
   split
   · exact .throw _
   · exact .bind (quiet_getCasObject _) fun _=>
      .bind (quiet_writeStagingFile _ _ _) fun _=>
       .bind (quiet_restoreStoredMeta _ _ _ _) fun _=>quiet_moveEx _ _ _ _
 · unfold forwardCreate
   split
   · exact .throw _
   · exact .bind (quiet_getCasObject _) fun _=>
      .bind (quiet_writeStagingFile _ _ _) fun _=>
       .bind (quiet_fsyncPath _ _) fun _=>quiet_moveEx _ _ _ _
 · exact .bind (quiet_of_reading (reading_pathExists _)) fun _=>
    .ite (quiet_deletePath _ _) (.pure _)

lemma quiet_forwardEntries :
  Quiet (forwardEntries env root stage journalId entries) := by
 induction entries with
 | nil => exact .pure _
 | cons entry entries ih =>
   refine .bind (.ite (.pure _) ?_) fun _=>ih
   refine .bind (quiet_of_reading (reading_classifyCurrent _ _)) fun progress=>?_
   cases progress with
   | after =>
     exact .bind (quiet_restoreStoredMeta _ _ _ _) fun _=>quiet_setEntryState _ _ _
   | pending =>
     exact .bind (quiet_forwardPending _ _ _ _) fun _=>quiet_setEntryState _ _ _
   | foreign => exact .throw _

end EpistemicCompiler.PromotionTables
