import EpistemicCompiler.PromotionRecovery
import EpistemicCompiler.SharedPrograms

set_option autoImplicit false

/-!
# The parts of a promotion that only read

They change no file and no row, whatever happens between their steps. Some of them turn every
failure into an answer.
-/
namespace EpistemicCompiler.PromotionReads
open StepPrograms StepPrograms.StepProgram SharedPrograms PromotionWorld PromotionFiles
 PromotionJournal PromotionGrant PromotionApply PromotionRecovery

abbrev Reading {α:Type} (total:Bool) (p:Promotion α) : Prop :=
 Still (fun w:World=>(w.files,w.store)) total p

variable {env:Env} {α:Type} {total:Bool}

lemma reading_fallible {site:Site} {op:World → Except PromotionError (α×World)}
  (hop:∀w a w',op w=.ok (a,w') → w'=w) : Reading false (fallible env site op) := by
 refine fun w=>⟨?_,nofun⟩
 dsimp only
 split
 · rfl
 · cases hcase : op w with
   | error e => rfl
   | ok result =>
     rw [← hop w result.1 result.2 hcase]
     rfl

variable (site:Site) (loc:Location) (root:RootDir) (journalId:ℕ) (row:EntryRow)
 (rows:List EntryRow)

lemma reading_pathExists : Reading total (pathExists env loc) :=
 fun _=>⟨rfl,fun _=>⟨_,rfl⟩⟩

lemma reading_readBytes : Reading false (readBytes env site loc) := by
 refine reading_fallible fun w a w' h=>?_
 split at h <;> cases h
 rfl

lemma reading_inspect : Reading false (inspect env site loc) := by
 refine reading_fallible fun w a w' h=>?_
 split at h <;> cases h <;> rfl

lemma reading_captureHeld : Reading false (captureHeld env site loc) :=
 .bind (reading_inspect _ _) fun _=>
  .ite (.throw _) (.ite (.throw _) (.pure _))

lemma reading_snapshot (workspaceId:String) :
  Reading false (workspaceSnapshotRoot env root workspaceId) := by
 refine reading_fallible fun w a w' h=>?_
 split at h <;> cases h
 rfl

lemma reading_openRoot : Reading false (openRoot env root) := by
 refine reading_fallible fun w a w' h=>?_
 split at h <;> cases h
 rfl

lemma reading_sameVolume : Reading false (sameVolume env) := by
 refine reading_fallible fun w a w' h=>?_
 cases h
 rfl

lemma reading_currentDigest : Reading false (currentDigest env site loc) :=
 .bind (reading_pathExists _) fun _=>
  .ite (.bind (reading_readBytes _ _) fun _=>.pure _) (.pure _)

lemma reading_attemptRead {β:Type} {site:Site} {loc:Location}
  {f:Except PromotionError Bytes → Promotion β} (hf:∀r,Reading total (f r)) :
  Reading total ((readBytes env site loc).attempt >>= f) :=
 .bind (reading_readBytes _ _).attempt hf

lemma reading_observedDigest : Reading total (observedDigest env site loc) := by
 refine .bind (reading_pathExists _) fun _=>.ite ?_ (.pure _)
 refine reading_attemptRead fun r=>?_
 cases r <;> exact .pure _

lemma reading_mapError {f:PromotionError → PromotionError} {p:Promotion α}
  (h:Reading false p) : Reading false (mapError f p) := by
 refine .bind h.attempt fun r=>?_
 cases r with
 | ok a => exact .pure _
 | error e => exact .throw _

lemma reading_reccheckPrecondition (entry:PreparedEntry) :
  Reading false (reccheckPrecondition env root entry) := by
 have hcapture:∀captured,
   Reading false (recheckCaptured env (joinRel root entry.relativePath) entry captured) :=
  fun _=>.bind (reading_inspect _ _) fun _=>.ite (.throw _)
   (.bind (reading_inspect _ _) fun _=>.ite (.throw _) (.bind (reading_readBytes _ _) fun _=>
     .ite (.throw _) (.pure _)))
 refine .bind (reading_pathExists _) fun _=>.ite (.throw _) ?_
 split
 · exact .pure _
 · exact hcapture _
 · exact hcapture _
 · exact .throw _
 · exact .throw _

lemma reading_recheckAll (entries:List PreparedEntry) :
  Reading false (entries.forM (reccheckPrecondition env root)) := by
 induction entries with
 | nil => exact .pure _
 | cons entry entries ih => exact .bind (reading_reccheckPrecondition _ _) fun _=>ih

lemma reading_observeEntries (entries:List PromotionEntry) :
  Reading false (observeEntries env root rows entries) := by
 induction entries with
 | nil => exact .pure _
 | cons entry entries ih =>
   exact .bind (reading_currentDigest _ _) fun _=>
    .bind ih fun _=>.pure _

lemma reading_affectedPathsFor : Reading total (affectedPathsFor env root journalId) := by
 refine .bind (.read _) fun rows=>?_
 induction rows with
 | nil => exact .pure _
 | cons row rows ih =>
   exact .bind (reading_observedDigest _ _) fun _=>
    .bind ih fun _=>.pure _

lemma reading_observedRoot (workspaceId:String) (base:Digest) :
  Reading total (observedRoot env root workspaceId base) := by
 refine .bind (reading_snapshot _ _).attempt fun r=>?_
 cases r <;> exact .pure _

lemma reading_approvalIdFor (journal:JournalRow) : Reading total (approvalIdFor journal) :=
 .bind (.read _) fun _=>.pure _

lemma reading_classifyCurrent : Reading total (classifyCurrent env root row) := by
 refine .ite (.pure _) (.bind ?_ fun _=>.pure _)
 refine .bind (reading_pathExists _) fun _=>.ite ?_ (.pure _)
 refine reading_attemptRead fun r=>?_
 cases r <;> exact .pure _

lemma reading_allAfter : Reading total (allAfter env root rows) := by
 induction rows with
 | nil => exact .pure _
 | cons row rows ih =>
   exact .bind (reading_classifyCurrent _ _) fun _=>
    .ite ih (.pure _)

end EpistemicCompiler.PromotionReads
