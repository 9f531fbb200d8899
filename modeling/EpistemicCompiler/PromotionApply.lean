import EpistemicCompiler.PromotionGrant

set_option autoImplicit false

/-!
# Applying a promotion

`apply_promotion` stages every entry of a request, commits the entries one by one, verifies the
result and rolls the journal back when a step of the commit or the verification fails.
-/
namespace EpistemicCompiler.PromotionApply
open StepPrograms StepPrograms.StepProgram PromotionWorld PromotionFiles PromotionJournal
 PromotionGrant

variable (env:Env)

structure ApplyOutcome where
 receipt : ApplyReceipt
 journalId : ℕ
 leaseHeld : Bool

variable (req:ApplyRequest) (root:RootDir) (stage:Location) (journalId index:ℕ) (dest:Location)

def maybeCrash (checkpoint:Checkpoint) : Promotion Unit :=
 if req.crashAfter=some checkpoint then throw (.injectedCrash checkpoint) else pure ()

structure PreparedEntry where
 sequence : ℕ
 kind : EntryKind
 relativePath : Path
 before : Option Digest
 captured : Option CapturedMetadata
 createTmp : Option Location

structure Capture where
 digest : Digest
 captured : CapturedMetadata
 rollback : Digest

variable (entry:PreparedEntry)

def captureExisting : Promotion Capture := do
 let captured ← mapError (fun _=>.metadata "capture existing") (captureHeld env .stage dest)
 if captured.isDirectory then throw (.metadata "directory replace unsupported")
 else do
  let bytes ← readBytes env .stage dest
  let rollback ← putCasObject env bytes
  pure ⟨env.contentDigest bytes,captured,rollback⟩

def captureBefore : Promotion (Option Capture) := do
 if ← pathExists env dest then do
  let capture ← captureExisting env dest
  pure (some capture)
 else pure none

def restoreCaptured (site:Site) (loc:Location) :
    Option CapturedMetadata → Promotion Unit
 | some captured => applyCapturedMetadata env site loc captured
 | none => pure ()

def stageReplace (captured:Option CapturedMetadata) (bytes:Bytes) :
    Promotion (Option Digest) := do
 let _ ← putCasObject env bytes
 writeStagingFile env .stage (stagedFile stage index) bytes
 restoreCaptured env .stage (stagedFile stage index) captured
 pure (some (env.contentDigest bytes))

def stageCreate (bytes:Bytes) : Promotion (Option Digest) := do
 let _ ← putCasObject env bytes
 writeStagingFile env .stage (inParentCreateTemp dest) bytes
 fsyncPath env .stage (inParentCreateTemp dest)
 pure (some (env.contentDigest bytes))

def stageAfter (entry:PromotionEntry) (dest:Location) (captured:Option CapturedMetadata) :
    Promotion (Option Digest) :=
 match entry.kind, entry.afterBytes with
 | .delete, _ => pure none
 | .replace, some bytes => stageReplace env stage index captured bytes
 | .create, some bytes => stageCreate env dest bytes
 | .replace, none | .create, none => throw (.protocol "missing after bytes")

def fitsKind (kind:EntryKind) (present:Bool) : Bool :=
 match kind with
 | .create => !present
 | .replace | .delete => present

def saveCaptured : Option CapturedMetadata → Promotion Unit
 | some captured => storeEntryMeta journalId index captured
 | none => pure ()

def stageEntry (entry:PromotionEntry) (dest:Location) (capture:Option Capture) :
    Promotion PreparedEntry :=
 if ¬ fitsKind entry.kind capture.isSome then throw .stale
 else do
  let after ← stageAfter env stage index entry dest (capture.map (·.captured))
  insertEntry journalId ⟨index,entry.kind,entry.relativePath,capture.map (·.digest),after,
   capture.map (·.rollback),.staged⟩
  saveCaptured journalId index (capture.map (·.captured))
  pure ⟨index,entry.kind,entry.relativePath,capture.map (·.digest),
   capture.map (·.captured),
  if entry.kind=.create then some (inParentCreateTemp dest) else none⟩

def prepareEntry (entry:PromotionEntry) : Promotion PreparedEntry := do
 let dest:=joinRel root entry.relativePath
 let capture ← captureBefore env dest
 stageEntry env stage journalId index entry dest capture

def prepareEntries (root:RootDir) (stage:Location) (journalId:ℕ) :
    ℕ → List PromotionEntry → Promotion (List PreparedEntry)
 | _, [] => pure []
 | index, entry::entries => do
   let prepared ← prepareEntry env root stage journalId index entry
   let rest ← prepareEntries root stage journalId (index+1) entries
   pure (prepared::rest)

def recheckCaptured (captured:CapturedMetadata) : Promotion Unit := do
 let opened ← inspect env .check dest
 if opened.identity≠captured.identity ∨ opened.securityDigest≠captured.securityDigest ∨
   opened.reparseTag≠captured.reparseTag ∨ opened.isDirectory≠captured.isDirectory then
  throw .stale
 else do
  let streams ← inspect env .check dest
  if streams.streams≠captured.streams ∨ captured.gitMode ≠ "100644" then throw .stale
  else do
   let bytes ← readBytes env .check dest
   if some (env.contentDigest bytes)≠entry.before then throw .stale else pure ()

def reccheckPrecondition : Promotion Unit := do
 let present ← pathExists env (joinRel root entry.relativePath)
 if ¬ fitsKind entry.kind present then throw .stale
 else match entry.kind, entry.captured with
  | .create, _ => pure ()
  | .replace, some captured | .delete, some captured =>
    recheckCaptured env (joinRel root entry.relativePath) entry captured
  | .replace, none | .delete, none => throw (.metadata "missing capture")

def moveEntry : Promotion Unit :=
 match entry.kind, entry.createTmp with
 | .replace, _ => atomicReplace env .commit (stagedFile stage entry.sequence)
   (joinRel root entry.relativePath)
 | .create, some tmp => atomicRename env .commit tmp (joinRel root entry.relativePath)
 | .create, none => throw (.protocol "create temp")
 | .delete, _ => deletePath env .commit (joinRel root entry.relativePath)

def rewriteAfter : Promotion Unit :=
 match req.rewriteAfterEntry with
 | some (sequence,bytes) =>
   if sequence=entry.sequence then do
    createFile env .commit (joinRel root entry.relativePath)
    writeAll env .commit (joinRel root entry.relativePath) bytes
   else pure ()
 | none => pure ()

def commitEntry : Promotion Unit :=
 if req.failAtEntry=some entry.sequence then do
  setJournalState journalId .rollingBack none
  maybeCrash req .rollingBack
  throw .stale
 else do
  reccheckPrecondition env root entry
  moveEntry env root stage entry
  maybeCrash req (.afterFsBeforeSql entry.sequence)
  setEntryState journalId entry.sequence .applied
  rewriteAfter env req root entry
  maybeCrash req (.afterEntry entry.sequence)

def commitEntries (req:ApplyRequest) (root:RootDir) (stage:Location) (journalId:ℕ) :
    List PreparedEntry → Promotion Unit
 | [] => pure ()
 | entry::entries => do
   commitEntry env req root stage journalId entry
   commitEntries req root stage journalId entries

def restoreStoredMeta (site:Site) (journalId sequence:ℕ) (dest:Location) :
    Promotion Unit := do
 let captured ← loadEntryMeta journalId sequence
 restoreCaptured env site dest captured

def deleteIfPresent : Promotion Unit := do
 if ← pathExists env dest then deletePath env .rollback dest else pure ()

def undoCreate : Promotion Unit := do
 deleteIfPresent env dest
 deleteIfPresent env (inParentCreateTemp dest)

def rollbackTemp : Location := withExtension dest "pi-hec-rollback"

def moveBack : Promotion Unit := do
 if ← pathExists env dest then atomicReplace env .rollback (rollbackTemp dest) dest
 else atomicRename env .rollback (rollbackTemp dest) dest

def restoreBefore (entry:EntryRow) (dest:Location) : Promotion Unit :=
 match entry.rollbackObjectDigest with
 | none => throw (.protocol "missing rollback object")
 | some digest => do
   let bytes ← getCasObject digest
   writeStagingFile env .rollback (rollbackTemp dest) bytes
   moveBack env dest
   restoreStoredMeta env .rollback journalId entry.sequence dest

def rollbackOne (entry:EntryRow) : Promotion Unit := do
 let current ← currentDigest env .rollback (joinRel root entry.relativePath)
 if current=entry.expectedBeforeDigest then pure ()
 else if current≠entry.expectedAfterDigest then throw externalConflict
 else match entry.operationKind with
  | .create => undoCreate env (joinRel root entry.relativePath)
  | .replace | .delete =>
    restoreBefore env journalId entry (joinRel root entry.relativePath)

def rollbackEntries (root:RootDir) (journalId:ℕ) : List EntryRow → Promotion (List Path)
 | [] => pure []
 | entry::entries =>
   if entry.entryState=.rolledBack then rollbackEntries root journalId entries
   else do
    match ← (rollbackOne env root journalId entry).attempt with
    | .ok () => do
      setEntryState journalId entry.sequence .rolledBack
      rollbackEntries root journalId entries
    | .error e =>
      if e=externalConflict then do
       setEntryState journalId entry.sequence .externalConflict
       let manual ← rollbackEntries root journalId entries
       pure (entry.relativePath::manual)
      else throw e

def rollbackApplied : Promotion Unit := do
 let entries ← loadEntries journalId
 let manual ← rollbackEntries env root journalId entries.reverse
 if manual.isEmpty then pure () else throw externalConflict

def rollbackJournal : Promotion Unit := do
 setJournalState journalId .rollingBack none
 maybeCrash req .rollingBack
 rollbackApplied env root journalId

def expectedAfter (entry:PromotionEntry) : Option Digest :=
 match entry.kind with
 | .delete => none
 | .replace | .create => entry.afterBytes.map env.contentDigest

def observeEntries (root:RootDir) (rows:List EntryRow) :
    List PromotionEntry → Promotion (List AffectedPath×Bool)
 | [] => pure ([],true)
 | entry::entries => do
   let observed ← currentDigest env .snapshot (joinRel root entry.relativePath)
   let planned:=rows.find? (·.relativePath=entry.relativePath)
   let (affected,matched) ← observeEntries root rows entries
   pure (⟨entry.relativePath,planned.bind (·.expectedBeforeDigest),expectedAfter env entry,
    observed⟩::affected,observed=expectedAfter env entry && matched)

def verifyResult : Promotion (Digest×List AffectedPath) := do
 let snapshot ← workspaceSnapshotRoot env root req.workspaceId
 let rows ← loadEntries journalId
 let (affected,matched) ← observeEntries env root rows req.entries
 if ¬ matched then throw .stale
 else if snapshot≠req.expectedResultRootDigest then throw .stale
 else pure (snapshot,affected)

def affectedPaths (root:RootDir) : List EntryRow → Promotion (List AffectedPath)
 | [] => pure []
 | row::rows => do
   let observed ← observedDigest env .receipt (joinRel root row.relativePath)
   let affected ← affectedPaths root rows
   pure (⟨row.relativePath,row.expectedBeforeDigest,row.expectedAfterDigest,observed⟩ ::
    affected)

def affectedPathsFor : Promotion (List AffectedPath) := do
 let rows ← loadEntries journalId
 affectedPaths env root rows

def observedRoot (workspaceId:String) (base:Digest) : Promotion Digest := do
 match ← (workspaceSnapshotRoot env root workspaceId).attempt with
 | .ok snapshot => pure snapshot
 | .error _ => pure base

def requestReceipt (journalObjectDigest:Digest) (affected:List AffectedPath)
    (outcome:ReceiptOutcome) : ApplyReceipt :=
 ⟨req.runId,req.approvalId,req.workspaceId,req.candidateManifestObjectDigest,
  req.baseSnapshotRootDigest,req.changeSetObjectDigest,journalObjectDigest,
  req.promotionMode,affected,req.now,outcome⟩

def persistReceipt (state:JournalState) (receipt:ApplyReceipt) : Promotion Unit := do
 fallible env .receipt fun w=>.ok ((),w)
 setJournalState journalId state (some (env.envelopeDigest receipt))

def finish (state:JournalState) (lease:RecoveryState)
    (outcome:Digest → List AffectedPath → ReceiptOutcome) : Promotion ApplyOutcome := do
 let observed ← observedRoot env req.root req.workspaceId req.baseSnapshotRootDigest
 let affected ← affectedPathsFor env req.root journalId
 let receipt:=requestReceipt req (env.journalObjectDigest journalId) affected
  (outcome observed affected)
 persistReceipt env journalId state receipt
 dropLease req.workspaceId lease
 pure ⟨receipt,journalId,false⟩

def finishStale : Promotion ApplyOutcome :=
 finish env req journalId .stale .ready fun observed _=>.stale observed

def finishRolledBack : Promotion ApplyOutcome :=
 finish env req journalId .rolledBack .ready fun observed _=>.rolledBack observed

def finishManual : Promotion ApplyOutcome :=
 finish env req journalId .manualRecoveryRequired .manualRecoveryRequired
  fun observed affected=>.manualRecoveryRequired observed (env.evidenceDigest affected)

def committedReceipt (snapshot:Digest) (affected:List AffectedPath) :
    Promotion ApplyReceipt := do
 let rows ← loadEntries journalId
 pure (requestReceipt req (env.journalPlanDigest rows) affected (.committed snapshot))

def removeStage : Promotion Unit :=
 fallible env .stage fun w=>
  .ok ((),{ w with
   files:=fun loc=>if loc.root=stage.root ∧ stage.path <:+ loc.path then none else w.files loc })

def abort (rolledBack:Promotion ApplyOutcome) : PromotionError → Promotion ApplyOutcome
 | .injectedCrash checkpoint => throw (.injectedCrash checkpoint)
 | _ => do
   match ← (rollbackJournal env req req.root journalId).attempt with
   | .ok () => rolledBack
   | .error (.injectedCrash checkpoint) => throw (.injectedCrash checkpoint)
   | .error e =>
     if e=externalConflict then finishManual env req journalId
     else finishStale env req journalId

def concludeCommitted (snapshot:Digest) (affected:List AffectedPath) :
    Promotion ApplyOutcome := do
 maybeCrash req .committedBeforeReceipt
 let receipt ← committedReceipt env req journalId snapshot affected
 persistReceipt env journalId .committed receipt
 maybeCrash req .receiptBeforeLeaseDrop
 dropLease req.workspaceId .ready
 let _ ← (removeStage env (stagingDir req.workspaceRoot req.workspaceId)).attempt
 pure ⟨receipt,journalId,false⟩

def verifyPhase : Promotion ApplyOutcome := do
 setJournalState journalId .verifying none
 maybeCrash req .verifying
 match ← (verifyResult env req req.root journalId).attempt with
 | .ok (snapshot,affected) => concludeCommitted env req journalId snapshot affected
 | .error e => abort env req journalId (finishStale env req journalId) e

def commitPhase (prepared:List PreparedEntry) : Promotion ApplyOutcome := do
 match ← (prepared.forM (reccheckPrecondition env req.root)).attempt with
 | .error _ => finishStale env req journalId
 | .ok _ => do
   setJournalState journalId .committing none
   maybeCrash req .committing
   match ← (commitEntries env req req.root (stagingDir req.workspaceRoot req.workspaceId)
     journalId prepared).attempt with
   | .ok () => verifyPhase env req journalId
   | .error e => abort env req journalId (finishRolledBack env req journalId) e

def mutateHook : Promotion Unit :=
 match req.mutateAfterPrepared with
 | some mutate => write fun w=>
   let tree:=mutate fun path=>w.files ⟨req.root,path⟩
   { w with files:=fun loc=>if loc.root=req.root then tree loc.path else w.files loc }
 | none => pure ()

def journalPlan (grantDigest:Digest) : JournalPlan :=
 ⟨req.projectId,req.runId,req.workspaceId,grantDigest,req.candidateManifestObjectDigest,
  req.changeSetObjectDigest,req.baseSnapshotRootDigest,req.expectedResultRootDigest,
  req.promotionMode⟩

def sameVolume : Promotion Unit := fallible env .stage fun w=>.ok ((),w)

def applyJournaled : Promotion ApplyOutcome := do
 let stage:=stagingDir req.workspaceRoot req.workspaceId
 storeApplyContext journalId
  ⟨req.approvalId,req.signatureKeyId,req.signerCertificateObjectDigest⟩
 createDirAll env .stage stage.root stage.path
 sameVolume env
 match ← (prepareEntries env req.root stage journalId 0 req.entries).attempt with
 | .error e => do
   let _ ← (finishStale env req journalId).attempt
   throw e
 | .ok prepared => do
   setJournalState journalId .prepared none
   fsyncDirectory env .stage stage
   maybeCrash req .prepared
   mutateHook req
   commitPhase env req journalId prepared

def applyPromotion : Promotion ApplyOutcome := do
 let grantDigest ← verifyGrant env req
 openRoot env req.root
 let journalId ← beginJournal (journalPlan req grantDigest)
 applyJournaled env req journalId

end EpistemicCompiler.PromotionApply
