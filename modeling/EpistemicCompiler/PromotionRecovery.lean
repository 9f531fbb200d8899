import EpistemicCompiler.PromotionApply

set_option autoImplicit false

/-!
# Recovering interrupted promotions

`reconcile_all` brings every journal that has not ended to a terminal state: it rolls a commit
forward when the disk allows it and back otherwise, and then releases the leases whose journals
already carry a receipt.
-/
namespace EpistemicCompiler.PromotionRecovery
open StepPrograms StepPrograms.StepProgram PromotionWorld PromotionFiles PromotionJournal
 PromotionApply

variable (env:Env)

variable (journal:JournalRow) (root:RootDir) (stage:Location) (rootPath:String) (journalId:ℕ)
 (entry:EntryRow) (dest:Location)

def approvalIdFor : Promotion String := do
 let context ← loadApplyContext journal.journalId
 pure ((context.map (·.approvalId)).getD journal.approvalObjectDigest)

def baseReceipt (approvalId:String) (affected:List AffectedPath) (outcome:ReceiptOutcome) :
    ApplyReceipt :=
 ⟨journal.runId,approvalId,journal.workspaceId,journal.candidateManifestObjectDigest,
  journal.baseSnapshotRootDigest,journal.changeSetObjectDigest,
  env.journalObjectDigest journal.journalId,journal.promotionMode,affected,env.clock,outcome⟩

def persistTerminal (state:JournalState) (lease:RecoveryState)
    (outcome:List AffectedPath → ReceiptOutcome) : Promotion Unit := do
 let affected ← affectedPathsFor env root journal.journalId
 let approvalId ← approvalIdFor journal
 persistReceipt env journal.journalId state
  (baseReceipt env journal approvalId affected (outcome affected))
 dropLease journal.workspaceId lease

def terminalStale (observed:Digest) : Promotion Unit :=
 persistTerminal env journal root .stale .ready fun _=>.stale observed

def terminalRolledBack : Promotion Unit := do
 let snapshot ← observedRoot env root journal.workspaceId journal.baseSnapshotRootDigest
 persistTerminal env journal root .rolledBack .ready fun _=>.rolledBack snapshot

def terminalManual : Promotion Unit := do
 let snapshot ← observedRoot env root journal.workspaceId journal.baseSnapshotRootDigest
 let evidence ← affectedPathsFor env root journal.journalId
 persistTerminal env journal root .manualRecoveryRequired .manualRecoveryRequired
  fun _=>.manualRecoveryRequired snapshot (env.evidenceDigest evidence)
 setWorkspaceRecovery journal.workspaceId .manualRecoveryRequired

inductive EntryProgress where
 | after
 | pending
 | foreign
 deriving DecidableEq

def progressOf (present:Bool) (current:Option Digest) : EntryProgress :=
 match entry.operationKind with
 | .delete =>
   if current.isNone then .after
   else if current=entry.expectedBeforeDigest then .pending
   else .foreign
 | .create =>
   if current=entry.expectedAfterDigest then .after
   else if ¬ present then .pending
   else .foreign
 | .replace =>
   if current=entry.expectedAfterDigest then .after
   else if current=entry.expectedBeforeDigest then .pending
   else .foreign

def observeEntry (loc:Location) : Promotion (Bool×Option Digest) := do
 if ← pathExists env loc then do
  match ← (readBytes env .classify loc).attempt with
  | .ok bytes => pure (true,some (env.contentDigest bytes))
  | .error _ => pure (true,none)
 else pure (false,none)

def classifyCurrent : Promotion EntryProgress :=
 if entry.entryState=.applied then pure .after
 else do
  let (present,current) ← observeEntry env (joinRel root entry.relativePath)
  pure (progressOf entry present current)

def anyForeign (root:RootDir) : List EntryRow → Promotion Bool
 | [] => pure false
 | entry::entries => do
   let progress ← classifyCurrent env root entry
   if progress=.foreign then pure true else anyForeign root entries

def allAfter (root:RootDir) : List EntryRow → Promotion Bool
 | [] => pure true
 | entry::entries => do
   let progress ← classifyCurrent env root entry
   if progress=.after then allAfter root entries else pure false

def forwardReplace : Promotion Unit :=
 match entry.expectedAfterDigest with
 | none => throw (.protocol "missing after digest")
 | some digest => do
   let bytes ← getCasObject digest
   writeStagingFile env .forward (stagedFile stage entry.sequence) bytes
   restoreStoredMeta env .forward journalId entry.sequence (stagedFile stage entry.sequence)
   atomicReplace env .forward (stagedFile stage entry.sequence) dest

def forwardCreate : Promotion Unit :=
 match entry.expectedAfterDigest with
 | none => throw (.protocol "missing after digest")
 | some digest => do
   let bytes ← getCasObject digest
   writeStagingFile env .forward (inParentCreateTemp dest) bytes
   fsyncPath env .forward (inParentCreateTemp dest)
   atomicRename env .forward (inParentCreateTemp dest) dest

def forwardDelete : Promotion Unit := do
 if ← pathExists env dest then deletePath env .forward dest else pure ()

def forwardPending : Promotion Unit :=
 match entry.operationKind with
 | .replace => forwardReplace env stage journalId entry dest
 | .create => forwardCreate env entry dest
 | .delete => forwardDelete env dest

def forwardEntry : Promotion Unit :=
 if entry.entryState=.applied ∨ entry.entryState=.rolledBack then pure ()
 else do
  let progress ← classifyCurrent env root entry
  match progress with
  | .after => do
    restoreStoredMeta env .forward journalId entry.sequence (joinRel root entry.relativePath)
    setEntryState journalId entry.sequence .applied
  | .foreign => throw externalConflict
  | .pending => do
    forwardPending env stage journalId entry (joinRel root entry.relativePath)
    setEntryState journalId entry.sequence .applied

def forwardEntries (root:RootDir) (stage:Location) (journalId:ℕ) : List EntryRow → Promotion Unit
 | [] => pure ()
 | entry::entries => do
   forwardEntry env root stage journalId entry
   forwardEntries root stage journalId entries

def rollForward (entries:List EntryRow) : Promotion Unit := do
 let stage:=stagingDir rootPath journal.workspaceId
 createDirAll env .forward stage.root stage.path
 setJournalState journal.journalId .committing none
 forwardEntries env (.workspace rootPath) stage journal.journalId entries
 setJournalState journal.journalId .verifying none

/-- Rolls the entries back and ends the journal; a failure leaves it for the next run. -/
def rollbackThen (rolledBack:Promotion Unit) : Promotion Unit := do
 match ← (rollbackApplied env root journal.journalId).attempt with
 | .ok () => rolledBack
 | .error e => if e=externalConflict then terminalManual env journal root else throw e

def rollbackMismatchedSnapshot (observed:Digest) : Promotion Unit :=
 rollbackThen env journal root (terminalStale env journal root observed)

def recoverRollback : Promotion Unit := do
 setJournalState journal.journalId .rollingBack none
 rollbackThen env journal root (terminalRolledBack env journal root)

def terminalCommitted : Promotion Unit := do
 let snapshot ← workspaceSnapshotRoot env root journal.workspaceId
 if snapshot≠journal.expectedResultRootDigest then
  rollbackMismatchedSnapshot env journal root snapshot
 else persistTerminal env journal root .committed .ready fun _=>.committed snapshot

def recoverVerifying : Promotion Unit := do
 let entries ← loadEntries journal.journalId
 if ← allAfter env root entries then do
  let snapshot ← workspaceSnapshotRoot env root journal.workspaceId
  if snapshot=journal.expectedResultRootDigest then terminalCommitted env journal root
  else rollbackMismatchedSnapshot env journal root snapshot
 else rollbackThen env journal root (terminalRolledBack env journal root)

def recoverCommitting : Promotion Unit := do
 let entries ← loadEntries journal.journalId
 if ← anyForeign env (.workspace rootPath) entries then
  terminalManual env journal (.workspace rootPath)
 else do
  match ← (rollForward env journal rootPath entries).attempt with
  | .ok () => recoverVerifying env journal (.workspace rootPath)
  | .error e =>
    if e=externalConflict then terminalManual env journal (.workspace rootPath)
    else recoverRollback env journal (.workspace rootPath)

def reconcileAt : Promotion Unit :=
 match journal.state with
 | .preparing =>
   terminalStale env journal (.workspace rootPath) journal.baseSnapshotRootDigest
 | .prepared | .committing => recoverCommitting env journal rootPath
 | .verifying => recoverVerifying env journal (.workspace rootPath)
 | .rollingBack => recoverRollback env journal (.workspace rootPath)
 | .committed | .rolledBack | .stale | .manualRecoveryRequired => pure ()

def reconcileJournal : Promotion Unit := do
 match ← workspaceRootPath journal.workspaceId with
 | none => terminalStale env journal (.workspace "") journal.baseSnapshotRootDigest
 | some rootPath => do
   if ← pathExists env ⟨.workspace rootPath,[]⟩ then reconcileAt env journal rootPath
   else terminalStale env journal (.workspace rootPath) journal.baseSnapshotRootDigest

def releaseLeases : List (String×JournalState) → Promotion Unit
 | [] => pure ()
 | (workspaceId,state)::leases => do
   dropLease workspaceId
    (if state=.manualRecoveryRequired then .manualRecoveryRequired else .ready)
   releaseLeases leases

def releaseReceiptedLeases : Promotion Unit := do
 let leases ← listReceiptedHeldLeases
 releaseLeases leases

def reconcileJournals : List JournalRow → Promotion Unit
 | [] => pure ()
 | journal::journals => do
   reconcileJournal env journal
   reconcileJournals journals

def reconcileAll : Promotion Unit := do
 let journals ← listNonterminal
 reconcileJournals env journals
 releaseReceiptedLeases

end EpistemicCompiler.PromotionRecovery
