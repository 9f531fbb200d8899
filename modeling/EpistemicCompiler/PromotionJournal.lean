import EpistemicCompiler.PromotionFiles
import Mathlib.Data.List.Sort

set_option autoImplicit false

/-!
# The promotion journal

The rows of `promotion_journals`, `promotion_entries` and `registered_workspaces`, the objects
kept for a rollback, and what is consumed by a grant. Every write is one step.
-/
namespace EpistemicCompiler.PromotionJournal
open StepPrograms StepPrograms.StepProgram PromotionWorld

variable (store:Store) (journalId:ℕ) (workspaceId:String) (sequence:ℕ)
 (recoveryState:RecoveryState) (state:JournalState) (receipt:Option Digest)

def Store.setJournal : Store :=
 { store with journals:=store.journals.map fun row=>
    if row.journalId=journalId then
     { row with state:=state, receiptObjectDigest:=receipt }
    else row }

def Store.setEntry (state:EntryState) : Store :=
 { store with entries:=fun j=>
    if j=journalId then (store.entries j).map fun row=>
     if row.sequence=sequence then { row with entryState:=state } else row
    else store.entries j }

def Store.setWorkspace (activeJournalId:Option ℕ) : Store :=
 { store with workspaces:=store.workspaces.map fun row=>
    if row.workspaceId=workspaceId then
     { row with recoveryState:=recoveryState, activeJournalId:=activeJournalId }
    else row }

def Store.setRecovery : Store :=
 { store with workspaces:=store.workspaces.map fun row=>
    if row.workspaceId=workspaceId then { row with recoveryState:=recoveryState } else row }

def Store.addEntry (row:EntryRow) : Store :=
 { store with entries:=fun j=>
    if j=journalId then store.entries j++[row] else store.entries j }

def Store.setMeta (captured:CapturedMetadata) : Store :=
 { store with entryMeta:=fun j s=>
    if j=journalId ∧ s=sequence then some captured else store.entryMeta j s }

def Store.setContext (context:ApplyContext) : Store :=
 { store with applyContext:=fun j=>
    if j=journalId then some context else store.applyContext j }

def Store.putObject (digest:Digest) (bytes:Bytes) : Store :=
 { store with cas:=fun d=>if d=digest then some bytes else store.cas d }

def Store.decideSession (hash decisionDigest:Digest) : Store :=
 { store with sessions:=fun h=>
    if h=hash then some (.decided decisionDigest) else store.sessions h }

def Store.lookupWorkspace : Option WorkspaceRow :=
 store.workspaces.find? (·.workspaceId=workspaceId)

def listNonterminal : Promotion (List JournalRow) :=
 read fun w=>w.store.journals.filter (! ·.state.terminal)

def workspaceRootPath : Promotion (Option String) :=
 read fun w=>(Store.lookupWorkspace w.store workspaceId).map (·.rootPath)

def loadEntries : Promotion (List EntryRow) :=
 read fun w=>(w.store.entries journalId).insertionSort (·.sequence ≤ ·.sequence)

def getCasObject (digest:Digest) : Promotion Bytes :=
 atomic fun w=>
  match w.store.cas digest with
  | some bytes => (.ok bytes,w)
  | none => (.error (.runner .notFound),w)

def loadEntryMeta : Promotion (Option CapturedMetadata) :=
 read fun w=>w.store.entryMeta journalId sequence

def loadApplyContext : Promotion (Option ApplyContext) :=
 read fun w=>w.store.applyContext journalId

def receiptedLease (workspace:WorkspaceRow) : List (String×JournalState) :=
 (store.journals.filter fun row=>workspace.activeJournalId=some row.journalId ∧
  row.receiptObjectDigest.isSome ∧ row.state.terminal).map
   fun row=>(workspace.workspaceId,row.state)

def listReceiptedHeldLeases : Promotion (List (String×JournalState)) :=
 read fun w=>w.store.workspaces.flatMap (receiptedLease w.store)

def updateStore (f:Store → Store) : Promotion Unit :=
 write fun w=>{ w with store:=f w.store }

def putCasObject (env:Env) (bytes:Bytes) : Promotion Digest :=
 atomic fun w=>(.ok (env.contentDigest bytes),
  { w with store:=Store.putObject w.store (env.contentDigest bytes) bytes })

def setJournalState : Promotion Unit :=
 updateStore fun store=>Store.setJournal store journalId state receipt

def setEntryState (state:EntryState) : Promotion Unit :=
 updateStore fun store=>Store.setEntry store journalId sequence state

def insertEntry (row:EntryRow) : Promotion Unit :=
 updateStore fun store=>Store.addEntry store journalId row

def storeEntryMeta (captured:CapturedMetadata) : Promotion Unit :=
 updateStore fun store=>Store.setMeta store journalId sequence captured

def storeApplyContext (context:ApplyContext) : Promotion Unit :=
 updateStore fun store=>Store.setContext store journalId context

def dropLease : Promotion Unit :=
 updateStore fun store=>Store.setWorkspace store workspaceId recoveryState none

def setWorkspaceRecovery : Promotion Unit :=
 updateStore fun store=>Store.setRecovery store workspaceId recoveryState

structure JournalPlan where
 projectId : String
 runId : String
 workspaceId : String
 approvalObjectDigest : Digest
 candidateManifestObjectDigest : Digest
 changeSetObjectDigest : Digest
 baseSnapshotRootDigest : Digest
 expectedResultRootDigest : Digest
 promotionMode : String

variable (plan:JournalPlan)

def JournalPlan.row (journalId:ℕ) (state:JournalState) (receipt:Option Digest) : JournalRow :=
 ⟨journalId,plan.projectId,plan.runId,plan.workspaceId,plan.approvalObjectDigest,
  plan.candidateManifestObjectDigest,plan.changeSetObjectDigest,plan.baseSnapshotRootDigest,
  plan.expectedResultRootDigest,plan.promotionMode,state,receipt⟩

def Store.openJournal : Store :=
 { Store.setWorkspace store plan.workspaceId .reconciling (some store.nextJournal) with
   journals:=store.journals++[plan.row store.nextJournal .preparing none]
   nextJournal:=store.nextJournal+1 }

def beginJournal : Promotion ℕ :=
 atomic fun w=>
  match Store.lookupWorkspace w.store plan.workspaceId with
  | none => (.error (.runner .notFound),w)
  | some row =>
    if row.recoveryState≠.ready then (.error (.runner .conflict),w)
    else (.ok w.store.nextJournal,{ w with store:=Store.openJournal w.store plan })

def consumeGrant (grantDigest:Digest) : Promotion Unit :=
 atomic fun w=>
  if grantDigest∈w.store.consumedGrants then (.error (.runner .conflict),w)
  else
   let store:={ w.store with consumedGrants:=w.store.consumedGrants++[grantDigest] }
   (.ok (),{ w with store:=store })

def consumeSessionNonce (env:Env) (nonce:String) (decisionDigest:Digest) :
    Promotion Unit :=
 atomic fun w=>
  match w.store.sessions (env.nonceHash nonce) with
  | none => (.error (.runner .notFound),w)
  | some .created | some .displayed =>
    (.ok (),{ w with store:=Store.decideSession w.store (env.nonceHash nonce) decisionDigest })
  | some _ => (.error (.runner .conflict),w)

end EpistemicCompiler.PromotionJournal
