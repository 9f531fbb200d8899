import EpistemicCompiler.StepPrograms

set_option autoImplicit false

/-!
# The state a promotion works on

The files below a workspace root and its staging directory, the rows of the runner's store, and
what the outside world decides: digests, signatures, and which file operations fail.
-/
namespace EpistemicCompiler.PromotionWorld
open StepPrograms

abbrev Bytes := List UInt8
abbrev Digest := String

/-- The components of a path, the innermost first. Names that NTFS takes for one, whatever their
case, are spelled alike. -/
abbrev Path := List String

/-- A workspace root, or the directory `.pi-hec-promote-<workspace>` in its parent. -/
inductive RootDir where
 | workspace (path:String)
 | staging (path workspaceId:String)
 deriving DecidableEq

structure Location where
 root : RootDir
 path : Path
 deriving DecidableEq

structure FileNode where
 bytes : Bytes
 identity : ℕ
 securityDescriptor : Bytes
 streams : List (String×Bytes)
 reparseTag : Option ℕ
 deriving DecidableEq

inductive Node where
 | directory
 | file (node:FileNode)
 deriving DecidableEq

def Location.parent (loc:Location) : Location := { loc with path:=loc.path.tail }

def joinRel (root:RootDir) (relative:Path) : Location := ⟨root,relative⟩

/-- Whether an absolute path has a `Path::parent`: a component follows its drive or share. -/
def hasParent (path:String) : Bool :=
 match path.toList.splitOnP fun c=>c = '\\' || c = '/' with
 | []::[]::['?']::['U','N','C']::_::_::below | []::[]::_::_::below =>
   below.any fun part=>part≠[] && part≠['.']
 | parts => parts.any fun part=>part≠[] && part≠['.'] && part.getLast?≠some ':'

def stagingDir (workspaceRoot workspaceId:String) : Location :=
 if hasParent workspaceRoot then ⟨.staging workspaceRoot workspaceId,[]⟩
 else ⟨.workspace workspaceRoot,[".pi-hec-promote-"++workspaceId]⟩

def stagedFile (stage:Location) (sequence:ℕ) : Location :=
 ⟨stage.root,(toString sequence ++ ".staged")::stage.path⟩

def inParentCreateTemp (dest:Location) : Location :=
 match dest.path with
 | [] => { dest with path:=[".created.pi-hec-tmp"] }
 | name::parent => { dest with path:=("."++name ++ ".pi-hec-tmp")::parent }

/-- The part of a file name before its last dot; a leading dot alone starts no extension. -/
def fileStem (name:String) : String :=
 match name.toList.reverse.dropWhile (· ≠ '.') with
 | [] => name
 | [_] => name
 | _::stem => String.ofList stem.reverse

def withExtension (dest:Location) (extension:String) : Location :=
 match dest.path with
 | [] => dest
 | name::parent => { dest with path:=(fileStem name ++ "."++extension)::parent }

structure CapturedMetadata where
 securityDescriptor : Bytes
 securityDigest : Digest
 streams : List (String×Bytes)
 identity : ℕ
 reparseTag : Option ℕ
 isDirectory : Bool
 gitMode : String

inductive Checkpoint where
 | prepared
 | committing
 | afterFsBeforeSql (sequence:ℕ)
 | afterEntry (sequence:ℕ)
 | verifying
 | rollingBack
 | committedBeforeReceipt
 | receiptBeforeLeaseDrop
 deriving DecidableEq

inductive RunnerError where
 | notFound
 | conflict
 | canonicalJson
 | protocol (message:String)
 deriving DecidableEq

inductive ReplaceError where
 | io
 | metadata (message:String)
 | volume
 deriving DecidableEq

inductive PromotionError where
 | stale
 | denied
 | expired
 | replay
 | grantConsumed
 | subjectMismatch
 | rootSwapUnproven
 | metadata (message:String)
 | injectedCrash (checkpoint:Checkpoint)
 | protocol (message:String)
 | runner (error:RunnerError)
 | replace (error:ReplaceError)
 | io
 | presence (message:String)
 deriving DecidableEq

def externalConflict : PromotionError := .protocol "external-conflict"

inductive EntryKind where
 | replace
 | create
 | delete
 deriving DecidableEq

inductive EntryState where
 | staged
 | applied
 | rolledBack
 | externalConflict
 deriving DecidableEq

structure EntryRow where
 sequence : ℕ
 operationKind : EntryKind
 relativePath : Path
 expectedBeforeDigest : Option Digest
 expectedAfterDigest : Option Digest
 rollbackObjectDigest : Option Digest
 entryState : EntryState

inductive JournalState where
 | preparing
 | prepared
 | committing
 | verifying
 | rollingBack
 | committed
 | rolledBack
 | stale
 | manualRecoveryRequired
 deriving DecidableEq

def JournalState.terminal : JournalState → Bool
 | .committed | .rolledBack | .stale | .manualRecoveryRequired => true
 | .preparing | .prepared | .committing | .verifying | .rollingBack => false

structure JournalRow where
 journalId : ℕ
 projectId : String
 runId : String
 workspaceId : String
 approvalObjectDigest : Digest
 candidateManifestObjectDigest : Digest
 changeSetObjectDigest : Digest
 baseSnapshotRootDigest : Digest
 expectedResultRootDigest : Digest
 promotionMode : String
 state : JournalState
 receiptObjectDigest : Option Digest

inductive RecoveryState where
 | ready
 | reconciling
 | manualRecoveryRequired
 deriving DecidableEq

structure WorkspaceRow where
 workspaceId : String
 projectId : String
 rootPath : String
 recoveryState : RecoveryState
 activeJournalId : Option ℕ
 deriving DecidableEq

inductive SessionState where
 | created
 | displayed
 | decided (decisionObjectDigest:Digest)
 | expired

structure ApplyContext where
 approvalId : String
 signatureKeyId : String
 signerCertificateObjectDigest : Digest

structure Store where
 workspaces : List WorkspaceRow
 journals : List JournalRow
 nextJournal : ℕ
 entries : ℕ → List EntryRow
 entryMeta : ℕ → ℕ → Option CapturedMetadata
 applyContext : ℕ → Option ApplyContext
 cas : Digest → Option Bytes
 consumedGrants : List Digest
 sessions : Digest → Option SessionState

structure World where
 files : Location → Option Node
 nextIdentity : ℕ
 store : Store
 tick : ℕ

structure AffectedPath where
 path : Path
 beforeDigest : Option Digest
 expectedAfterDigest : Option Digest
 observedAfterDigest : Option Digest

inductive ReceiptOutcome where
 | committed (resultingRootDigest:Digest)
 | rolledBack (restoredRootDigest:Digest)
 | stale (observedWorkspaceRootDigest:Digest)
 | manualRecoveryRequired (observedWorkspaceRootDigest recoveryEvidenceObjectDigest:Digest)

structure ApplyReceipt where
 runId : String
 approvalId : String
 workspaceId : String
 candidateManifestObjectDigest : Digest
 baseSnapshotRootDigest : Digest
 changeSetObjectDigest : Digest
 journalObjectDigest : Digest
 promotionMode : String
 affectedPaths : List AffectedPath
 completedAt : String
 outcome : ReceiptOutcome

inductive Json where
 | null
 | bool (value:Bool)
 | number (value:ℕ)
 | string (value:String)
 | array (items:List Json)
 | object (fields:List (String×Json))

variable (w:World)

def Json.get (value:Json) (key:String) : Option Json :=
 match value with
 | .object fields => fields.lookup key
 | _ => none

def Json.asStr : Json → Option String
 | .string value => some value
 | _ => none

def Json.asU64 : Json → Option ℕ
 | .number value => some value
 | _ => none

def Json.asArray : Json → Option (List Json)
 | .array items => some items
 | _ => none

inductive Site where
 | exists
 | root
 | stage
 | check
 | commit
 | rollback
 | snapshot
 | receipt
 | classify
 | forward
 deriving DecidableEq

/-- `faults site n` decides whether the file operation with number `n`, met at `site`, fails. -/
abbrev Faults := Site → ℕ → Bool

structure Env where
 contentDigest : Bytes → Digest
 snapshotRootDigest : (Path → Option Node) → String → Digest
 taggedHash : String → ℕ → Json → Except RunnerError Digest
 canonicalDigest : Json → Except RunnerError Digest
 verifySignature : String → Digest → String → Bool
 requestPlatformAssertion : String → Except PromotionError Unit
 nonceHash : String → Digest
 journalObjectDigest : ℕ → Digest
 journalPlanDigest : List EntryRow → Digest
 evidenceDigest : List AffectedPath → Digest
 envelopeDigest : ApplyReceipt → Digest
 inheritedSecurity : Bytes
 clock : String
 faults : Faults

abbrev Promotion (α:Type) := StepProgram World PromotionError α

def World.tock : World := { w with tick:=w.tick+1 }

def World.spendIdentity : World := { w with nextIdentity:=w.nextIdentity+1 }

def World.setNode (loc:Location) (node:Option Node) : World :=
 { w with files:=fun l=>if l=loc then node else w.files l }

def World.content (loc:Location) : Option Bytes :=
 match w.files loc with
 | some (.file node) => some node.bytes
 | _ => none

@[simp] lemma tock_store : w.tock.store=w.store := rfl
@[simp] lemma spendIdentity_store : w.spendIdentity.store=w.store := rfl
@[simp] lemma setNode_store (loc:Location) (node:Option Node) :
  (w.setNode loc node).store=w.store := rfl

end EpistemicCompiler.PromotionWorld
