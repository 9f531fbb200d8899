import Mathlib.Data.List.Sort
import EpistemicCompiler.FallibleRuns
import EpistemicCompiler.RunStates
import EpistemicCompiler.StoreTransactions

set_option autoImplicit false

/-!
# The operation store

The rows of the `operations` table and the calls that write them. Timestamps are canonical
fixed-width strings, ordered like time. A lease token is the byte string behind its base64url text.
-/
namespace EpistemicCompiler.OperationStore
open RunStates FallibleRuns StoreTransactions

abbrev Timestamp := String
abbrev LeaseToken := List UInt8

inductive OperationStatus where
 | ready
 | leased (leaseOwner:String) (leaseUntil:Timestamp) (leaseTokenHash:String)
 | succeeded (resultDigest:String)
 | failed (errorDigest:String)
 | cancelled
 | unknown (errorDigest:String)
 deriving DecidableEq

/-- A row; `reclaimable` is tied to the kind by a foreign key into the kind registry. -/
structure OperationRow where
 projectId : String
 operationId : String
 runId : String
 operationKind : OperationKind
 dedupeKey : String
 inputDigest : String
 status : OperationStatus
 reclaimable : Bool
 leaseGeneration : ℕ
 createdAt : Timestamp
 updatedAt : Timestamp
 reclaimable_eq : reclaimable=decide (operationKind∈reclaimableOperationKinds)
 deriving DecidableEq

variable (row:OperationRow)

abbrev OperationTable := List OperationRow

inductive StoreError where
 | notFound
 | conflict (code message:String)
 | lease (message:String)
 deriving DecidableEq

structure OtherTables where
 runExists : String → Bool
 artifactExists : String → Bool

structure EnqueueOperationInput where
 operationId : String
 runId : String
 operationKind : OperationKind
 dedupeKey : String
 inputDigest : String
 createdAt : Timestamp

structure LeaseOperationInput where
 operationId : String
 owner : String
 leaseUntil : Timestamp
 now : Timestamp

structure LeaseResult where
 token : LeaseToken
 generation : ℕ
 leaseUntil : Timestamp

structure HeartbeatInput where
 operationId : String
 token : LeaseToken
 owner : String
 leaseUntil : Timestamp
 now : Timestamp
 leaseGeneration : Option ℕ
 observedInputDigest : Option String

structure CompleteOperationInput where
 operationId : String
 token : LeaseToken
 owner : String
 resultDigest : String
 now : Timestamp
 updatedAt : Timestamp
 leaseGeneration : Option ℕ

structure FailOperationInput where
 operationId : String
 token : LeaseToken
 owner : String
 errorDigest : String
 now : Timestamp
 updatedAt : Timestamp
 leaseGeneration : Option ℕ

structure MarkOperationUnknownInput where
 operationId : String
 errorDigest : String
 updatedAt : Timestamp

variable (tables:OtherTables)

def OperationRow.hasKey (projectId operationId:String) : Bool :=
 row.projectId=projectId ∧ row.operationId=operationId

def readOperation (table:OperationTable) (projectId operationId:String) :
    Option OperationRow :=
 table.find? (·.hasKey projectId operationId)

def requireOperation (table:OperationTable) (projectId operationId:String) :
    Except StoreError OperationRow :=
 match readOperation table projectId operationId with
 | none => .error .notFound
 | some row => .ok row

/-- An `UPDATE` of the row with the given key. The generation and digest that two of the
statements add to their `WHERE` clause were read from that row in the same transaction. -/
def updateOperation (table:OperationTable) (projectId operationId:String)
    (update:OperationRow → OperationRow) : OperationTable :=
 table.map fun row=>if row.hasKey projectId operationId then update row else row

def OperationRow.setStatus (status:OperationStatus) (updatedAt:Timestamp) : OperationRow :=
 { row with status:=status, updatedAt:=updatedAt }

def OperationRow.grantLease (owner:String) (leaseUntil:Timestamp) (tokenHash:String)
    (generation:ℕ) (now:Timestamp) : OperationRow :=
 { row with
   status:=.leased owner leaseUntil tokenHash
   leaseGeneration:=generation
   updatedAt:=now }

def OperationRow.renewLease (leaseUntil now:Timestamp) : OperationRow :=
 match row.status with
 | .leased owner _ hash => row.setStatus (.leased owner leaseUntil hash) now
 | status => row.setStatus status now

def OperationRow.expireLease (owner:String) (leaseUntil:Timestamp) : OperationRow :=
 match row.status with
 | .leased storedOwner _ hash =>
   if storedOwner=owner then { row with status:=.leased storedOwner leaseUntil hash } else row
 | _ => row

section

variable (leaseTokenHash:LeaseToken → String)

def assertLiveLease (row:OperationRow) (token:LeaseToken) (owner:String)
    (now:Timestamp) : Except StoreError Unit :=
 match row.status with
 | .leased storedOwner leaseUntil storedHash =>
   if now > leaseUntil then .error (.lease "lease expired")
   else if storedOwner≠owner then .error (.lease "lease owner mismatch")
   else if leaseTokenHash token≠storedHash then .error (.lease "lease token mismatch")
   else .ok ()
 | _ => .error (.lease "operation is not leased")

def assertLeaseGeneration (expected:Option ℕ) : Except StoreError Unit :=
 match expected with
 | none => .ok ()
 | some generation =>
   if row.leaseGeneration≠generation then .error (.lease "lease generation mismatch")
   else .ok ()

def assertObservedInput (observed:Option String) : Except StoreError Unit :=
 match observed with
 | none => .ok ()
 | some digest =>
   if row.inputDigest≠digest then .error (.lease "observed input digest mismatch")
   else .ok ()

def assertArtifactExists (digest:String) : Except StoreError Unit :=
 if tables.artifactExists digest then .ok () else .error .notFound

def assertClaimable (now:Timestamp) : Except StoreError Unit :=
 match row.status with
 | .succeeded _ | .cancelled => .error (.lease "terminal operation cannot be leased")
 | .ready => .ok ()
 | .leased _ leaseUntil _ =>
   if ¬ row.reclaimable then .error (.lease "non-reclaimable operation cannot be re-leased")
   else if now ≤ leaseUntil then .error (.lease "active lease cannot be stolen")
   else .ok ()
 | .failed _ | .unknown _ =>
   if ¬ row.reclaimable then .error (.lease "non-reclaimable operation cannot be re-leased")
   else .ok ()

end

section

variable (leaseTokenHash:LeaseToken → String)

def enqueueOperation (projectId:String) (input:EnqueueOperationInput) (table:OperationTable) :
    Except StoreError (OperationRow×OperationTable) :=
 if ¬ tables.runExists input.runId then .error .notFound
 else if ¬ tables.artifactExists input.inputDigest then .error .notFound
 else
  match readOperation table projectId input.operationId with
  | some existing =>
    if existing.inputDigest≠input.inputDigest then
     .error (.conflict "OPERATION_INPUT_CONFLICT" "operation id reused with a different input")
    else .ok (existing,table)
  | none =>
    match table.find? (fun row=>row.projectId=projectId ∧ row.runId=input.runId ∧
      row.dedupeKey=input.dedupeKey) with
    | some dedupe =>
      if dedupe.inputDigest=input.inputDigest then do
       let found ← requireOperation table projectId dedupe.operationId
       return (found,table)
      else
       .error (.conflict "OPERATION_DEDUPE_CONFLICT" "dedupe key reused with a different input")
    | none =>
      let created : OperationRow :=
       { projectId:=projectId, operationId:=input.operationId, runId:=input.runId
         operationKind:=input.operationKind, dedupeKey:=input.dedupeKey
         inputDigest:=input.inputDigest, status:=.ready
         reclaimable:=decide (input.operationKind∈reclaimableOperationKinds)
         leaseGeneration:=0, createdAt:=input.createdAt, updatedAt:=input.createdAt
         reclaimable_eq:=rfl }
      .ok (created,table++[created])

def leaseOperation (projectId:String) (input:LeaseOperationInput) (token:LeaseToken)
    (table:OperationTable) : Except StoreError (LeaseResult×OperationTable) := do
 let row ← requireOperation table projectId input.operationId
 assertClaimable row input.now
 let generation:=row.leaseGeneration+1
 return (⟨token,generation,input.leaseUntil⟩,
  updateOperation table projectId input.operationId
   (·.grantLease input.owner input.leaseUntil (leaseTokenHash token) generation input.now))

def heartbeatOperation (projectId:String) (input:HeartbeatInput) (table:OperationTable) :
    Except StoreError (Unit×OperationTable) := do
 let row ← requireOperation table projectId input.operationId
 assertLiveLease leaseTokenHash row input.token input.owner input.now
 assertLeaseGeneration row input.leaseGeneration
 assertObservedInput row input.observedInputDigest
 return ((),updateOperation table projectId input.operationId
  (·.renewLease input.leaseUntil input.now))

def completeOperation (tables:OtherTables) (projectId:String) (input:CompleteOperationInput)
    (table:OperationTable) : Except StoreError (OperationRow×OperationTable) := do
 let row ← requireOperation table projectId input.operationId
 assertLiveLease leaseTokenHash row input.token input.owner input.now
 assertLeaseGeneration row input.leaseGeneration
 assertArtifactExists tables input.resultDigest
 let table':=updateOperation table projectId input.operationId
  (·.setStatus (.succeeded input.resultDigest) input.updatedAt)
 let done ← requireOperation table' projectId input.operationId
 return (done,table')

def failOperation (tables:OtherTables) (projectId:String) (input:FailOperationInput)
    (table:OperationTable) : Except StoreError (OperationRow×OperationTable) := do
 let row ← requireOperation table projectId input.operationId
 assertLiveLease leaseTokenHash row input.token input.owner input.now
 assertLeaseGeneration row input.leaseGeneration
 assertArtifactExists tables input.errorDigest
 let table':=updateOperation table projectId input.operationId
  (·.setStatus (.failed input.errorDigest) input.updatedAt)
 let done ← requireOperation table' projectId input.operationId
 return (done,table')

def markOperationUnknown (projectId:String) (input:MarkOperationUnknownInput)
    (table:OperationTable) : Except StoreError (OperationRow×OperationTable) := do
 let _ ← requireOperation table projectId input.operationId
 assertArtifactExists tables input.errorDigest
 let table':=updateOperation table projectId input.operationId
  (·.setStatus (.unknown input.errorDigest) input.updatedAt)
 let done ← requireOperation table' projectId input.operationId
 return (done,table')

def expireLeasesForOwner (owner:String) (leaseUntil:Timestamp) (table:OperationTable) :
    OperationTable :=
 table.map (·.expireLease owner leaseUntil)

end

section

variable (leaseTokenHash:LeaseToken → String)

inductive OperationCall where
 | enqueue (tables:OtherTables) (projectId:String) (input:EnqueueOperationInput)
 | lease (projectId:String) (input:LeaseOperationInput) (token:LeaseToken)
 | heartbeat (projectId:String) (input:HeartbeatInput)
 | complete (tables:OtherTables) (projectId:String) (input:CompleteOperationInput)
 | fail (tables:OtherTables) (projectId:String) (input:FailOperationInput)
 | markUnknown (tables:OtherTables) (projectId:String) (input:MarkOperationUnknownInput)
 | expireLeases (owner:String) (leaseUntil:Timestamp)

def applyCall (table:OperationTable) : OperationCall → OperationTable
 | .enqueue tables projectId input =>
   (executeWrite (enqueueOperation tables projectId input) table).2
 | .lease projectId input token =>
   (executeWrite (leaseOperation leaseTokenHash projectId input token) table).2
 | .heartbeat projectId input =>
   (executeWrite (heartbeatOperation leaseTokenHash projectId input) table).2
 | .complete tables projectId input =>
   (executeWrite (completeOperation leaseTokenHash tables projectId input) table).2
 | .fail tables projectId input =>
   (executeWrite (failOperation leaseTokenHash tables projectId input) table).2
 | .markUnknown tables projectId input =>
   (executeWrite (markOperationUnknown tables projectId input) table).2
 | .expireLeases owner leaseUntil => expireLeasesForOwner owner leaseUntil table

def runCalls (table:OperationTable) (calls:List OperationCall) : OperationTable :=
 calls.foldl (applyCall leaseTokenHash) table

end

end EpistemicCompiler.OperationStore
