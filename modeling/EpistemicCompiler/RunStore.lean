import EpistemicCompiler.RunReducer
import EpistemicCompiler.StoreTransactions

set_option autoImplicit false

/-!
# The run repository

The rows of `runs`, `run_events` and `run_artifacts` of one project, with the constraints and
the trigger that reject a write, and the two transactions that write them.
-/
namespace EpistemicCompiler.RunStore
open RunStates RunEventRegistry ArtifactRoles RunReducer FallibleRuns StoreTransactions

/-- A row of `runs`; the check constraint ties the terminal result to the state. -/
structure RunRow where
 runId : String
 workspaceId : String
 state : RunState
 stateVersion : ℕ
 taskArtifactDigest : ObjectDigest
 snapshotId : Option String
 requirementLedgerDigest : Option ObjectDigest
 evidenceGraphDigest : Option ObjectDigest
 contextPacketDigest : Option ObjectDigest
 currentCandidateManifestDigest : Option ObjectDigest
 verdictReportDigest : Option ObjectDigest
 terminalResultDigest : Option ObjectDigest
 createdAt : String
 updatedAt : String
 succeeded_iff : state=.succeeded ↔ terminalResultDigest.isSome

structure RunEventRow where
 eventId : String
 runId : String
 sequence : ℕ
 eventType : RunEventType
 actorType : RunActorType
 actorId : String
 causationId : Option String
 correlationId : Option String
 payloadDigest : ObjectDigest
 occurredAt : String

structure RunArtifactRow where
 runId : String
 role : String
 artifactDigest : ObjectDigest
 createdAt : String

structure RunTables where
 runs : List RunRow
 runEvents : List RunEventRow
 runArtifacts : List RunArtifactRow

/-- What a transaction reads from the other tables of its project. An artifact that exists may
have no schema name. -/
structure StoreReads where
 projectTrusted : Option Bool
 workspaceExists : String → Bool
 artifactSchema : ObjectDigest → Option (Option String)
 snapshotByManifest : String → ObjectDigest → Option String
 snapshotByArtifact : ObjectDigest → Option String
 snapshotInWorkspace : String → String → Bool

inductive RunStoreError where
 | notFound
 | untrustedProject
 | stateVersionConflict
 | rolesMissing (state:RunState)
 | unknownRole (role:String)
 | singularRole (role:String) (count:ℕ)
 | terminalResultRequired
 | reduce (error:ReduceError)
 | constraint (table:String)

variable (reads:StoreReads) (runId:String)

def RunTables.findRun (tables:RunTables) (runId:String) : Option RunRow :=
 tables.runs.find? (·.runId=runId)

def artifactExists (digest:ObjectDigest) : Bool :=
 (reads.artifactSchema digest).isSome

def digestForRole (artifacts:VerifiedArtifactSet) (role:String) : Option ObjectDigest :=
 (artifacts.bindings.find? (·.role=role)).map (·.objectDigest)

def resolveSnapshotId (workspaceId:String) (artifacts:VerifiedArtifactSet)
    (inherited:Option String) : Option String :=
 match digestForRole artifacts "snapshot-manifest" with
 | some manifest =>
   reads.snapshotByManifest workspaceId manifest <|>
    reads.snapshotByArtifact manifest <|> inherited
 | none => inherited

def loadArtifactRoles (tables:RunTables) (runId:String) :
    Except RunStoreError (List ArtifactRoleProjection) :=
 let rows:=(tables.runArtifacts.filter (·.runId=runId)).insertionSort fun left right=>
  left.role<right.role ∨
   (left.role=right.role ∧ left.artifactDigest.text ≤ right.artifactDigest.text)
 (groupBindings (rows.map fun row=>⟨row.role,row.artifactDigest⟩)).mapM fun entry=>
  (projectRole entry).mapError .reduce

def loadRunProjection (projectId:String) (tables:RunTables) (runId:String) :
    Except RunStoreError (Option RunProjection) :=
 match tables.findRun runId with
 | none => .ok none
 | some row => do
   let roles ← loadArtifactRoles tables runId
   return some
    { projectId:=projectId
      runId:=row.runId
      workspaceId:=row.workspaceId
      snapshotId:=row.snapshotId
      state:=row.state
      stateVersion:=row.stateVersion
      artifactRoles:=roles
      activeOperationId:=none
      terminalResultObjectDigest:=row.terminalResultDigest
      updatedAt:=row.updatedAt }

def runRoleEntries (role:String) : List ArtifactRoleEntry :=
 artifactRoleRegistry.filter fun entry=>entry.ownerKind=.run ∧ entry.role=role

def fitsRunRole (binding:VerifiedArtifactBinding) : Bool :=
 match reads.artifactSchema binding.objectDigest with
 | none => false
 | some schema => (runRoleEntries binding.role).any fun entry=>
   entry.artifactSchemaName=none ∨ entry.artifactSchemaName=schema

def overfillsRole (rows:List RunArtifactRow) (role:String) : Bool :=
 rows.any (fun row=>row.runId=runId ∧ row.role=role) ∧
  (runRoleEntries role).any fun entry=>entry.cardinality≠.oneOrMore

def insertRunArtifact (createdAt:String) (rows:List RunArtifactRow)
    (binding:VerifiedArtifactBinding) : Except RunStoreError (List RunArtifactRow) :=
 if ¬ fitsRunRole reads binding ∨ overfillsRole runId rows binding.role ∨
   rows.any (fun row=>row.runId=runId ∧ row.role=binding.role ∧
    row.artifactDigest=binding.objectDigest) then .error (.constraint "run_artifacts")
 else .ok (rows++[⟨runId,binding.role,binding.objectDigest,createdAt⟩])

def replaceRunArtifacts (artifacts:VerifiedArtifactSet) (createdAt:String)
    (rows:List RunArtifactRow) : Except RunStoreError (List RunArtifactRow) :=
 artifacts.bindings.foldlM (insertRunArtifact reads runId createdAt)
  (rows.filter (·.runId≠runId))

def insertRunEvent (rows:List RunEventRow) (row:RunEventRow) :
    Except RunStoreError (List RunEventRow) :=
 if rows.any (fun r=>r.eventId=row.eventId ∨
   (r.runId=row.runId ∧ r.sequence=row.sequence)) then .error (.constraint "run_events")
 else .ok (rows++[row])

def enforceCardinality (state:RunState) (artifacts:VerifiedArtifactSet) :
    Except RunStoreError Unit :=
 if ¬ artifactRolesSatisfyState (presentRolesOf artifacts) state then .error (.rolesMissing state)
 else (presentRolesOf artifacts).eraseDups.forM fun role=>
  let count:=(presentRolesOf artifacts).count role
  match artifactRoleRegistry.find? (fun entry=>entry.ownerKind=.run ∧ entry.role=role) with
  | none => .error (.unknownRole role)
  | some registered =>
    if registered.cardinality≠.oneOrMore ∧ count > 1 then .error (.singularRole role count)
    else .ok ()

def terminalResult (next:RunProjection) (artifacts:VerifiedArtifactSet) :
    Except RunStoreError
     { terminal : Option ObjectDigest // next.state=.succeeded ↔ terminal.isSome } :=
 if h : next.state=.succeeded then
  match next.terminalResultObjectDigest <|> digestForRole artifacts "successful-run-result" with
  | some digest => .ok ⟨some digest,by simp [h]⟩
  | none => .error .terminalResultRequired
 else .ok ⟨none,by simp [h]⟩

section

variable (reads:StoreReads) (projectId:String)

structure CreateRunRowInput where
 runId : String
 workspaceId : String
 taskEnvelopeDigest : ObjectDigest
 createdAt : String

def CreateRunRowInput.fresh (projectId:String) (input:CreateRunRowInput) : CreateRunInput :=
 ⟨projectId,input.runId,input.workspaceId,input.createdAt,input.taskEnvelopeDigest⟩

def createRun (input:CreateRunRowInput) (tables:RunTables) :
    Except RunStoreError (RunProjection×RunTables) := do
 match reads.projectTrusted with
 | none => .error .notFound
 | some false => .error .untrustedProject
 | some true =>
   if ¬ artifactExists reads input.taskEnvelopeDigest then .error .notFound
   else if (tables.findRun input.runId).isSome ∨ ¬ reads.workspaceExists input.workspaceId then
    .error (.constraint "runs")
   else
    let row : RunRow :=
     { runId:=input.runId, workspaceId:=input.workspaceId, state:=.created
       stateVersion:=0, taskArtifactDigest:=input.taskEnvelopeDigest, snapshotId:=none
       requirementLedgerDigest:=none, evidenceGraphDigest:=none
       contextPacketDigest:=none, currentCandidateManifestDigest:=none
       verdictReportDigest:=none, terminalResultDigest:=none, createdAt:=input.createdAt
       updatedAt:=input.createdAt, succeeded_iff:=by decide }
    let artifacts ← insertRunArtifact reads input.runId input.createdAt tables.runArtifacts
     ⟨"task-envelope",input.taskEnvelopeDigest⟩
    return (createRunProjection (input.fresh projectId),
     { tables with runs:=tables.runs++[row], runArtifacts:=artifacts })

structure PersistRunEventInput where
 event : RunDomainEvent
 artifacts : VerifiedArtifactSet
 payloadDigest : ObjectDigest

variable (input:PersistRunEventInput)

def RunRow.advance (row:RunRow) (next:RunProjection) (artifacts:VerifiedArtifactSet)
    (taskArtifactDigest:ObjectDigest) (snapshotId:Option String)
    (terminal:{ terminal : Option ObjectDigest //
     next.state=.succeeded ↔ terminal.isSome }) : RunRow :=
 { row with
   state:=next.state
   stateVersion:=next.stateVersion
   taskArtifactDigest:=taskArtifactDigest
   snapshotId:=snapshotId
   requirementLedgerDigest:=digestForRole artifacts "requirement-ledger"
   evidenceGraphDigest:=digestForRole artifacts "evidence-graph"
   contextPacketDigest:=digestForRole artifacts "context-packet"
   currentCandidateManifestDigest:=digestForRole artifacts "candidate-manifest"
   verdictReportDigest:=digestForRole artifacts "verdict-report"
   terminalResultDigest:=terminal.1
   updatedAt:=next.updatedAt
   succeeded_iff:=terminal.2 }

def referencedRoles : List String := [
 "requirement-ledger","evidence-graph","context-packet","candidate-manifest",
 "verdict-report"]

def updateRun (current next:RunProjection) (runs:List RunRow) :
    Except RunStoreError (List RunRow) := do
 let terminal ← terminalResult next input.artifacts
 match digestForRole input.artifacts "task-envelope" with
 | none => .error (.constraint "runs")
 | some task =>
   let snapshotId:=resolveSnapshotId reads next.workspaceId input.artifacts
    (next.snapshotId <|> current.snapshotId)
   if (snapshotId.any fun s=>¬ reads.snapshotInWorkspace next.workspaceId s) then
    .error (.constraint "runs")
   else if ¬ ((some task::terminal.1::referencedRoles.map (digestForRole input.artifacts)).all
     fun digest=>digest.all (artifactExists reads)) then .error (.constraint "runs")
   else
    let hit:=fun (row:RunRow)=>row.runId=input.event.runId ∧
     row.stateVersion=input.event.expectedStateVersion
    if (runs.filter hit).length≠1 then .error .stateVersionConflict
    else .ok (runs.map fun row=>
     if hit row then row.advance next input.artifacts task snapshotId terminal else row)

def eventRow (sequence:ℕ) : RunEventRow :=
 { eventId:=input.event.eventId
   runId:=input.event.runId
   sequence:=sequence
   eventType:=input.event.eventType
   actorType:=input.event.actorType
   actorId:=input.event.actorId
   causationId:=input.event.causationId
   correlationId:=input.event.correlationId
   payloadDigest:=input.payloadDigest
   occurredAt:=input.event.occurredAt }

def persistRunEvent (tables:RunTables) : Except RunStoreError (RunProjection×RunTables) := do
 if input.event.projectId≠projectId then .error .notFound
 else
  match ← loadRunProjection projectId tables input.event.runId with
  | none => .error .notFound
  | some current =>
    if current.stateVersion≠input.event.expectedStateVersion then .error .stateVersionConflict
    else if ¬ artifactExists reads input.payloadDigest then .error .notFound
    else
     let (next,_) ← (reduceRun current input.event input.artifacts).mapError .reduce
     enforceCardinality next.state input.artifacts
     let runs ← updateRun reads input current next tables.runs
     let runEvents ← insertRunEvent tables.runEvents (eventRow input next.stateVersion)
     let runArtifacts ← replaceRunArtifacts reads input.event.runId input.artifacts
      input.event.occurredAt tables.runArtifacts
     let tables' : RunTables:=⟨runs,runEvents,runArtifacts⟩
     match ← loadRunProjection projectId tables' input.event.runId with
     | none => .error .stateVersionConflict
     | some stored => return (stored,tables')

end

end EpistemicCompiler.RunStore
