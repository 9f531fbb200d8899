import EpistemicCompiler.DagEngine
import EpistemicCompiler.OperationStore

set_option autoImplicit false

/-!
# The agent jobs of the control plane

The control plane keeps the records of a run's nodes in its store. One call spawns the ready nodes
and enqueues a job for each; others take the reports of these jobs. A call gives way to others
wherever it waits for an artifact. Events, handles and workspace leases are written but not read
here, and are left out.
-/
namespace EpistemicCompiler.AgentJobs
open ProfileCatalog FallibleRuns OperationStore DagEngine List

variable {κ:Type} {k:κ}

/-- What the calls of a run share. Node ids are distinct strings in the source. -/
structure JobScope (κ:Type) where
 projectId : String
 runId : String
 analyst : κ
 text : κ → String
 text_injective : Function.Injective text
 tables : OtherTables
 runExists : tables.runExists runId=true

structure NodeRow where
 status : NodeStatus
 attempt : ℕ
 agentId : Option String

structure JobStore (κ:Type) where
 profile : List (WorkflowNode κ)
 forbiddenActions : List String
 rows : κ → Option NodeRow
 predicates : List String
 operations : OperationTable

inductive JobError (κ:Type) where
 | dag (error:DagError κ)
 | store (error:StoreError)
 | writeForbidden
 | persistence (reason:String)
 deriving DecidableEq

def currentRecord (s:JobStore κ) (nodeId:κ) : NodeRecord κ :=
 match s.rows nodeId with
 | some row => ⟨nodeId,row.status,row.attempt,row.agentId⟩
 | none => ⟨nodeId,.pending,0,none⟩

def loadCursor (s:JobStore κ) : DagCursor κ :=
 ⟨s.profile,s.profile.map fun spec=>currentRecord s spec.id, s.predicates⟩

def persistNode [DecidableEq κ] (s:JobStore κ) (record:NodeRecord κ) : JobStore κ :=
 { s with
   rows:=Function.update s.rows record.nodeId
    (some ⟨record.status,record.attempt,record.agentId⟩) }

def setPredicate (s:JobStore κ) (predicate:String) : JobStore κ :=
 if predicate∈s.predicates then s
 else { s with predicates:=s.predicates++[predicate] }

def ensureAnalystNode [DecidableEq κ] (scope:JobScope κ) (s:JobStore κ) : JobStore κ :=
 if (s.rows scope.analyst).isSome then s
 else persistNode s ⟨scope.analyst,.pending,0,none⟩

section Enqueue

variable [DecidableEq κ]

def controllerWave (s:JobStore κ) : JobStore κ×Except (DagError κ) Bool :=
 match skippedDisabledNodes (loadCursor s) with
 | .error e => (s,.error e)
 | .ok skipped =>
   let current:=s
   let s:=skipped.foldl
    (fun s k=>persistNode s ⟨k,.accepted,(currentRecord current k).attempt,none⟩) s
   match readyNodes (loadCursor s) with
   | .error e => (s,.error e)
   | .ok ready =>
     let controllers:=ready.filter (·.operation.isSome)
     (controllers.foldl (fun s spec=>persistNode s ⟨spec.id,.accepted,1,none⟩) s,
      .ok (controllers.length≠0))

def advanceControllerNodes : ℕ → JobStore κ → JobStore κ×Except (DagError κ) Unit
 | 0, s => (s,.ok ())
 | waves+1, s =>
   match controllerWave s with
   | (s,.error e) => (s,.error e)
   | (s,.ok false) => (s,.ok ())
   | (s,.ok true) => advanceControllerNodes waves s

def assertWriteAllowed (s:JobStore κ) (role:AgentRole) : Except (JobError κ) Unit :=
 if role=.implementer ∧
   ("write-lease"∈s.forbiddenActions ∨ "implementer"∈s.forbiddenActions) then
  .error .writeForbidden
 else .ok ()

def prepareRoleSpawn (s:JobStore κ) (nodeId:κ) (role:AgentRole) :
    Except (JobError κ) (JobStore κ×NodeRecord κ) := do
 let spawned ← (reduceNode (currentRecord s nodeId) .nodeSpawned none).mapError .dag
 assertWriteAllowed s role
 return (persistNode s spawned,spawned)

structure ChangeManifest where
 changedPaths : List String
 allowedPaths : List String

/-- What is read of a payload: whether review findings block, and a change manifest. -/
structure Envelope where
 valid : Bool
 artifactType : ArtifactType
 blocking : Bool
 manifest : ChangeManifest

/-- Where a call waits: for the artifact of a spawn request, with the nodes that it spawns after
this one; for the artifact of an envelope; or to take up the enqueueing of ready work. -/
inductive Call (κ:Type) where
 | enqueue (spawned:NodeRecord κ) (rest:List (WorkflowNode κ))
 | accept (spawned:NodeRecord κ) (envelope:Envelope)
 | resume

inductive Outcome (κ:Type) where
 | waiting (call:Call κ)
 | finished
 | failed (error:JobError κ)

/-- The loop of `enqueueReadyAgentWork` up to the next artifact it waits for; the source filters
out the nodes without a role beforehand. -/
def spawnNext (s:JobStore κ) : List (WorkflowNode κ) → JobStore κ×Outcome κ
 | [] => (s,.finished)
 | spec::rest =>
   match spec.role with
   | none => spawnNext s rest
   | some role =>
     match prepareRoleSpawn s spec.id role with
     | .ok (s,spawned) => (s,.waiting (.enqueue spawned rest))
     | .error e => (s,.failed e)

def enqueueReadyAgentWork (scope:JobScope κ) (s:JobStore κ) : JobStore κ×Outcome κ :=
 match advanceControllerNodes 16 (ensureAnalystNode scope s) with
 | (s,.error e) => (s,.failed (.dag e))
 | (s,.ok ()) =>
   match readyNodes (loadCursor s) with
   | .error e => (s,.failed (.dag e))
   | .ok ready => spawnNext s ready

def dedupeKey (scope:JobScope κ) (nodeId:κ) (attempt:ℕ) : String :=
 "SPAWN_AGENT:"++scope.runId ++ ":"++scope.text nodeId ++ ":"++toString attempt

def enqueueSpawn (scope:JobScope κ) (s:JobStore κ) (spawned:NodeRecord κ)
    (operationId digest now:String) : Except StoreError (JobStore κ) := do
 let (_,operations) ← enqueueOperation scope.tables scope.projectId
  { operationId, runId:=scope.runId, operationKind:=.spawnAgent
    dedupeKey:=dedupeKey scope spawned.nodeId spawned.attempt, inputDigest:=digest
    createdAt:=now } s.operations
 return { s with operations }

end Enqueue

section Reports

variable [DecidableEq κ]

/-- The rest of `acceptEnvelope` once the artifact is persisted. The integration check of a change
manifest only decides the answer to the caller. -/
def acceptEnvelope (s:JobStore κ) (spawned:NodeRecord κ) (envelope:Envelope) :
    Except (DagError κ) (JobStore κ) := do
 let accepted ← reduceNode { spawned with status:=.validating } .artifactAccepted spawned.agentId
 let s:=persistNode s accepted
 return if envelope.artifactType=.reviewFindings ∧ envelope.blocking=true then
  setPredicate s "HAS_BLOCKING_FINDINGS"
 else s

def acceptCompletedSpawnJob (scope:JobScope κ) (s:JobStore κ) (nodeId:κ)
    (agentId:String) (envelope:Envelope) : JobStore κ×Outcome κ :=
 let current:=currentRecord s nodeId
 if current.status=.accepted then enqueueReadyAgentWork scope s
 else
  let spawned : NodeRecord κ :=
   ⟨nodeId,.spawned,if current.attempt=0 then 1 else current.attempt,some agentId⟩
  let s:=persistNode s spawned
  if envelope.valid then (s,.waiting (.accept spawned envelope))
  else
   match reduceNode spawned .nodeRetrying none with
   | .ok retried => (persistNode s retried,.waiting .resume)
   | .error e => (s,.failed (.dag e))

def failedRecord (current:NodeRecord κ) : Except (DagError κ) (Option (NodeRecord κ)) :=
 match current.status with
 | .accepted | .retrying => .ok none
 | .failed =>
   if canRetry current 3 then
    .ok (some ⟨current.nodeId,.retrying,current.attempt+1,none⟩)
   else .ok none
 | .spawned | .waitingArtifact | .validating | .pending =>
   let live : NodeRecord κ :=
    if current.status=.pending then { current with status:=.spawned } else current
   (reduceNode live (if live.attempt<3 ∧
    (live.status=.spawned ∨ live.status=.waitingArtifact) then .nodeRetrying
    else .nodeFailed) none).map some

def failCompletedSpawnJob (scope:JobScope κ) (s:JobStore κ) (nodeId:κ) :
    JobStore κ×Outcome κ :=
 match failedRecord (currentRecord s nodeId) with
 | .error e => (s,.failed (.dag e))
 | .ok none => enqueueReadyAgentWork scope s
 | .ok (some record) => enqueueReadyAgentWork scope (persistNode s record)

def isAgentDagIdle (s:JobStore κ) : Except (DagError κ) Bool :=
 dagComplete (loadCursor s)

end Reports

section Runs

variable [DecidableEq κ]

/-- The store with the calls that wait, and the errors of the calls that have failed. -/
structure JobRun (κ:Type) where
 store : JobStore κ
 calls : List (Call κ)
 failures : List (JobError κ)

def JobRun.finish (calls:List (Call κ)) (failures:List (JobError κ)) :
    JobStore κ×Outcome κ → JobRun κ
 | (store,.waiting call) => ⟨store,calls++[call],failures⟩
 | (store,.finished) => ⟨store,calls,failures⟩
 | (store,.failed error) => ⟨store,calls,failures++[error]⟩

def isJob (scope:JobScope κ) (nodeId:κ) (attempt:ℕ) (row:OperationRow) : Bool :=
 row.projectId=scope.projectId ∧ row.runId=scope.runId ∧ row.operationKind=.spawnAgent ∧
  row.dedupeKey=dedupeKey scope nodeId attempt

inductive Action (κ:Type) where
 | enqueue
 | report (nodeId:κ) (attempt:ℕ) (agentId:String) (envelope:Envelope)
 | failure (nodeId:κ) (attempt:ℕ)
 | persisted (index:ℕ) (digest operationId now:String)
 | rejected (index:ℕ) (reason:String)
 | resumed (index:ℕ)

/-- What may happen next in a run. A persisted artifact is in its table, the id of a new operation
is not in use, and a job reports only if there is one. Runs end where a task contract is accepted,
for that selects another profile. -/
def perform (scope:JobScope κ) (s:JobRun κ) : Action κ → Option (JobRun κ)
 | .enqueue => some (.finish s.calls s.failures (enqueueReadyAgentWork scope s.store))
 | .report nodeId attempt agentId envelope =>
   if s.store.operations.any (isJob scope nodeId attempt) ∧
     envelope.artifactType≠.taskContract then
    some (.finish s.calls s.failures
     (acceptCompletedSpawnJob scope s.store nodeId agentId envelope))
   else none
 | .failure nodeId attempt =>
   if s.store.operations.any (isJob scope nodeId attempt) then
    some (.finish s.calls s.failures (failCompletedSpawnJob scope s.store nodeId))
   else none
 | .persisted index digest operationId now =>
   if scope.tables.artifactExists digest then
    match s.calls[index]? with
    | some (.enqueue spawned rest) =>
      if (readOperation s.store.operations scope.projectId operationId).isNone then
       some (.finish (s.calls.eraseIdx index) s.failures
        (match enqueueSpawn scope s.store spawned operationId digest now with
        | .ok store => spawnNext store rest
        | .error e => (s.store,.failed (.store e))))
      else none
    | some (.accept spawned envelope) =>
      some (.finish (s.calls.eraseIdx index) s.failures
       (match acceptEnvelope s.store spawned envelope with
       | .ok store => (store,.waiting .resume)
       | .error e => (s.store,.failed (.dag e))))
    | some .resume | none => none
   else none
 | .rejected index reason =>
   match s.calls[index]? with
   | some (.enqueue _ _) | some (.accept _ _) =>
     some ⟨s.store,s.calls.eraseIdx index,s.failures++[.persistence reason]⟩
   | some .resume | none => none
 | .resumed index =>
   match s.calls[index]? with
   | some .resume =>
     some (.finish (s.calls.eraseIdx index) s.failures (enqueueReadyAgentWork scope s.store))
   | some (.enqueue _ _) | some (.accept _ _) | none => none

def Step (scope:JobScope κ) (s t:JobRun κ) : Prop :=
 ∃action,perform scope s action=some t

end Runs

section Records

variable {scope:JobScope κ} {s t:JobStore κ} {record:NodeRecord κ}

def status (s:JobStore κ) (k:κ) : NodeStatus :=
 (currentRecord s k).status

lemma currentRecord_id : (currentRecord s k).nodeId=k := by
 unfold currentRecord
 split <;> rfl

lemma currentRecord_setPredicate (predicate:String) (k:κ) :
  currentRecord (setPredicate s predicate) k=currentRecord s k := by
 unfold setPredicate
 split <;> rfl

/-- A later store of the same run: no node becomes pending again, an accepted one stays so, and
predicates are only added. -/
structure Grows (s t:JobStore κ) : Prop where
 profile : t.profile=s.profile
 predicates : ∀p∈s.predicates,p∈t.predicates
 started : ∀k,status s k≠.pending → status t k≠.pending
 accepted : ∀k,status s k=.accepted → status t k=.accepted

lemma Grows.refl (s:JobStore κ) : Grows s s :=
 ⟨rfl,fun _ h=>h, fun _ h=>h, fun _ h=>h⟩

lemma Grows.trans {u:JobStore κ} (h:Grows s t) (h':Grows t u) : Grows s u :=
 ⟨h'.profile.trans h.profile,fun p hp=>h'.predicates p (h.predicates p hp),
  fun k hk=>h'.started k (h.started k hk), fun k hk=>h'.accepted k (h.accepted k hk)⟩

lemma Grows.of_same_records (hprofile:t.profile=s.profile)
  (hpred:∀p∈s.predicates,p∈t.predicates)
  (hrecords:∀k,currentRecord t k=currentRecord s k) : Grows s t := by
 have hstatus:∀k,status t k=status s k :=
  fun k=>congrArg NodeRecord.status (hrecords k)
 exact ⟨hprofile,hpred,fun k hk=>by rwa [hstatus], fun k hk=>by rwa [hstatus]⟩

lemma grows_setPredicate (predicate:String) :
  Grows s (setPredicate s predicate) := by
 refine .of_same_records ?_ ?_ fun k=>currentRecord_setPredicate predicate k
 · unfold setPredicate
   split <;> rfl
 · intro p hp
   unfold setPredicate
   split
   · exact hp
   · exact mem_append_left _ hp

lemma mem_setPredicate (predicate:String) :
  predicate∈(setPredicate s predicate).predicates := by
 unfold setPredicate
 split
 · assumption
 · simp

variable [DecidableEq κ]

lemma currentRecord_persistNode :
  currentRecord (persistNode s record) k =
   if k=record.nodeId then record else currentRecord s k := by
 by_cases h : k=record.nodeId
 · subst h
   simp [currentRecord,persistNode]
 · simp [currentRecord,persistNode,h]

lemma currentRecord_ensureAnalystNode :
  currentRecord (ensureAnalystNode scope s) k=currentRecord s k := by
 unfold ensureAnalystNode
 split
 · rfl
 · rename_i hmiss
   rw [currentRecord_persistNode]
   split
   · rename_i hk
     have hnone:s.rows scope.analyst=none := by simpa using hmiss
     subst hk
     simp [currentRecord,hnone]
   · rfl

lemma grows_persistNode (hstatus:record.status≠.pending)
  (hopen:status s record.nodeId=.accepted → record.status=.accepted) :
  Grows s (persistNode s record) := by
 refine ⟨rfl,fun p hp=>hp, fun k hk=>?_, fun k hk=>?_⟩
 · unfold status
   rw [currentRecord_persistNode]
   split
   · exact hstatus
   · exact hk
 · unfold status
   rw [currentRecord_persistNode]
   split
   · rename_i hid
     exact hopen (hid ▸ hk)
   · exact hk

lemma recordOf_loadCursor (h:recordOf (loadCursor s) k=.ok record) :
  record=currentRecord s k := by
 obtain ⟨hmem,hid⟩:=recordOf_ok h
 obtain ⟨spec,-,rfl⟩:=mem_map.mp hmem
 rw [currentRecord_id] at hid
 rw [hid]

lemma accepted_loadCursor (h:accepted (loadCursor s) k=.ok true) :
  status s k=.accepted := by
 obtain ⟨record,hrecord,hstatus⟩:=bind_eq_ok h
 unfold status
 rw [← recordOf_loadCursor hrecord]
 exact of_decide_eq_true (Except.ok.inj hstatus)

end Records

section Controllers

variable {s t u:JobStore κ} {record:NodeRecord κ}

/-- Why the controllers accept an idle node: it is disabled, or it is theirs and waits for
nothing. -/
structure Passes (s t:JobStore κ) (k:κ) : Prop where
 idle : status s k=.pending ∨ status s k=.retrying
 cause : ∃spec∈s.profile,spec.id=k ∧
  ((nodeEnabled spec.when s.predicates=false ∧ status s k=.pending) ∨
    (spec.operation.isSome ∧ ∀d∈spec.dependsOn,status t d=.accepted))

structure Settled (s t:JobStore κ) : Prop where
 profile : t.profile=s.profile
 forbiddenActions : t.forbiddenActions=s.forbiddenActions
 predicates : t.predicates=s.predicates
 operations : t.operations=s.operations
 records : ∀k,currentRecord t k=currentRecord s k ∨ (status t k=.accepted ∧ Passes s t k)
 attempts : ∀k,(currentRecord t k).attempt=(currentRecord s k).attempt ∨
  (currentRecord t k).attempt=1

lemma Settled.of_same_records (hprofile:t.profile=s.profile)
  (hforbidden:t.forbiddenActions=s.forbiddenActions)
  (hpred:t.predicates=s.predicates) (hops:t.operations=s.operations)
  (hrecords:∀k,currentRecord t k=currentRecord s k) : Settled s t :=
 ⟨hprofile,hforbidden,hpred,hops,fun k=>.inl (hrecords k),
  fun k=>.inl (congrArg NodeRecord.attempt (hrecords k))⟩

lemma Settled.status_or (h:Settled s t) (k:κ) :
  status t k=status s k ∨ status t k=.accepted := by
 cases h.records k with
 | inl hsame => exact .inl (congrArg NodeRecord.status hsame)
 | inr hpasses => exact .inr hpasses.1

lemma Settled.accepted (h:Settled s t) (hk:status s k=.accepted) :
  status t k=.accepted := by
 cases h.status_or k with
 | inl hsame => exact hsame.trans hk
 | inr haccept => exact haccept

lemma Settled.grows (h:Settled s t) : Grows s t := by
 refine ⟨h.profile,fun p hp=>h.predicates ▸ hp, fun k hk=>?_, fun k hk=>h.accepted hk⟩
 cases h.status_or k with
 | inl hsame =>
   rw [hsame]
   exact hk
 | inr haccept =>
   rw [haccept]
   decide

lemma Settled.trans (h:Settled s t) (h':Settled t u) : Settled s u := by
 refine ⟨h'.profile.trans h.profile,h'.forbiddenActions.trans h.forbiddenActions,
  h'.predicates.trans h.predicates,h'.operations.trans h.operations,fun k=>?_, fun k=>?_⟩
 · cases h'.records k with
   | inl hsame =>
     cases h.records k with
     | inl hfirst => exact .inl (hsame.trans hfirst)
     | inr hfirst =>
       obtain ⟨spec,hspec,hid,hcause⟩:=hfirst.2.cause
       refine .inr ⟨(congrArg NodeRecord.status hsame).trans hfirst.1,hfirst.2.idle,
        spec,hspec,hid,?_⟩
       cases hcause with
       | inl hdisabled => exact .inl hdisabled
       | inr hcontrol => exact .inr ⟨hcontrol.1,fun d hd=>h'.accepted (hcontrol.2 d hd)⟩
   | inr hpasses =>
     cases h.records k with
     | inl hfirst =>
       have hstatus:status t k=status s k:=congrArg NodeRecord.status hfirst
       obtain ⟨haccept,hidle,spec,hspec,hid,hcause⟩:=hpasses
       rw [hstatus] at hidle hcause
       rw [h.predicates] at hcause
       exact .inr ⟨haccept,hidle,spec,h.profile ▸ hspec,hid,hcause⟩
     | inr hfirst =>
       have hidle:=hpasses.2.idle
       rw [hfirst.1] at hidle
       exact absurd hidle (by decide)
 · cases h'.attempts k with
   | inl hsame =>
     rw [hsame]
     exact h.attempts k
   | inr hone => exact .inr hone

variable [DecidableEq κ]

lemma Settled.persistNode (h:Settled s t) (haccept:record.status=.accepted)
  (hattempt:record.attempt=(currentRecord s record.nodeId).attempt ∨ record.attempt=1)
  (hpasses:Passes s t record.nodeId) : Settled s (persistNode t record) := by
 have hgrows:Grows t (AgentJobs.persistNode t record) := by
  apply grows_persistNode
  · rw [haccept]
    decide
  · exact fun _=>haccept
 have hlater:∀{k},Passes s t k → Passes s (AgentJobs.persistNode t record) k := by
  intro k hk
  obtain ⟨spec,hspec,hid,hcause⟩:=hk.cause
  refine ⟨hk.idle,spec,hspec,hid,?_⟩
  cases hcause with
  | inl hdisabled => exact .inl hdisabled
  | inr hcontrol => exact .inr ⟨hcontrol.1,fun d hd=>hgrows.accepted d (hcontrol.2 d hd)⟩
 refine ⟨h.profile,h.forbiddenActions,h.predicates,h.operations,fun k=>?_, fun k=>?_⟩
 · by_cases hk : k=record.nodeId
   · refine .inr ⟨?_,hk ▸ hlater hpasses⟩
     unfold status
     rw [currentRecord_persistNode,if_pos hk]
     exact haccept
   · cases h.records k with
     | inl hsame =>
       refine .inl ?_
       rw [currentRecord_persistNode,if_neg hk]
       exact hsame
     | inr hold => exact .inr ⟨hgrows.accepted k hold.1,hlater hold.2⟩
 · rw [currentRecord_persistNode]
   split
   · rename_i hk
     rw [hk]
     exact hattempt
   · exact h.attempts k

lemma settled_skip {skipped:List κ} (h:skippedDisabledNodes (loadCursor s)=.ok skipped) :
  Settled s (skipped.foldl (fun t k=>
   persistNode t ⟨k,.accepted,(currentRecord s k).attempt,none⟩) s) := by
 refine foldlRecOn (motive := Settled s) _ _
  (.of_same_records rfl rfl rfl rfl fun _=>rfl) fun t ht k hk=>?_
 obtain ⟨spec,hspec,hid,hdisabled,record,hrecord,hpending⟩:=skippedDisabledNodes_ok h hk
 have hstatus:status s k=.pending := by
  unfold status
  rw [← recordOf_loadCursor hrecord]
  exact hpending
 exact ht.persistNode rfl (.inl rfl) ⟨.inl hstatus,spec,hspec,hid,.inl ⟨hdisabled,hstatus⟩⟩

lemma Ready.status {spec:WorkflowNode κ} (h:Ready (loadCursor s) spec) :
  status s spec.id=.pending ∨ status s spec.id=.retrying := by
 obtain ⟨record,hrecord,hidle⟩:=h.idle
 unfold AgentJobs.status
 rw [← recordOf_loadCursor hrecord]
 exact hidle

lemma settled_control {ready:List (WorkflowNode κ)}
  (h:readyNodes (loadCursor s)=.ok ready) :
  Settled s ((ready.filter (·.operation.isSome)).foldl (fun t spec=>
   persistNode t ⟨spec.id,.accepted,1,none⟩) s) := by
 refine foldlRecOn (motive := Settled s) _ _
  (.of_same_records rfl rfl rfl rfl fun _=>rfl) fun t ht spec hspec=>?_
 obtain ⟨hmem,hoperation⟩:=mem_filter.mp hspec
 have hready:=(readyNodes_ok h).2 spec hmem
 refine ht.persistNode rfl (.inr rfl)
  ⟨Ready.status hready,spec,hready.listed,rfl,.inr ⟨hoperation,?_⟩⟩
 intro d hd
 exact ht.accepted (accepted_loadCursor (hready.dependencies d hd))

lemma settled_controllerWave (s:JobStore κ) : Settled s (controllerWave s).1 := by
 unfold controllerWave
 split
 · exact .of_same_records rfl rfl rfl rfl fun _=>rfl
 · rename_i skipped hskipped
   have hskip:=settled_skip hskipped
   dsimp only
   split
   · exact hskip
   · rename_i ready hready
     exact hskip.trans (settled_control hready)

lemma settled_advanceControllerNodes (waves:ℕ) (s:JobStore κ) :
  Settled s (advanceControllerNodes waves s).1 := by
 induction waves generalizing s with
 | zero => exact .of_same_records rfl rfl rfl rfl fun _=>rfl
 | succ waves ih =>
   have hwave:=settled_controllerWave s
   unfold advanceControllerNodes
   split
   · rename_i heq
     rw [heq] at hwave
     exact hwave
   · rename_i heq
     rw [heq] at hwave
     exact hwave
   · rename_i heq
     rw [heq] at hwave
     exact hwave.trans (ih _)

end Controllers

end EpistemicCompiler.AgentJobs
