import EpistemicCompiler.AgentJobs
import EpistemicCompiler.LabelledLines
import EpistemicCompiler.OperationHistory

set_option autoImplicit false

/-!
# The turns of agent calls

A call runs without interruption from one wait to the next. What such a turn may do gives what holds
in every run: a node with a job is not pending, and a call that waits spawns only nodes whose
dependencies are accepted.
-/
namespace EpistemicCompiler.AgentJobs
open ProfileCatalog FallibleRuns OperationStore DagEngine List Option

variable {κ:Type} {scope:JobScope κ} {s:JobStore κ} {k:κ} {t:JobRun κ} {action:Action κ}

section Pieces

variable {t u:JobStore κ} {spawned record:NodeRecord κ}
 {specs:List (WorkflowNode κ)}

lemma reduceNode_spawn {current:NodeRecord κ}
  (h:reduceNode current .nodeSpawned none=.ok spawned) :
  spawned.nodeId=current.nodeId ∧ spawned.status=.spawned ∧ current.status≠.accepted := by
 obtain ⟨hallow,hid,hstatus,-⟩:=reduceNode_ok h
 refine ⟨hid,hstatus,fun haccepted=>?_⟩
 rw [haccepted] at hallow
 exact absurd hallow (by decide)

lemma reduceNode_spawn_attempt {current:NodeRecord κ}
  (h:reduceNode current .nodeSpawned none=.ok spawned) :
  spawned.attempt=if current.attempt=0 then 1 else current.attempt := by
 rw [(reduceNode_ok h).2.2.2,nextAttempt]
 split <;> omega

def Spawnable (s:JobStore κ) (specs:List (WorkflowNode κ)) : Prop :=
 ∀spec∈specs,spec∈s.profile ∧ ∀d∈spec.dependsOn,status s d=.accepted

lemma Spawnable.mono (h:Spawnable s specs) (hgrows:Grows s t) : Spawnable t specs :=
 fun spec hspec=>⟨hgrows.profile ▸ (h spec hspec).1,
  fun d hd=>hgrows.accepted d ((h spec hspec).2 d hd)⟩

/-- A call that waits has started its node and spawns only nodes past their dependencies. -/
def CallSound (s:JobStore κ) : Call κ → Prop
 | .enqueue spawned rest => status s spawned.nodeId≠.pending ∧ Spawnable s rest
 | .accept spawned _ => status s spawned.nodeId≠.pending
 | .resume => True

lemma CallSound.mono {call:Call κ} (h:CallSound s call) (hgrows:Grows s t) :
  CallSound t call := by
 cases call with
 | enqueue spawned rest => exact ⟨hgrows.started _ h.1,h.2.mono hgrows⟩
 | accept spawned envelope => exact hgrows.started _ h
 | resume => trivial

structure Piece (s:JobStore κ) (result:JobStore κ×Outcome κ) : Prop where
 grows : Grows s result.1
 operations : result.1.operations=s.operations
 sound : ∀call,result.2=.waiting call → CallSound result.1 call

lemma failedRecord_cases (current:NodeRecord κ) :
  failedRecord current=.ok none ∨
  ∃record : NodeRecord κ,failedRecord current=.ok (some record) ∧
    record.nodeId=current.nodeId ∧ current.status≠.accepted ∧
    ((record.status=.retrying ∧ record.attempt=current.attempt+1 ∧ current.attempt<3) ∨
      (record.status=.failed ∧ record.attempt=current.attempt ∧
       current.status≠.retrying ∧ current.status≠.failed)) := by
 obtain ⟨nodeId,status,attempt,agentId⟩:=current
 cases status with
 | accepted | retrying => exact .inl rfl
 | failed =>
   unfold failedRecord
   dsimp only
   split
   · rename_i hretry
     have hattempt:attempt<3 := by simpa [canRetry] using hretry
     exact .inr ⟨_,rfl,rfl,by simp,.inl ⟨rfl,rfl,hattempt⟩⟩
   · exact .inl rfl
 | pending | spawned | waitingArtifact =>
   by_cases hattempt : attempt<3
   · refine .inr ⟨⟨nodeId,.retrying,attempt+1,agentId⟩,?_,rfl,by simp, .inl ⟨rfl,rfl,hattempt⟩⟩
     simp [failedRecord,hattempt,reduceNode,transitions,DagEngine.next,nextAttempt,Except.map]
   · refine .inr ⟨⟨nodeId,.failed,attempt,agentId⟩,?_,rfl,by simp, .inr ⟨rfl,rfl,by simp⟩⟩
     simp [failedRecord,hattempt,reduceNode,transitions,DagEngine.next,nextAttempt,Except.map]
 | validating =>
   refine .inr ⟨⟨nodeId,.failed,attempt,agentId⟩,?_,rfl,by simp, .inr ⟨rfl,rfl,by simp⟩⟩
   simp [failedRecord,reduceNode,transitions,DagEngine.next,nextAttempt,Except.map]

variable [DecidableEq κ]

lemma prepareRoleSpawn_error {role:AgentRole} {e:JobError κ}
  (h:prepareRoleSpawn s k role=.error e) :
  e=.writeForbidden ∨
    ∃error,e=.dag error ∧
      reduceNode (currentRecord s k) .nodeSpawned none=.error error := by
 unfold prepareRoleSpawn at h
 cases hreduce : reduceNode (currentRecord s k) .nodeSpawned none with
 | error error =>
   rw [hreduce] at h
   cases h
   exact .inr ⟨error,rfl,rfl⟩
 | ok spawned =>
   rw [hreduce] at h
   refine .inl ?_
   unfold assertWriteAllowed at h
   split at h
   · cases h
     rfl
   · cases h

variable {Q:JobStore κ×Outcome κ → Prop}

lemma spawnNext_elim (specs:List (WorkflowNode κ))
  (hstay:∀outcome,(∀call,outcome≠.waiting call) →
   (∀e,outcome=.failed e → e=.writeForbidden ∨ ∃spec∈specs,∃error,
    e=.dag error ∧ reduceNode (currentRecord s spec.id) .nodeSpawned none=.error error) →
   Q (s,outcome))
  (hspawn:∀spec rest spawned,(spec::rest).Sublist specs →
   reduceNode (currentRecord s spec.id) .nodeSpawned none=.ok spawned →
   Q (persistNode s spawned,.waiting (.enqueue spawned rest))) : Q (spawnNext s specs) := by
 induction specs with
 | nil => exact hstay _ (fun _ h=>by cases h) fun _ h=>by cases h
 | cons spec rest ih =>
   unfold spawnNext
   cases spec.role with
   | none =>
     refine ih (fun outcome hdone hcause=>hstay outcome hdone fun e he=>?_)
      fun spec' rest' spawned hsub=>hspawn spec' rest' spawned (hsub.cons _)
     exact (hcause e he).imp_right fun ⟨spec',hmem,h⟩=>⟨spec',mem_cons_of_mem _ hmem,h⟩
   | some role =>
     cases hprepare : prepareRoleSpawn s spec.id role with
     | error e =>
       simp only [hprepare]
       refine hstay (.failed e) (fun _ h=>by cases h) fun e' he'=>?_
       cases he'
       exact (prepareRoleSpawn_error hprepare).imp_right fun h=>⟨spec,mem_cons_self,h⟩
     | ok result =>
       simp only [hprepare]
       obtain ⟨spawned,hreduce,h⟩:=bind_eq_ok hprepare
       obtain ⟨-,-,h⟩:=bind_eq_ok h
       cases h
       exact hspawn spec rest spawned (.refl _) (mapError_ok hreduce)

lemma grows_spawn (h:reduceNode (currentRecord s k) .nodeSpawned none=.ok spawned) :
  spawned.nodeId=k ∧ Grows s (persistNode s spawned) := by
 obtain ⟨hid,hstatus,hopen⟩:=reduceNode_spawn h
 rw [currentRecord_id] at hid
 refine ⟨hid,grows_persistNode ?_ fun haccepted=>?_⟩
 · rw [hstatus]
   decide
 · rw [hid] at haccepted
   exact absurd haccepted hopen

lemma spawnable_ready (h:readyNodes (loadCursor s)=.ok specs) : Spawnable s specs := by
 intro spec hspec
 have hready:=(readyNodes_ok h).2 spec hspec
 exact ⟨hready.listed,fun d hd=>accepted_loadCursor (hready.dependencies d hd)⟩

lemma settled_ensureAnalystNode : Settled s (ensureAnalystNode scope s) := by
 refine .of_same_records ?_ ?_ ?_ ?_ fun k=>currentRecord_ensureAnalystNode
 all_goals
  unfold ensureAnalystNode
  split <;> rfl

/-- The controllers run first; the ready nodes are then spawned, unless the engine fails. -/
lemma enqueueReadyAgentWork_elim
  (hfail:∀u e,Settled s u →
   (advanceControllerNodes 16 (ensureAnalystNode scope s)=(u,.error e) ∨
    readyNodes (loadCursor u)=.error e) → Q (u,.failed (.dag e)))
  (hspawn:∀u ready,Settled s u → readyNodes (loadCursor u)=.ok ready →
   Q (spawnNext u ready)) : Q (enqueueReadyAgentWork scope s) := by
 have hsettled:=settled_ensureAnalystNode.trans
  (settled_advanceControllerNodes 16 (ensureAnalystNode scope s))
 unfold enqueueReadyAgentWork
 cases hresult : advanceControllerNodes 16 (ensureAnalystNode scope s) with
 | mk u outcome =>
   rw [hresult] at hsettled
   cases outcome with
   | error e => exact hfail u e hsettled (.inl hresult)
   | ok _ =>
     cases hready : readyNodes (loadCursor u) with
     | error e => simpa only [hready] using hfail u e hsettled (.inr hready)
     | ok ready => simpa only [hready] using hspawn u ready hsettled hready

/-- What the enqueueing of ready work keeps: `I` of the stores in between, `S` of the nodes that are
still to be spawned, `Q` of what it leaves. -/
structure Enqueues (I:JobStore κ → Prop) (S:JobStore κ → List (WorkflowNode κ) → Prop)
  (Q:JobStore κ×Outcome κ → Prop) : Prop where
 settled : ∀{u v},I u → Settled u v → I v
 ready : ∀{u specs},I u → readyNodes (loadCursor u)=.ok specs → S u specs
 stay : ∀{u outcome},I u → (∀call,outcome=.waiting call → call=.resume) → Q (u,outcome)
 spawn : ∀{u specs spec rest spawned},I u → S u specs → (spec::rest).Sublist specs →
  reduceNode (currentRecord u spec.id) .nodeSpawned none=.ok spawned →
  Q (persistNode u spawned,.waiting (.enqueue spawned rest))

section

variable {I:JobStore κ → Prop} {S:JobStore κ → List (WorkflowNode κ) → Prop}
 (h:Enqueues I S Q) (hs:I s)
include h hs

lemma Enqueues.spawnNext (hspecs:S s specs) : Q (spawnNext s specs) :=
 spawnNext_elim specs (fun _ hdone _=>h.stay hs fun call hcall=>absurd hcall (hdone call))
  fun _ _ _ hsub hspawn=>h.spawn hs hspecs hsub hspawn

lemma Enqueues.enqueueReadyAgentWork : Q (enqueueReadyAgentWork scope s) := by
 apply enqueueReadyAgentWork_elim
 · intro u e hsettled _
   exact h.stay (h.settled hs hsettled) nofun
 · intro u ready hsettled hready
   have hu:=h.settled hs hsettled
   exact h.spawnNext hu (h.ready hu hready)

end 

lemma piece_enqueues : Enqueues (fun u=>Grows s u ∧ u.operations=s.operations) Spawnable
  (Piece s) where
 settled hu hsettled := ⟨hu.1.trans hsettled.grows,hsettled.operations.trans hu.2⟩
 ready _ hready := spawnable_ready hready
 stay hu hdone := ⟨hu.1,hu.2,fun call hcall=>hdone call hcall ▸ trivial⟩
 spawn hu hspecs hsub hspawn := by
  obtain ⟨-,hgrows⟩:=grows_spawn hspawn
  refine ⟨hu.1.trans hgrows,hu.2,?_⟩
  rintro _ ⟨⟩
  refine ⟨?_,?_⟩
  · unfold status
    rw [currentRecord_persistNode,if_pos rfl,(reduceNode_spawn hspawn).2.1]
    decide
  · exact Spawnable.mono
     (fun spec hspec=>hspecs spec (hsub.subset (mem_cons_of_mem _ hspec))) hgrows

lemma piece_enqueueReadyAgentWork :
  Piece s (enqueueReadyAgentWork scope s) :=
 piece_enqueues.enqueueReadyAgentWork ⟨.refl s,rfl⟩

lemma acceptEnvelope_eq (s:JobStore κ) (spawned:NodeRecord κ) (envelope:Envelope) :
  ∃accepted : NodeRecord κ,accepted.nodeId=spawned.nodeId ∧ accepted.status=.accepted ∧
    accepted.attempt=spawned.attempt ∧
    acceptEnvelope s spawned envelope=.ok
     (if envelope.artifactType=.reviewFindings ∧ envelope.blocking=true then
      setPredicate (persistNode s accepted) "HAS_BLOCKING_FINDINGS"
     else persistNode s accepted) :=
 ⟨⟨spawned.nodeId,.accepted,spawned.attempt,spawned.agentId.or spawned.agentId⟩,
   rfl,rfl,rfl,rfl⟩

/-- The record of a node that is spawned once more when its job reports. -/
structure Respawned (s:JobStore κ) (k:κ) (spawned:NodeRecord κ) : Prop where
 unaccepted : status s k≠.accepted
 id : spawned.nodeId=k
 status : spawned.status=.spawned
 attempt : spawned.attempt=(if (currentRecord s k).attempt=0 then 1
  else (currentRecord s k).attempt)

/-- A report is ignored if the node is accepted; otherwise the node is spawned once more, and its
envelope waits for its artifact or the node is to be retried. -/
lemma acceptCompletedSpawnJob_elim (agentId:String) (envelope:Envelope)
  (hignored:Q (enqueueReadyAgentWork scope s))
  (hwait:∀spawned,Respawned s k spawned →
   Q (persistNode s spawned,.waiting (.accept spawned envelope)))
  (hretried:∀spawned retried,Respawned s k spawned → retried.nodeId=k →
   retried.status=.retrying → retried.attempt=spawned.attempt+1 → envelope.valid=false →
   Q (persistNode (persistNode s spawned) retried,.waiting .resume)) :
  Q (acceptCompletedSpawnJob scope s k agentId envelope) := by
 unfold acceptCompletedSpawnJob
 by_cases haccepted : (currentRecord s k).status=.accepted
 · rw [if_pos haccepted]
   exact hignored
 · rw [if_neg haccepted]
   cases hvalid : envelope.valid with
   | true => exact hwait _ ⟨haccepted,rfl,rfl,rfl⟩
   | false => exact hretried _ _ ⟨haccepted,rfl,rfl,rfl⟩ rfl rfl rfl hvalid

lemma failCompletedSpawnJob_elim
  (hsame:Q (enqueueReadyAgentWork scope s))
  (hwrite:∀record : NodeRecord κ,record.nodeId=k → status s k≠.accepted →
   ((record.status=.retrying ∧ record.attempt=(currentRecord s k).attempt+1 ∧
     (currentRecord s k).attempt<3) ∨
    (record.status=.failed ∧ record.attempt=(currentRecord s k).attempt ∧
     status s k≠.retrying ∧ status s k≠.failed)) →
   Q (enqueueReadyAgentWork scope (persistNode s record))) :
  Q (failCompletedSpawnJob scope s k) := by
 unfold failCompletedSpawnJob
 cases failedRecord_cases (currentRecord s k) with
 | inl hnone =>
   rw [hnone]
   exact hsame
 | inr hsome =>
   obtain ⟨record,hrecord,hid,hopen,hresult⟩:=hsome
   rw [hrecord]
   rw [currentRecord_id] at hid
   exact hwrite record hid hopen hresult

end Pieces

lemma colon_not_mem_toString (n:ℕ) : ':' ∉ (toString n).toList := by
 intro h
 rw [Nat.toString_eq_ofList_toDigits,String.toList_ofList] at h
 have hdigit:=Nat.isDigit_of_mem_toDigits (by decide) (by decide) h
 exact absurd hdigit (by decide)

lemma toString_nat_injective {n m:ℕ} (h:toString n=toString m) : n=m := by
 have hdigits:=congrArg (Nat.ofDigitChars 10 · 0) (String.ofList_injective h)
 simpa using hdigits

lemma dedupeKey_injective {k':κ} {attempt attempt':ℕ}
  (h:dedupeKey scope k attempt=dedupeKey scope k' attempt') : k=k' ∧ attempt=attempt' := by
 unfold dedupeKey at h
 simp only [String.append_assoc,String.append_right_inj] at h
 have hreverse:=congrArg (fun text:String=>text.toList.reverse) h
 simp only [String.toList_append,reverse_append,show (":" : String).toList=[':'] from rfl,
  singleton_append,reverse_cons,append_assoc] at hreverse
 obtain ⟨hattempt,htext⟩:=LabelledLines.cut_injective
  (mt mem_reverse.mp (colon_not_mem_toString attempt))
  (mt mem_reverse.mp (colon_not_mem_toString attempt')) hreverse
 have hattempt:toString attempt=toString attempt' :=
  String.toList_inj.mp (reverse_inj.mp hattempt)
 have htext:scope.text k=scope.text k' :=
  String.toList_inj.mp (reverse_inj.mp htext)
 exact ⟨scope.text_injective htext,toString_nat_injective hattempt⟩

section Turns

variable [DecidableEq κ] {s:JobRun κ}

def HasKey (scope:JobScope κ) (s:JobStore κ) (k:κ) (attempt:ℕ) : Prop :=
 ∃row∈s.operations,row.projectId=scope.projectId ∧ row.runId=scope.runId ∧
   row.dedupeKey=dedupeKey scope k attempt

lemma enqueueSpawn_elim {Q:JobStore κ×Outcome κ → Prop} {store:JobStore κ}
  {spawned:NodeRecord κ} {rest:List (WorkflowNode κ)} {operationId digest:String}
  (now:String) (hartifact:scope.tables.artifactExists digest=true)
  (hunused:(readOperation store.operations scope.projectId operationId).isNone=true)
  (hnew:∀row,isJob scope spawned.nodeId spawned.attempt row=true →
   Q (spawnNext { store with operations:=store.operations++[row] } rest))
  (htaken:HasKey scope store spawned.nodeId spawned.attempt →
   Q (spawnNext store rest) ∧ ∀e,Q (store,.failed (.store e))) :
  Q (match enqueueSpawn scope store spawned operationId digest now with
   | .ok store => spawnNext store rest
   | .error e => (store,.failed (.store e))) := by
 have hnone:=isNone_iff_eq_none.mp hunused
 unfold enqueueSpawn enqueueOperation
 simp only [scope.runExists,hartifact,hnone,not_true_eq_false,if_false]
 cases hfind : store.operations.find? (fun row=>row.projectId=scope.projectId ∧
   row.runId=scope.runId ∧
   row.dedupeKey=dedupeKey scope spawned.nodeId spawned.attempt) with
 | none => exact hnew _ (by simp [isJob])
 | some dedupe =>
   have hkey:=find?_some hfind
   obtain ⟨hsame,hfail⟩ :=
    htaken ⟨dedupe,mem_of_find?_eq_some hfind,of_decide_eq_true hkey⟩
   dsimp only
   split_ifs
   · cases requireOperation store.operations scope.projectId dedupe.operationId with
     | error e => exact hfail e
     | ok found => exact hsame
   · exact hfail _

/-- One turn: the action, the calls that go on waiting, and the store and outcome it leaves. -/
inductive Turn (scope:JobScope κ) (s:JobRun κ) :
  Action κ → List (Call κ) → JobStore κ×Outcome κ → Prop
 | enqueue : Turn scope s .enqueue s.calls (enqueueReadyAgentWork scope s.store)
 | report {nodeId:κ} {attempt:ℕ} (agentId:String) (envelope:Envelope)
   (hjob:s.store.operations.any (isJob scope nodeId attempt)=true) :
   Turn scope s (.report nodeId attempt agentId envelope) s.calls
    (acceptCompletedSpawnJob scope s.store nodeId agentId envelope)
 | failure {nodeId:κ} {attempt:ℕ}
   (hjob:s.store.operations.any (isJob scope nodeId attempt)=true) :
   Turn scope s (.failure nodeId attempt) s.calls (failCompletedSpawnJob scope s.store nodeId)
 | spawned {index:ℕ} {spawned:NodeRecord κ} {rest:List (WorkflowNode κ)}
   {digest operationId:String} (now:String)
   (hcall:s.calls[index]?=some (.enqueue spawned rest))
   (hartifact:scope.tables.artifactExists digest=true)
   (hunused:(readOperation s.store.operations scope.projectId operationId).isNone=true) :
   Turn scope s (.persisted index digest operationId now) (s.calls.eraseIdx index)
    (match enqueueSpawn scope s.store spawned operationId digest now with
    | .ok store => spawnNext store rest
    | .error e => (s.store,.failed (.store e)))
 | accepted {index:ℕ} {spawned:NodeRecord κ} {envelope:Envelope} {store:JobStore κ}
   (digest operationId now:String)
   (hcall:s.calls[index]?=some (.accept spawned envelope))
   (haccept:acceptEnvelope s.store spawned envelope=.ok store) :
   Turn scope s (.persisted index digest operationId now) (s.calls.eraseIdx index)
    (store,.waiting .resume)
 | rejected {index:ℕ} {call:Call κ} (reason:String)
   (hcall:s.calls[index]?=some call) (hkind:call≠.resume) :
   Turn scope s (.rejected index reason) (s.calls.eraseIdx index)
    (s.store,.failed (.persistence reason))
 | resumed {index:ℕ} (hcall:s.calls[index]?=some .resume) :
   Turn scope s (.resumed index) (s.calls.eraseIdx index)
    (enqueueReadyAgentWork scope s.store)

lemma turn_of_perform (h:perform scope s action=some t) :
  ∃calls result,Turn scope s action calls result ∧ t=.finish calls s.failures result := by
 cases action with
 | enqueue =>
   cases h
   exact ⟨_,_,.enqueue,rfl⟩
 | report nodeId attempt agentId envelope =>
   rw [perform] at h
   split at h
   · rename_i hallow
     cases h
     exact ⟨_,_,.report agentId envelope hallow.1,rfl⟩
   · cases h
 | failure nodeId attempt =>
   rw [perform] at h
   split at h
   · rename_i hjob
     cases h
     exact ⟨_,_,.failure hjob,rfl⟩
   · cases h
 | persisted index digest operationId now =>
   rw [perform] at h
   split at h
   on_goal 2 => cases h
   rename_i hartifact
   split at h
   · rename_i spawned rest hcall
     split at h
     · rename_i hunused
       cases h
       exact ⟨_,_,.spawned now hcall hartifact hunused,rfl⟩
     · cases h
   · rename_i spawned envelope hcall
     obtain ⟨accepted,-,-,-,haccept⟩:=acceptEnvelope_eq s.store spawned envelope
     rw [haccept] at h
     cases h
     exact ⟨_,_,.accepted digest operationId now hcall haccept,rfl⟩
   · cases h
   · cases h
 | rejected index reason =>
   rw [perform] at h
   split at h
   · rename_i hcall
     cases h
     exact ⟨_,_,.rejected reason hcall nofun,rfl⟩
   · rename_i hcall
     cases h
     exact ⟨_,_,.rejected reason hcall nofun,rfl⟩
   · cases h
   · cases h
 | resumed index =>
   rw [perform] at h
   split at h
   · rename_i hcall
     cases h
     exact ⟨_,_,.resumed hcall,rfl⟩
   · cases h
   · cases h
   · cases h

variable {calls:List (Call κ)} {result:JobStore κ×Outcome κ}

omit [DecidableEq κ] in
lemma mem_finish {failures:List (JobError κ)} {call:Call κ}
  (h:call∈(JobRun.finish calls failures result).calls) :
  call∈calls ∨ result.2=.waiting call := by
 obtain ⟨store,outcome⟩:=result
 cases outcome with
 | waiting new =>
   cases mem_append.mp h with
   | inl hold => exact .inl hold
   | inr hnew => exact .inr (congrArg Outcome.waiting (mem_singleton.mp hnew).symm)
 | finished | failed => exact .inl h

omit [DecidableEq κ] in
lemma finish_store {failures:List (JobError κ)} :
  (JobRun.finish calls failures result).store=result.1 := by
 obtain ⟨store,outcome⟩:=result
 cases outcome <;> rfl

lemma exists_turn (h:perform scope s action=some t) :
  ∃calls result,Turn scope s action calls result ∧ t.store=result.1 ∧
    ∀call∈t.calls,call∈s.calls ∨ result.2=.waiting call := by
 obtain ⟨calls,result,hturn,rfl⟩:=turn_of_perform h
 refine ⟨calls,result,hturn,finish_store,fun call hcall=>(mem_finish hcall).imp_left ?_⟩
 cases hturn with
 | enqueue | report | failure => exact id
 | spawned | accepted | rejected | resumed => exact mem_of_mem_eraseIdx

structure Upholds (scope:JobScope κ) (s:JobRun κ) (action:Action κ) (I:JobStore κ → Prop)
  (S:JobStore κ → List (WorkflowNode κ) → Prop) (Q:JobStore κ×Outcome κ → Prop) : Prop
  extends Enqueues I S Q where
 report : ∀{k a agentId envelope spawned},action=.report k a agentId envelope →
  s.store.operations.any (isJob scope k a)=true → Respawned s.store k spawned →
  Q (persistNode s.store spawned,.waiting (.accept spawned envelope))
 retry : ∀{k a agentId envelope spawned retried},action=.report k a agentId envelope →
  s.store.operations.any (isJob scope k a)=true → Respawned s.store k spawned →
  retried.nodeId=k → retried.status=.retrying → retried.attempt=spawned.attempt+1 →
  envelope.valid=false → I (persistNode (persistNode s.store spawned) retried)
 failure : ∀{k a record},action=.failure k a →
  s.store.operations.any (isJob scope k a)=true → record.nodeId=k →
  ((record.status=.retrying ∧ record.attempt=(currentRecord s.store k).attempt+1 ∧
    (currentRecord s.store k).attempt<3) ∨
   (record.status=.failed ∧ record.attempt=(currentRecord s.store k).attempt ∧
    status s.store k≠.retrying ∧ status s.store k≠.failed)) → I (persistNode s.store record)
 accept : ∀{spawned envelope accepted},.accept spawned envelope∈s.calls →
  accepted.nodeId=spawned.nodeId → accepted.attempt=spawned.attempt →
  I (persistNode s.store accepted)
 predicate : ∀{u} p,I u → I (setPredicate u p)
 queued : ∀{spawned rest},.enqueue spawned rest∈s.calls → S s.store rest
 job : ∀{rest} row,S s.store rest → I { s.store with operations:=s.store.operations++[row] } ∧
  S { s.store with operations:=s.store.operations++[row] } rest

lemma Upholds.turn {I:JobStore κ → Prop} {S:JobStore κ → List (WorkflowNode κ) → Prop}
  {Q:JobStore κ×Outcome κ → Prop} (h:Upholds scope s action I S Q) (hs:I s.store)
  (hturn:Turn scope s action calls result) : Q result := by
 have hready:Q (enqueueReadyAgentWork scope s.store):=h.enqueueReadyAgentWork hs
 have hresume:∀{u},I u → Q (u,.waiting .resume) := by
  refine fun hu=>h.stay hu ?_
  rintro _ ⟨⟩
  rfl
 cases hturn with
 | enqueue | resumed => exact hready
 | report agentId envelope hjob =>
   exact acceptCompletedSpawnJob_elim agentId envelope hready (fun _=>h.report rfl hjob)
    fun _ _ hagain hid hstatus hnext hinv=>
     hresume (h.retry rfl hjob hagain hid hstatus hnext hinv)
 | failure hjob =>
   refine failCompletedSpawnJob_elim hready fun record hid _ hresult=>?_
   exact h.enqueueReadyAgentWork (h.failure rfl hjob hid hresult)
 | rejected reason hcall => exact h.stay hs nofun
 | accepted digest operationId now hcall haccept =>
   obtain ⟨accepted,hid,-,hattempt,heq⟩:=acceptEnvelope_eq s.store _ _
   have haccepted:=h.accept (mem_of_getElem? hcall) hid hattempt
   rw [heq] at haccept
   split at haccept
   · cases haccept
     exact hresume (h.predicate _ haccepted)
   · cases haccept
     exact hresume haccepted
 | spawned now hcall hartifact hunused =>
   have hrest:=h.queued (mem_of_getElem? hcall)
   refine enqueueSpawn_elim now hartifact hunused (fun row _=>?_)
    fun _=>⟨h.spawnNext hs hrest,fun _=>h.stay hs nofun⟩
   exact h.spawnNext (h.job row hrest).1 (h.job row hrest).2

end Turns

section Working

variable [DecidableEq κ]

lemma piece_acceptCompletedSpawnJob (agentId:String) (envelope:Envelope) :
  Piece s (acceptCompletedSpawnJob scope s k agentId envelope) := by
 have hspawn:∀spawned,Respawned s k spawned → Grows s (persistNode s spawned) ∧
   status (persistNode s spawned) k=.spawned := by
  intro spawned h
  refine ⟨grows_persistNode ?_ fun haccepted=>absurd (h.id ▸ haccepted) h.unaccepted,?_⟩
  · rw [h.status]
    decide
  · unfold status
    rw [currentRecord_persistNode,if_pos h.id.symm]
    exact h.status
 refine acceptCompletedSpawnJob_elim agentId envelope (piece_enqueueReadyAgentWork)
  ?_ ?_
 · intro spawned h
   obtain ⟨hgrows,hspawned⟩:=hspawn spawned h
   refine ⟨hgrows,rfl,?_⟩
   intro call hcall
   cases hcall
   have hstarted:status (persistNode s spawned) spawned.nodeId≠.pending := by
    rw [h.id,hspawned]
    decide
   exact hstarted
 · intro spawned retried h hid hretry _ _
   obtain ⟨hgrows,hspawned⟩:=hspawn spawned h
   refine ⟨hgrows.trans (grows_persistNode ?_ fun haccepted=>?_),rfl,?_⟩
   · rw [hretry]
     decide
   · rw [hid,hspawned] at haccepted
     exact absurd haccepted (by decide)
   · intro call hcall
     cases hcall
     trivial

lemma piece_failCompletedSpawnJob : Piece s (failCompletedSpawnJob scope s k) := by
 refine failCompletedSpawnJob_elim (piece_enqueueReadyAgentWork) ?_
 intro record hid hopen hstatus
 refine piece_enqueues.enqueueReadyAgentWork
  ⟨grows_persistNode ?_ fun haccepted=>absurd (hid ▸ haccepted) hopen,rfl⟩
 cases hstatus with
 | inl hretry =>
   rw [hretry.1]
   decide
 | inr hfail =>
   rw [hfail.1]
   decide

lemma piece_acceptEnvelope {spawned:NodeRecord κ} {envelope:Envelope} {store:JobStore κ}
  (h:acceptEnvelope s spawned envelope=.ok store) : Piece s (store,.waiting .resume) := by
 obtain ⟨accepted,-,hstatus,-,haccept⟩:=acceptEnvelope_eq s spawned envelope
 rw [haccept] at h
 have haccepted:Grows s (persistNode s accepted) := by
  apply grows_persistNode
  · rw [hstatus]
    decide
  · exact fun _=>hstatus
 have hresume:∀call : Call κ,Outcome.waiting .resume=.waiting call →
   CallSound store call := by
  intro call hcall
  cases hcall
  trivial
 split at h
 · cases h
   refine ⟨haccepted.trans (grows_setPredicate _),?_,hresume⟩
   unfold setPredicate
   split <;> rfl
 · cases h
   exact ⟨haccepted,rfl,hresume⟩

structure Working (scope:JobScope κ) (s:JobRun κ) : Prop where
 jobs : ∀k attempt,s.store.operations.any (isJob scope k attempt)=true →
  status s.store k≠.pending
 calls : ∀call∈s.calls,CallSound s.store call

variable {run:JobRun κ} {calls:List (Call κ)} {result:JobStore κ×Outcome κ}

omit [DecidableEq κ] in
lemma isJob_append {row:OperationRow} {k':κ} {attempt attempt':ℕ}
  (hrow:isJob scope k attempt row=true)
  (h:(s.operations++[row]).any (isJob scope k' attempt')=true) :
  s.operations.any (isJob scope k' attempt')=true ∨ (k'=k ∧ attempt'=attempt) := by
 rw [any_append,Bool.or_eq_true] at h
 cases h with
 | inl hold => exact .inl hold
 | inr hnew =>
   have hkey:row.dedupeKey=dedupeKey scope k attempt:=(of_decide_eq_true hrow).2.2.2
   have hkey':isJob scope k' attempt' row=true := by simpa using hnew
   have hkey':row.dedupeKey=dedupeKey scope k' attempt':=(of_decide_eq_true hkey').2.2.2
   exact .inr (dedupeKey_injective (hkey'.symm.trans hkey))

structure TurnSound (scope:JobScope κ) (s:JobStore κ) (result:JobStore κ×Outcome κ) :
  Prop where
 grows : Grows s result.1
 sound : ∀call,result.2=.waiting call → CallSound result.1 call
 jobs : ∀k attempt,result.1.operations.any (isJob scope k attempt)=true →
  status result.1 k≠.pending

omit [DecidableEq κ] in
lemma Working.of_piece (h:Working scope run) (hpiece:Piece run.store result) :
  TurnSound scope run.store result := by
 refine ⟨hpiece.grows,hpiece.sound,?_⟩
 intro k attempt hjob
 rw [hpiece.operations] at hjob
 exact hpiece.grows.started k (h.jobs k attempt hjob)

lemma Working.of_spawned (h:Working scope run) {spawned:NodeRecord κ} {row:OperationRow}
  {rest:List (WorkflowNode κ)} (hcall:CallSound run.store (.enqueue spawned rest))
  (hrow:isJob scope spawned.nodeId spawned.attempt row=true) :
  TurnSound scope run.store
   (spawnNext { run.store with operations:=run.store.operations++[row] } rest) := by
 have hsame:Grows run.store { run.store with operations:=run.store.operations++[row] } :=
  .of_same_records rfl (fun _ hp=>hp) fun _=>rfl
 have hpiece:=piece_enqueues.spawnNext ⟨.refl _,rfl⟩ (hcall.2.mono hsame)
 have hgrows:=hsame.trans hpiece.grows
 refine ⟨hgrows,hpiece.sound,?_⟩
 intro k attempt hjob
 rw [hpiece.operations] at hjob
 apply hgrows.started k
 cases isJob_append hrow hjob with
 | inl hold => exact h.jobs k attempt hold
 | inr hnew =>
   rw [hnew.1]
   exact hcall.1

lemma Working.turn (h:Working scope run) (hturn:Turn scope run action calls result) :
  TurnSound scope run.store result := by
 cases hturn with
 | enqueue | resumed => exact h.of_piece (piece_enqueueReadyAgentWork)
 | report agentId envelope hjob =>
   exact h.of_piece (piece_acceptCompletedSpawnJob agentId envelope)
 | failure hjob => exact h.of_piece piece_failCompletedSpawnJob
 | rejected reason hcall => exact h.of_piece ⟨.refl _,rfl,fun _ h=>by cases h⟩
 | accepted digest operationId now hcall haccept => exact h.of_piece (piece_acceptEnvelope haccept)
 | spawned now hcall hartifact hunused =>
   have hsound:=h.calls _ (mem_of_getElem? hcall)
   refine enqueueSpawn_elim now hartifact hunused (fun row hrow=>h.of_spawned hsound hrow)
    fun _=>⟨h.of_piece (piece_enqueues.spawnNext ⟨.refl _,rfl⟩ hsound.2),fun e=>?_⟩
   exact h.of_piece ⟨.refl _,rfl,fun _ h=>by cases h⟩

lemma Working.step (h:Working scope run) (hstep:Step scope run t) :
  Working scope t ∧ Grows run.store t.store := by
 obtain ⟨action,hperform⟩:=hstep
 obtain ⟨calls,result,hturn,hstore,hcalls⟩:=exists_turn hperform
 have hsound:=h.turn hturn
 refine ⟨⟨?_,fun call hcall=>?_⟩,?_⟩
 all_goals rw [hstore]
 · exact hsound.jobs
 · cases hcalls call hcall with
   | inl hold => exact (h.calls call hold).mono hsound.grows
   | inr hnew => exact hsound.sound call hnew
 · exact hsound.grows

lemma Working.reachable (h:Working scope run)
  (hrun:Relation.ReflTransGen (Step scope) run t) : Working scope t := by
 induction hrun with
 | refl => exact h
 | tail _ hstep ih => exact (ih.step hstep).1

end Working

section Traces

variable [DecidableEq κ] {s:JobRun κ}

def performAll (scope:JobScope κ) (s:JobRun κ) (actions:List (Action κ)) :
    Option (JobRun κ) :=
 actions.foldlM (perform scope) s

lemma reachable_of_performAll {actions:List (Action κ)}
  (h:performAll scope s actions=some t) : Relation.ReflTransGen (Step scope) s t := by
 induction actions generalizing s with
 | nil =>
   cases h
   exact .refl
 | cons action actions ih =>
   obtain ⟨u,hu,h⟩:=bind_eq_some_iff.mp h
   exact .head ⟨action,hu⟩ (ih h)

end Traces

end EpistemicCompiler.AgentJobs
