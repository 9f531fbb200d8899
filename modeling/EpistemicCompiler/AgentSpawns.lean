import EpistemicCompiler.AgentRetries

set_option autoImplicit false

/-!
# The jobs of spawned nodes

A node is spawned before the artifact of its request is persisted, and its job is enqueued after. A
rejected artifact leaves a node without a job, and of two overlapping calls one may find its node
spawned by the other.
-/
namespace EpistemicCompiler.AgentJobs
open ProfileCatalog OperationStore DagEngine Relation List Option Bool

section Records

variable {κ:Type} {scope:JobScope κ} {s t:JobStore κ} {record spawned:NodeRecord κ} {k:κ}
 {flying:Option κ} {a:ℕ} {operations:OperationTable} {current:NodeRecord κ}

def jobs (scope:JobScope κ) (operations:OperationTable) (k:κ) (attempt:ℕ) : ℕ :=
 operations.countP (isJob scope k attempt)

/-- The jobs of one node against its record; the node in flight has none for its attempt yet. -/
structure NodeOk (scope:JobScope κ) (operations:OperationTable) (flying:Option κ)
  (record:NodeRecord κ) : Prop where
 pending : record.status=.pending → record.attempt=0
 future : record.status≠.accepted → ∀a,record.attempt<a →
  jobs scope operations record.nodeId a=0
 idle : record.status=.pending ∨ record.status=.retrying →
  jobs scope operations record.nodeId record.attempt=0
 active : record.status≠.pending → record.status≠.retrying → record.status≠.accepted →
  1 ≤ record.attempt ∧ (flying≠some record.nodeId →
    jobs scope operations record.nodeId record.attempt=1)

structure Consistent (scope:JobScope κ) (flying:Option κ) (s:JobStore κ) : Prop where
 distinct : (s.profile.map (·.id)).Nodup
 keys : ∀row∈s.operations,∀k a,row.projectId=scope.projectId →
  row.runId=scope.runId → row.dedupeKey=dedupeKey scope k a → row.operationKind=.spawnAgent
 once : ∀k a,jobs scope s.operations k a ≤ 1
 nodes : ∀k,NodeOk scope s.operations flying (currentRecord s k)

lemma nodeOk_accepted (h:record.status=.accepted) :
  NodeOk scope operations flying record := by
 refine ⟨?_,?_,?_,?_⟩
 · intro hpending
   rw [h] at hpending
   cases hpending
 · intro hopen
   exact absurd h hopen
 · intro hidle
   rw [h] at hidle
   exact absurd hidle (by decide)
 · intro _ _ hopen
   exact absurd h hopen

lemma jobs_append {row:OperationRow} (hrow:isJob scope k a row=true) (k':κ) (a':ℕ) :
  (k'=k ∧ a'=a ∧ jobs scope (operations++[row]) k' a'=jobs scope operations k a+1) ∨
   (¬ (k'=k ∧ a'=a) ∧
    jobs scope (operations++[row]) k' a'=jobs scope operations k' a') := by
 unfold jobs
 by_cases hsame : k'=k ∧ a'=a
 · obtain ⟨rfl,rfl⟩:=hsame
   exact .inl ⟨rfl,rfl,by simp [hrow]⟩
 · refine .inr ⟨hsame,?_⟩
   have hother:isJob scope k' a' row=false := by
    by_contra hjob
    have hkey:=(of_decide_eq_true hrow).2.2.2
    have hkey':=(of_decide_eq_true (not_eq_false _ ▸ hjob)).2.2.2
    exact hsame (dedupeKey_injective (hkey'.symm.trans hkey))
   simp [hother]

section

variable (h:NodeOk scope operations none current)
include h

lemma NodeOk.spawn
  (hidle:current.status=.pending ∨ current.status=.retrying)
  (hspawn:reduceNode current .nodeSpawned none=.ok spawned) :
  NodeOk scope operations (some spawned.nodeId) spawned ∧
   jobs scope operations spawned.nodeId spawned.attempt=0 := by
 obtain ⟨hid,hstatus,hopen⟩:=reduceNode_spawn hspawn
 have hattempt:=reduceNode_spawn_attempt hspawn
 refine ⟨⟨?_,?_,?_,?_⟩,?_⟩
 · intro hpending
   rw [hstatus] at hpending
   cases hpending
 · intro _ a ha
   rw [hid]
   apply h.future hopen
   split at hattempt <;> omega
 · intro hidle
   rw [hstatus] at hidle
   exact absurd hidle (by decide)
 · intro _ _ _
   refine ⟨?_,fun hground=>absurd rfl hground⟩
   split at hattempt <;> omega
 · rw [hid]
   by_cases hzero : current.attempt=0
   · apply h.future hopen
     rw [if_pos hzero] at hattempt
     omega
   · rw [if_neg hzero] at hattempt
     rw [hattempt]
     exact h.idle hidle

lemma NodeOk.retry (hopen:current.status≠.accepted)
  (hid:record.nodeId=current.nodeId) (hstatus:record.status=.retrying)
  (hattempt:record.attempt=current.attempt+1) : NodeOk scope operations none record := by
 refine ⟨?_,?_,?_,?_⟩
 · intro hpending
   rw [hstatus] at hpending
   cases hpending
 · intro _ a ha
   rw [hid]
   apply h.future hopen
   omega
 · intro _
   rw [hid,hattempt]
   apply h.future hopen
   omega
 · intro _ hnotRetrying
   exact absurd hstatus hnotRetrying

lemma NodeOk.same
  (hact:current.status≠.pending ∧ current.status≠.retrying ∧ current.status≠.accepted)
  (hid:record.nodeId=current.nodeId) (hattempt:record.attempt=current.attempt)
  (hstatus:record.status=.spawned ∨ record.status=.failed) :
  NodeOk scope operations none record := by
 have hnotIdle:¬ (record.status=.pending ∨ record.status=.retrying) := by
  cases hstatus with
  | inl h => rw [h]; decide
  | inr h => rw [h]; decide
 refine ⟨?_,?_,?_,?_⟩
 · intro hpending
   exact absurd (.inl hpending) hnotIdle
 · intro _
   rw [hid,hattempt]
   exact h.future hact.2.2
 · intro hidle
   exact absurd hidle hnotIdle
 · intro _ _ _
   rw [hid,hattempt]
   exact h.active hact.1 hact.2.1 hact.2.2

end 

lemma Consistent.settled (h:Consistent scope none s) (hsettled:Settled s t) :
  Consistent scope none t := by
 refine ⟨?_,?_,?_,?_⟩
 · rw [hsettled.profile]
   exact h.distinct
 · rw [hsettled.operations]
   exact h.keys
 · rw [hsettled.operations]
   exact h.once
 · intro k
   rw [hsettled.operations]
   cases hsettled.records k with
   | inl hsame =>
     rw [hsame]
     exact h.nodes k
   | inr hpasses => exact nodeOk_accepted hpasses.1

lemma Consistent.setPredicate (h:Consistent scope flying s) (predicate:String) :
  Consistent scope flying (setPredicate s predicate) := by
 have hops:(AgentJobs.setPredicate s predicate).operations=s.operations := by
  unfold AgentJobs.setPredicate
  split <;> rfl
 refine ⟨?_,?_,?_,?_⟩
 · rw [(grows_setPredicate predicate).profile]
   exact h.distinct
 · rw [hops]
   exact h.keys
 · rw [hops]
   exact h.once
 · intro k
   rw [hops,currentRecord_setPredicate]
   exact h.nodes k

lemma Consistent.not_pending (h:Consistent scope none s)
  (hjob:s.operations.any (isJob scope k a)=true) : status s k≠.pending := by
 intro hpending
 have hnode:=h.nodes k
 have hattempt:=hnode.pending hpending
 have hpos:0<jobs scope s.operations k a:=countP_pos_iff.mpr (any_eq_true.mp hjob)
 have hidle:=hnode.idle (.inl hpending)
 have hopen:(currentRecord s k).status≠.accepted := by
  rw [show (currentRecord s k).status=.pending from hpending]
  decide
 have hfuture:=hnode.future hopen a
 rw [currentRecord_id] at hidle hfuture
 by_cases hzero : a=0
 · rw [hattempt,← hzero] at hidle
   omega
 · omega

lemma Consistent.land (h:Consistent scope (some spawned.nodeId) s) {row:OperationRow}
  (hcurrent:currentRecord s spawned.nodeId=spawned) (hstatus:spawned.status=.spawned)
  (hnone:jobs scope s.operations spawned.nodeId spawned.attempt=0)
  (hrow:isJob scope spawned.nodeId spawned.attempt row=true) :
  Consistent scope none { s with operations:=s.operations++[row] } := by
 refine ⟨h.distinct,?_,?_,?_⟩
 · intro other hother k a hproj hrun hkey
   cases mem_append.mp hother with
   | inl hold => exact h.keys other hold k a hproj hrun hkey
   | inr hnew =>
     rw [mem_singleton.mp hnew]
     exact (of_decide_eq_true hrow).2.2.1
 · intro k a
   rcases jobs_append hrow k a with ⟨-,-,hjobs⟩ | ⟨-,hjobs⟩
   · rw [hjobs,hnone]
   · rw [hjobs]
     exact h.once k a
 · intro k
   have hnode:=h.nodes k
   by_cases hk : k=spawned.nodeId
   · have hrecord:currentRecord { s with operations:=s.operations++[row] } k=spawned := by
      rw [hk]
      exact hcurrent
     rw [hk,hcurrent] at hnode
     rw [hrecord]
     refine ⟨hnode.pending,?_,?_,?_⟩
     · intro hopen a ha
       rcases jobs_append hrow spawned.nodeId a with ⟨-,hsame,-⟩ | ⟨-,hjobs⟩
       · omega
       · rw [hjobs]
         exact hnode.future hopen a ha
     · intro hidle
       rw [hstatus] at hidle
       exact absurd hidle (by decide)
     · intro hpending hretrying hopen
       refine ⟨(hnode.active hpending hretrying hopen).1,fun _=>?_⟩
       rcases jobs_append hrow spawned.nodeId spawned.attempt with ⟨-,-,hjobs⟩ | ⟨hother,-⟩
       · rw [hjobs,hnone]
       · exact absurd ⟨rfl,rfl⟩ hother
   · have hjobs:∀a,jobs scope (s.operations++[row]) (currentRecord s k).nodeId a =
       jobs scope s.operations (currentRecord s k).nodeId a := by
      intro a
      rw [currentRecord_id]
      rcases jobs_append hrow k a with ⟨hsame,-,-⟩ | ⟨-,hjobs⟩
      · exact absurd hsame hk
      · exact hjobs
     refine ⟨hnode.pending,?_,?_,?_⟩
     · intro hopen a ha
       exact (hjobs a).trans (hnode.future hopen a ha)
     · intro hidle
       exact (hjobs _).trans (hnode.idle hidle)
     · intro hpending hretrying hopen
       obtain ⟨hattempt,hone⟩:=hnode.active hpending hretrying hopen
       refine ⟨hattempt,fun _=>(hjobs _).trans (hone ?_)⟩
       rw [currentRecord_id]
       intro hsame
       exact hk (some.inj hsame).symm

lemma Consistent.not_hasKey (h:Consistent scope flying s)
  (hnone:jobs scope s.operations k a=0) : ¬ HasKey scope s k a := by
 intro hkey
 obtain ⟨row,hrow,hproj,hrun,hkey⟩:=hkey
 have hkind:=h.keys row hrow k a hproj hrun hkey
 have hjob:isJob scope k a row=true := by
  exact decide_eq_true ⟨hproj,hrun,hkind,hkey⟩
 have hpos:0<jobs scope s.operations k a:=countP_pos_iff.mpr ⟨row,hrow,hjob⟩
 omega

structure Queue (s:JobStore κ) (specs:List (WorkflowNode κ)) : Prop where
 distinct : (specs.map (·.id)).Nodup
 idle : ∀spec∈specs,status s spec.id=.pending ∨ status s spec.id=.retrying

lemma Queue.sublist {specs rest:List (WorkflowNode κ)} (h:Queue s specs)
  (hsub:rest.Sublist specs) : Queue s rest :=
 ⟨h.distinct.sublist (hsub.map _),fun spec hspec=>h.idle spec (hsub.subset hspec)⟩

variable [DecidableEq κ]

lemma Consistent.persistNode (h:Consistent scope none s)
  (hrecord:NodeOk scope s.operations flying record) :
  Consistent scope flying (persistNode s record) := by
 refine ⟨h.distinct,h.keys,h.once,?_⟩
 intro k
 rw [currentRecord_persistNode]
 split
 · exact hrecord
 · obtain ⟨hpending,hfuture,hidle,hact⟩:=h.nodes k
   refine ⟨hpending,hfuture,hidle,?_⟩
   intro hnotPending hnotRetrying hopen
   obtain ⟨hattempt,hjobs⟩:=hact hnotPending hnotRetrying hopen
   exact ⟨hattempt,fun _=>hjobs (by simp)⟩

lemma Queue.persistNode {spec:WorkflowNode κ} {rest:List (WorkflowNode κ)}
  (h:Queue s (spec::rest)) (hid:spawned.nodeId=spec.id) :
  Queue (persistNode s spawned) rest := by
 refine ⟨(nodup_cons.mp h.distinct).2,?_⟩
 intro other hother
 have hne:other.id≠spawned.nodeId := by
  intro hsame
  rw [hid] at hsame
  exact (nodup_cons.mp h.distinct).1 (mem_map.mpr ⟨other,hother,hsame⟩)
 unfold status
 rw [currentRecord_persistNode,if_neg hne]
 exact h.idle other (mem_cons_of_mem _ hother)

end Records

section Turns

variable {κ:Type} [DecidableEq κ] {scope:JobScope κ} {s t:JobStore κ}
 {record spawned:NodeRecord κ} {k:κ}

variable {e:DagError κ} {a:ℕ}

/-- The store of a run whose calls follow one another, with the call that waits if there is one. -/
def Sound (scope:JobScope κ) (s:JobStore κ) : Option (Call κ) → Prop
 | none | some .resume => Consistent scope none s
 | some (.accept spawned _) =>
   Consistent scope none s ∧ currentRecord s spawned.nodeId=spawned ∧ spawned.status=.spawned
 | some (.enqueue spawned rest) =>
   Consistent scope (some spawned.nodeId) s ∧ currentRecord s spawned.nodeId=spawned ∧
    spawned.status=.spawned ∧ jobs scope s.operations spawned.nodeId spawned.attempt=0 ∧
    Queue s rest

def waitingCall : Outcome κ → Option (Call κ)
 | .waiting call => some call
 | .finished | .failed _ => none

def SpawnedFirst (error:JobError κ) : Prop :=
 ∃status,error=.dag (.illegalTransition status .nodeSpawned)

structure SoundTurn (scope:JobScope κ) (result:JobStore κ×Outcome κ) : Prop where
 store : Sound scope result.1 (waitingCall result.2)
 error : ∀e,result.2=.failed e → ¬ SpawnedFirst e

omit [DecidableEq κ] in
lemma not_spawnedFirst_of_lookup (h:e.IsLookup) : ¬ SpawnedFirst (.dag e) := by
 intro hfirst
 obtain ⟨status,heq⟩:=hfirst
 cases heq
 exact h

lemma controllerWave_error (h:(controllerWave s).2=.error e) : e.IsLookup := by
 unfold controllerWave at h
 split at h
 · rename_i hskip
   cases h
   exact raises_skippedDisabledNodes _ _ hskip
 · dsimp only at h
   split at h
   · rename_i hready
     cases h
     exact raises_readyNodes _ _ hready
   · cases h

lemma advanceControllerNodes_error {waves:ℕ} (h:(advanceControllerNodes waves s).2=.error e) :
  e.IsLookup := by
 induction waves generalizing s with
 | zero => cases h
 | succ waves ih =>
   unfold advanceControllerNodes at h
   split at h
   · rename_i hwave
     cases h
     apply controllerWave_error
     rw [hwave]
   · cases h
   · exact ih h

section

variable (h:Consistent scope none s)
include h

lemma Consistent.spawnNext {specs:List (WorkflowNode κ)} (hqueue:Queue s specs) :
  SoundTurn scope (spawnNext s specs) := by
 apply spawnNext_elim
 · intro outcome hdone hcause
   refine ⟨?_,fun e he=>?_⟩
   · cases outcome with
     | waiting call => exact absurd rfl (hdone call)
     | finished | failed => exact h
   · rcases hcause e he with rfl | ⟨spec,hspec,error,-,hreduce⟩
     · intro hfirst
       obtain ⟨status,heq⟩:=hfirst
       cases heq
     · obtain ⟨spawned,hspawned,-⟩:=reduceNode_spawned (hqueue.idle spec hspec)
       rw [hspawned] at hreduce
       cases hreduce
 · intro spec rest spawned hsub hspawn
   have hhead:=hqueue.sublist hsub
   obtain ⟨hid,-⟩:=grows_spawn hspawn
   obtain ⟨hnode,hjobs⟩ :=
    (h.nodes spec.id).spawn (hhead.idle spec mem_cons_self) hspawn
   refine ⟨⟨h.persistNode hnode,?_,(reduceNode_spawn hspawn).2.1,hjobs,
    hhead.persistNode hid⟩,fun _ h=>by cases h⟩
   rw [currentRecord_persistNode,if_pos rfl]

lemma Consistent.enqueueReadyAgentWork : SoundTurn scope (enqueueReadyAgentWork scope s) := by
 apply enqueueReadyAgentWork_elim
 · intro u e hsettled hcause
   refine ⟨h.settled hsettled,fun e' he'=>?_⟩
   cases he'
   apply not_spawnedFirst_of_lookup
   cases hcause with
   | inl hcontrol =>
     apply advanceControllerNodes_error
     rw [hcontrol]
   | inr hready => exact raises_readyNodes _ _ hready
 · intro u ready hsettled hready
   have hu:=h.settled hsettled
   obtain ⟨hsub,hnodes⟩:=readyNodes_ok hready
   exact hu.spawnNext ⟨hu.distinct.sublist (hsub.map _),fun spec hspec=>
    Ready.status (hnodes spec hspec)⟩

lemma Consistent.acceptCompletedSpawnJob
  (hjob:s.operations.any (isJob scope k a)=true) (hretrying:status s k≠.retrying)
  (agentId:String) (envelope:Envelope) :
  SoundTurn scope (acceptCompletedSpawnJob scope s k agentId envelope) := by
 have hcurrent:=h.nodes k
 have hspawned:∀spawned,Respawned s k spawned →
   Consistent scope none (AgentJobs.persistNode s spawned) := by
  intro spawned hagain
  have hact:=And.intro (h.not_pending hjob) (And.intro hretrying hagain.unaccepted)
  have hone:=(hcurrent.active hact.1 hact.2.1 hact.2.2).1
  have hsame:=hagain.attempt
  rw [if_neg (by omega)] at hsame
  exact h.persistNode (hcurrent.same hact (hagain.id.trans currentRecord_id.symm) hsame
   (.inl hagain.status))
 refine acceptCompletedSpawnJob_elim agentId envelope h.enqueueReadyAgentWork ?_ ?_
 · intro spawned hagain
   refine ⟨⟨hspawned spawned hagain,?_,hagain.status⟩,fun _ h=>by cases h⟩
   rw [currentRecord_persistNode,if_pos rfl]
 · intro spawned retried hagain hid hstatus hnext _
   have hrecord:currentRecord (AgentJobs.persistNode s spawned) k=spawned := by
    rw [currentRecord_persistNode,if_pos hagain.id.symm]
   have hnode:=(hspawned spawned hagain).nodes k
   rw [hrecord] at hnode
   have hretry:=hnode.retry (by rw [hagain.status]; decide) (hid.trans hagain.id.symm)
    hstatus hnext
   exact ⟨(hspawned spawned hagain).persistNode hretry,fun _ h=>by cases h⟩

lemma Consistent.failCompletedSpawnJob
  (hjob:s.operations.any (isJob scope k a)=true) :
  SoundTurn scope (failCompletedSpawnJob scope s k) := by
 refine failCompletedSpawnJob_elim h.enqueueReadyAgentWork ?_
 intro record hid hopen hresult
 have hid:record.nodeId=(currentRecord s k).nodeId:=hid.trans currentRecord_id.symm
 have hrecord:NodeOk scope s.operations none record := by
  cases hresult with
  | inl hretrying => exact (h.nodes k).retry hopen hid hretrying.1 hretrying.2.1
  | inr hfail =>
    exact (h.nodes k).same ⟨h.not_pending hjob,hfail.2.2.1,hopen⟩ hid hfail.2.1
     (.inr hfail.1)
 exact (h.persistNode hrecord).enqueueReadyAgentWork

lemma Consistent.acceptEnvelope {envelope:Envelope}
  (haccept:acceptEnvelope s spawned envelope=.ok t) : Consistent scope none t := by
 obtain ⟨accepted,-,hstatus,-,heq⟩:=acceptEnvelope_eq s spawned envelope
 rw [heq] at haccept
 have haccepted:Consistent scope none (AgentJobs.persistNode s accepted) :=
  h.persistNode (nodeOk_accepted hstatus)
 split at haccept
 · cases haccept
   exact haccepted.setPredicate _
 · cases haccept
   exact haccepted

end 

end Turns

section Runs

variable {κ:Type} [DecidableEq κ] {scope:JobScope κ} {s t:JobRun κ} {action:Action κ}
 {calls:List (Call κ)} {result:JobStore κ×Outcome κ}

/-- Calls follow one another, every artifact is persisted, and no result comes back for a node that
waits to be retried. -/
def Sequential (s:JobRun κ) : Action κ → Prop
 | .enqueue | .failure _ _ => s.calls=[]
 | .report nodeId _ _ _ => s.calls=[] ∧ status s.store nodeId≠.retrying
 | .rejected _ _ => False
 | .persisted _ _ _ _ | .resumed _ => True

structure SoundRun (scope:JobScope κ) (s:JobRun κ) : Prop where
 single : s.calls.length ≤ 1
 store : Sound scope s.store s.calls.head?

omit [DecidableEq κ] in
lemma SoundRun.call (h:SoundRun scope s) {index:ℕ} {call:Call κ}
  (hcall:s.calls[index]?=some call) :
  Sound scope s.store (some call) ∧ s.calls.eraseIdx index=[] := by
 obtain ⟨hindex,heq⟩:=List.getElem?_eq_some_iff.mp hcall
 have hsingle:=h.single
 have hzero:index=0 := by omega
 subst hzero
 obtain ⟨first,hcalls⟩:=length_eq_one_iff.mp (by omega:s.calls.length=1)
 have hstore:=h.store
 rw [hcalls] at hcall hstore ⊢
 cases hcall
 exact ⟨hstore,rfl⟩

omit [DecidableEq κ] in
lemma SoundRun.idle (h:SoundRun scope s) (hcalls:s.calls=[]) :
  Consistent scope none s.store := by
 have hstore:=h.store
 rw [hcalls] at hstore
 exact hstore

lemma SoundRun.turn (h:SoundRun scope s) (hrule:Sequential s action)
  (hturn:Turn scope s action calls result) : SoundTurn scope result ∧ calls=[] := by
 cases hturn with
 | enqueue => exact ⟨(h.idle hrule).enqueueReadyAgentWork,hrule⟩
 | report agentId envelope hjob =>
   exact ⟨(h.idle hrule.1).acceptCompletedSpawnJob hjob hrule.2 agentId envelope,hrule.1⟩
 | failure hjob => exact ⟨(h.idle hrule).failCompletedSpawnJob hjob,hrule⟩
 | rejected reason hcall => exact hrule.elim
 | resumed hcall =>
   obtain ⟨hsound,hcalls⟩:=h.call hcall
   exact ⟨hsound.enqueueReadyAgentWork,hcalls⟩
 | accepted digest operationId now hcall haccept =>
   obtain ⟨hsound,hcalls⟩:=h.call hcall
   exact ⟨⟨hsound.1.acceptEnvelope haccept,fun _ h=>by cases h⟩,hcalls⟩
 | spawned now hcall hartifact hunused =>
   obtain ⟨⟨hsound,hcurrent,hstatus,hnone,hqueue⟩,hcalls⟩:=h.call hcall
   refine ⟨?_,hcalls⟩
   refine enqueueSpawn_elim now hartifact hunused (fun row hrow=>?_) fun htaken=>
    absurd htaken (hsound.not_hasKey hnone)
   exact (hsound.land hcurrent hstatus hnone hrow).spawnNext ⟨hqueue.distinct,hqueue.idle⟩

lemma SoundRun.step (h:SoundRun scope s) (hstep:StepWith scope Sequential s t) :
  SoundRun scope t ∧ ∀e∈t.failures,e∈s.failures ∨ ¬ SpawnedFirst e := by
 obtain ⟨action,hrule,hperform⟩:=hstep
 obtain ⟨calls,result,hturn,ht⟩:=turn_of_perform hperform
 obtain ⟨hsound,hcalls⟩:=h.turn hrule hturn
 rw [ht,hcalls]
 obtain ⟨store,outcome⟩:=result
 cases outcome with
 | waiting call => exact ⟨⟨Nat.le_refl 1,hsound.store⟩,fun e he=>.inl he⟩
 | finished => exact ⟨⟨Nat.zero_le 1,hsound.store⟩,fun e he=>.inl he⟩
 | failed error =>
   refine ⟨⟨Nat.zero_le 1,hsound.store⟩,?_⟩
   intro e he
   cases mem_append.mp he with
   | inl hold => exact .inl hold
   | inr hnew =>
     rw [mem_singleton.mp hnew]
     exact .inr (hsound.error error rfl)

lemma SoundRun.reachable (h:SoundRun scope s)
  (hrun:ReflTransGen (StepWith scope Sequential) s t) :
  SoundRun scope t ∧ ∀e∈t.failures,e∈s.failures ∨ ¬ SpawnedFirst e := by
 induction hrun with
 | refl => exact ⟨h,fun e he=>.inl he⟩
 | tail _ hstep ih =>
   obtain ⟨hsound,herror⟩:=ih.1.step hstep
   refine ⟨hsound,?_⟩
   intro e he
   cases herror e he with
   | inl hold => exact ih.2 e hold
   | inr hnew => exact .inr hnew

def Spawns (k:κ) : Call κ → Prop
 | .enqueue spawned _ => spawned.nodeId=k
 | .accept _ _ | .resume => False

omit [DecidableEq κ] in
lemma Sound.one_job {k:κ} {call:Option (Call κ)} {store:JobStore κ}
  (h:Sound scope store call) (hground:∀c,call=some c → ¬ Spawns k c)
  (hspawned:status store k=.spawned) : jobs scope store.operations k (attempt store k)=1 := by
 have hnode:∃flying,flying≠some k ∧ NodeOk scope store.operations flying
   (currentRecord store k) := by
  match call, h with
  | none, h | some .resume, h => exact ⟨none,by simp,h.nodes k⟩
  | some (.accept _ _), h => exact ⟨none,by simp,h.1.nodes k⟩
  | some (.enqueue spawned rest), h =>
    refine ⟨some spawned.nodeId,?_,h.1.nodes k⟩
    intro hsame
    exact hground _ rfl (some.inj hsame)
 obtain ⟨flying,hflying,hnode⟩:=hnode
 have hstatus:(currentRecord store k).status=.spawned:=hspawned
 have hact:=hnode.active (by rw [hstatus]; decide) (by rw [hstatus]; decide)
  (by rw [hstatus]; decide)
 rw [currentRecord_id] at hact
 exact hact.2 hflying

/-- In a run whose calls follow one another, with every artifact persisted, each spawned node has
exactly one job for its attempt once its call has moved on, and no call finds its node spawned. -/
theorem one_job_per_spawn {first:JobRun κ} (hcalls:first.calls=[])
  (hfirst:Consistent scope none first.store)
  (hrun:ReflTransGen (StepWith scope Sequential) first s) :
  (∀k,status s.store k=.spawned → (∀call∈s.calls,¬ Spawns k call) →
    jobs scope s.store.operations k (attempt s.store k)=1) ∧
   ∀e∈s.failures,e∈first.failures ∨ ¬ SpawnedFirst e := by
 have hsound:SoundRun scope first := by
  refine ⟨?_,?_⟩
  · rw [hcalls]
    exact Nat.zero_le 1
  · rw [hcalls]
    exact hfirst
 obtain ⟨hreached,herrors⟩:=hsound.reachable hrun
 refine ⟨?_,herrors⟩
 intro k hspawned hground
 apply hreached.store.one_job _ hspawned
 intro call hcall
 exact hground call (mem_of_mem_head? hcall)

end Runs

lemma consistent_startAt {profile:WorkflowProfile} (h:(profile.nodes.map (·.id)).Nodup)
  (predicates:List String) : Consistent sampleScope none (startAt profile predicates).store := by
 refine ⟨h,?_,fun k a=>Nat.zero_le 1, ?_⟩
 · intro row hrow
   cases hrow
 intro k
 by_cases hanalyst : k=.analyst
 · subst hanalyst
   exact nodeOk_accepted rfl
 · have hrecord:currentRecord (startAt profile predicates).store k=⟨k,.pending,0,none⟩ := by
    simp [currentRecord,startAt,hanalyst]
   rw [hrecord]
   exact ⟨fun _=>rfl, fun _ _ _=>rfl, fun _=>rfl, fun hpending=>absurd rfl hpending⟩

theorem one_job_per_spawn_feature :
  ∃s,ReflTransGen (StepWith sampleScope Sequential) (startAt featureProfile []) s ∧
    jobs sampleScope s.store.operations .codeInvestigator 1=1 ∧
    jobs sampleScope s.store.operations .specInvestigator 1=1 := by
 obtain ⟨u,hu,s,hs,hcode,hspec,hcalls⟩ :
   ∃u∈perform sampleScope (startAt featureProfile []) .enqueue,
    ∃s∈performAll sampleScope u [.persisted 0 "request" "1" "",.persisted 0 "request" "2" ""],
    currentRecord s.store .codeInvestigator=⟨.codeInvestigator,.spawned,1,none⟩ ∧
    currentRecord s.store .specInvestigator=⟨.specInvestigator,.spawned,1,none⟩ ∧
    s.calls.length=0 := by
  decide +kernel
 have hrun:ReflTransGen (StepWith sampleScope Sequential) (startAt featureProfile []) s := by
  have hfirst:StepWith sampleScope Sequential (startAt featureProfile []) u :=
   ⟨.enqueue,rfl,hu⟩
  have hrest:ReflTransGen (StepWith sampleScope Sequential) u s := by
   apply reachableWith_of_performAll _ hs
   simp [Sequential]
  exact .head hfirst hrest
 have hconsistent:=consistent_startAt (show (featureProfile.nodes.map (·.id)).Nodup by decide) []
 have hone:=(one_job_per_spawn rfl hconsistent hrun).1
 have hground:∀k,∀call∈s.calls,¬ Spawns k call := by
  intro k call hcall
  rw [length_eq_zero_iff.mp hcalls] at hcall
  cases hcall
 refine ⟨s,hrun,?_,?_⟩
 · have hjobs:=hone .codeInvestigator (congrArg NodeRecord.status hcode) (hground _)
   rw [attempt,hcode] at hjobs
   exact hjobs
 · have hjobs:=hone .specInvestigator (congrArg NodeRecord.status hspec) (hground _)
   rw [attempt,hspec] at hjobs
   exact hjobs

/-- The artifact of a request is rejected: its node stays spawned without a job, and no call waits
any more. Two calls overlap: the first finds the second node of its wave spawned by the other. -/
theorem spawned_without_job :
  (∃s,ReflTransGen (Step sampleScope) (startAt featureProfile []) s ∧ s.calls.length=0 ∧
   status s.store .codeInvestigator=.spawned ∧
   jobs sampleScope s.store.operations .codeInvestigator
    (attempt s.store .codeInvestigator)=0) ∧
  ∃s,ReflTransGen (Step sampleScope) (startAt featureProfile []) s ∧
    ∃e∈s.failures,SpawnedFirst e := by
 refine ⟨?_,?_⟩
 · obtain ⟨s,hs,h⟩ : ∃s∈performAll sampleScope (startAt featureProfile [])
     [.enqueue,.rejected 0 "unavailable"],s.calls.length=0 ∧
     status s.store .codeInvestigator=.spawned ∧
     jobs sampleScope s.store.operations .codeInvestigator
      (attempt s.store .codeInvestigator)=0 := by
    decide +kernel
   exact ⟨s,reachable_of_performAll hs,h⟩
 · obtain ⟨s,hs,hfailures⟩ : ∃s∈performAll sampleScope (startAt featureProfile [])
     [.enqueue,.enqueue,.persisted 0 "request" "1" ""],
     s.failures=[.dag (.illegalTransition .spawned .nodeSpawned)] := by
    decide +kernel
   refine ⟨s,reachable_of_performAll hs,.dag (.illegalTransition .spawned .nodeSpawned),?_,
    .spawned,rfl⟩
   rw [hfailures]
   exact mem_cons_self

end EpistemicCompiler.AgentJobs
