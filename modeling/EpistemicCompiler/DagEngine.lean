import Mathlib.Data.List.Nodup
import EpistemicCompiler.FallibleRuns
import EpistemicCompiler.ProfileCatalog

set_option autoImplicit false

/-!
# The engine that walks a profile

A cursor holds a profile, one record for each of its nodes and the predicates of the run. The engine
says which nodes may start, which are skipped and when the graph is complete; the node reducer says
how one record changes.
-/
namespace EpistemicCompiler.DagEngine
open ProfileCatalog FallibleRuns List Except

inductive NodeStatus where
 | pending | spawned | waitingArtifact | validating | accepted | retrying | failed
 deriving DecidableEq

def NodeStatus.text : NodeStatus → String
 | .pending => "PENDING"
 | .spawned => "SPAWNED"
 | .waitingArtifact => "WAITING_ARTIFACT"
 | .validating => "VALIDATING"
 | .accepted => "ACCEPTED"
 | .retrying => "RETRYING"
 | .failed => "FAILED"

inductive AgentNodeEventType where
 | nodeSpawned | artifactAccepted | nodeFailed | nodeCompleted | nodeRetrying | nodeBlocked
 | nodeSteered
 deriving DecidableEq

def AgentNodeEventType.text : AgentNodeEventType → String
 | .nodeSpawned => "NODE_SPAWNED"
 | .artifactAccepted => "ARTIFACT_ACCEPTED"
 | .nodeFailed => "NODE_FAILED"
 | .nodeCompleted => "NODE_COMPLETED"
 | .nodeRetrying => "NODE_RETRYING"
 | .nodeBlocked => "NODE_BLOCKED"
 | .nodeSteered => "NODE_STEERED"

structure NodeRecord (κ:Type) where
 nodeId : κ
 status : NodeStatus
 attempt : ℕ
 agentId : Option String
 deriving DecidableEq

structure DagCursor (κ:Type) where
 profile : List (WorkflowNode κ)
 nodes : List (NodeRecord κ)
 predicates : List String

inductive DagError (κ:Type) where
 | unknownNode (nodeId:κ)
 | unknownWorkflowNode (nodeId:κ)
 | illegalTransition (status:NodeStatus) (event:AgentNodeEventType)
 | writerConcurrency
 deriving DecidableEq

def DagError.message {κ:Type} (text:κ → String) : DagError κ → String
 | .unknownNode nodeId => "unknown node "++text nodeId
 | .unknownWorkflowNode nodeId => "unknown workflow node "++text nodeId
 | .illegalTransition status event =>
   "illegal node transition "++status.text ++ " "++event.text
 | .writerConcurrency => "writer concurrency exceeds 1"

variable {κ:Type} [DecidableEq κ]

variable (cursor:DagCursor κ) (profile:List (WorkflowNode κ)) (nodeId:κ)

/-- The source names `HAS_BLOCKING_FINDINGS` in a branch of its own, which tests the same. -/
def nodeEnabled (nodeWhen:Option String) (predicates:List String) : Bool :=
 match nodeWhen with
 | none => true
 | some predicate => predicates.contains predicate

def initialNodeRecords : List (NodeRecord κ) :=
 profile.map fun node=>⟨node.id,.pending,0,none⟩

def recordOf : Except (DagError κ) (NodeRecord κ) :=
 match cursor.nodes.find? (·.nodeId=nodeId) with
 | some found => .ok found
 | none => .error (.unknownNode nodeId)

def workflowNodeOf : Except (DagError κ) (WorkflowNode κ) :=
 match profile.find? (·.id=nodeId) with
 | some found => .ok found
 | none => .error (.unknownWorkflowNode nodeId)

def accepted : Except (DagError κ) Bool := do
 return (← recordOf cursor nodeId).status=.accepted

def writes (spec:WorkflowNode κ) : Bool :=
 spec.concurrencyGroup=some .write ∨ spec.role=some .implementer

def occupiesWriterSlot (node:NodeRecord κ) : Except (DagError κ) Bool :=
 match node.status with
 | .pending | .retrying | .failed | .accepted => .ok false
 | .spawned | .waitingArtifact | .validating => do
   return writes (← workflowNodeOf cursor.profile node.nodeId)

def isReady (writers:List (NodeRecord κ)) (spec:WorkflowNode κ) : Except (DagError κ) Bool := do
 let current ← recordOf cursor spec.id
 if current.status≠.pending ∧ current.status≠.retrying then
  return false
 if !nodeEnabled spec.when cursor.predicates then
  return false
 if !(← spec.dependsOn.allM (accepted cursor)) then
  return false
 return !(writes spec && writers.length > 0)

def readyNodes (cursor:DagCursor κ) : Except (DagError κ) (List (WorkflowNode κ)) := do
 let writers ← cursor.nodes.filterM (occupiesWriterSlot cursor)
 cursor.profile.filterM (isReady cursor writers)

def skippedDisabledNodes : Except (DagError κ) (List κ) := do
 let specs ← cursor.profile.filterM fun spec=>do
  let current ← recordOf cursor spec.id
  return current.status=.pending && !nodeEnabled spec.when cursor.predicates
 return specs.map (·.id)

def invalidateNodes (fromNodeId:κ) : Except (DagError κ) (List (NodeRecord κ)) := do
 let spec ← workflowNodeOf cursor.profile fromNodeId
 return cursor.nodes.map fun node=>
  if node.nodeId∈spec.invalidates then ⟨node.nodeId,.pending,node.attempt,none⟩ else node

def dagComplete : Except (DagError κ) Bool :=
 cursor.profile.allM fun spec=>
  if !nodeEnabled spec.when cursor.predicates then return true
  else accepted cursor spec.id

def nodeStillWorking : NodeStatus → Bool
 | .spawned | .waitingArtifact | .validating | .retrying => true
 | .pending | .accepted | .failed => false

def activeWriterCount : Except (DagError κ) ℕ := do
 return (← cursor.nodes.filterM (occupiesWriterSlot cursor)).length

def assertSingleWriter : Except (DagError κ) Unit := do
 if (← activeWriterCount cursor) > 1 then
  throw .writerConcurrency

def replaceNode (next:NodeRecord κ) : List (NodeRecord κ) :=
 cursor.nodes.map fun node=>if node.nodeId=next.nodeId then next else node

def transitions : NodeStatus → List AgentNodeEventType
 | .pending => [.nodeSpawned]
 | .spawned => [.nodeSteered,.nodeBlocked,.nodeFailed,.artifactAccepted,.nodeRetrying]
 | .waitingArtifact => [.artifactAccepted,.nodeFailed,.nodeSteered,.nodeBlocked,.nodeRetrying]
 | .validating => [.artifactAccepted,.nodeFailed,.nodeRetrying]
 | .accepted => [.nodeCompleted]
 | .retrying => [.nodeSpawned,.nodeFailed]
 | .failed => [.nodeSpawned]

def next : AgentNodeEventType → NodeStatus
 | .nodeSpawned => .spawned
 | .artifactAccepted => .accepted
 | .nodeFailed => .failed
 | .nodeCompleted => .accepted
 | .nodeRetrying => .retrying
 | .nodeBlocked => .waitingArtifact
 | .nodeSteered => .waitingArtifact

def nextAttempt (attempt:ℕ) : AgentNodeEventType → ℕ
 | .nodeRetrying => attempt+1
 | .nodeSpawned => attempt+if attempt=0 then 1 else 0
 | _ => attempt

/-- Every event has a next status, so the source's last error is never thrown. -/
def reduceNode (current:NodeRecord κ) (eventType:AgentNodeEventType)
    (agentId:Option String) : Except (DagError κ) (NodeRecord κ) :=
 if eventType∈transitions current.status then
  .ok ⟨current.nodeId,next eventType,nextAttempt current.attempt eventType,
   agentId.or current.agentId⟩
 else .error (.illegalTransition current.status eventType)

def canRetry (current:NodeRecord κ) (maxAttempts:ℕ) : Bool :=
 current.status=.failed && current.attempt < maxAttempts

omit [DecidableEq κ] in
lemma reduceNode_ok {current record:NodeRecord κ} {event:AgentNodeEventType}
  {agentId:Option String} (h:reduceNode current event agentId=.ok record) :
  event∈transitions current.status ∧ record.nodeId=current.nodeId ∧
   record.status=next event ∧ record.attempt=nextAttempt current.attempt event := by
 unfold reduceNode at h
 split at h
 · rename_i hallow
   cases h
   exact ⟨hallow,rfl,rfl,rfl⟩
 · cases h

omit [DecidableEq κ] in
lemma reduceNode_spawned {current:NodeRecord κ}
  (h:current.status=.pending ∨ current.status=.retrying) :
  ∃record,reduceNode current .nodeSpawned none=.ok record ∧
    record.nodeId=current.nodeId := by
 have hallow:.nodeSpawned∈transitions current.status := by
  rcases h with h | h <;> rw [h] <;> decide
 exact ⟨_,if_pos hallow,rfl⟩

section Tracked

/-- The records follow the nodes of the profile, whose references stay inside it. -/
structure Tracked (cursor:DagCursor κ) : Prop where
 ids : cursor.nodes.map (·.nodeId)=cursor.profile.map (·.id)
 distinct : (cursor.profile.map (·.id)).Nodup
 closed : ∀n∈cursor.profile,∀d∈n.dependsOn,d∈cursor.profile.map (·.id)

variable {cursor:DagCursor κ} {record:NodeRecord κ} {spec:WorkflowNode κ} {k:κ}

lemma recordOf_ok (h:recordOf cursor k=.ok record) :
  record∈cursor.nodes ∧ record.nodeId=k := by
 unfold recordOf at h
 cases hfind : cursor.nodes.find? (·.nodeId=k) with
 | none =>
   rw [hfind] at h
   cases h
 | some found =>
   rw [hfind] at h
   cases h
   exact ⟨mem_of_find?_eq_some hfind,by simpa using find?_some hfind⟩

lemma recordOf_map {f:NodeRecord κ → NodeRecord κ}
  (hf:∀record,(f record).nodeId=record.nodeId) :
  recordOf { cursor with nodes:=cursor.nodes.map f } k=(recordOf cursor k).map f := by
 have hid:((fun record:NodeRecord κ=>decide (record.nodeId=k)) ∘ f) =
   fun record=>decide (record.nodeId=k) := by
  funext record
  exact decide_eq_decide.mpr (by rw [hf])
 unfold recordOf
 rw [find?_map,hid]
 cases cursor.nodes.find? (·.nodeId=k) <;> rfl

lemma recordOf_replaceNode (record:NodeRecord κ) :
  recordOf { cursor with nodes:=replaceNode cursor record } k=(recordOf cursor k).map
   fun current=>if current.nodeId=record.nodeId then record else current := by
 refine recordOf_map fun current=>?_
 split_ifs with h
 · exact h.symm
 · rfl

lemma recordOf_other (h:record.nodeId≠k) :
  recordOf { cursor with nodes:=replaceNode cursor record } k=recordOf cursor k := by
 rw [recordOf_replaceNode]
 cases hcurrent : recordOf cursor k with
 | error e => rfl
 | ok current =>
   exact congrArg Except.ok (if_neg fun heq=>h (heq.symm.trans (recordOf_ok hcurrent).2))

lemma workflowNodeOf_ok {profile:List (WorkflowNode κ)}
  (h:workflowNodeOf profile k=.ok spec) : spec∈profile ∧ spec.id=k := by
 unfold workflowNodeOf at h
 cases hfind : profile.find? (·.id=k) with
 | none =>
   rw [hfind] at h
   cases h
 | some found =>
   rw [hfind] at h
   cases h
   exact ⟨mem_of_find?_eq_some hfind,by simpa using find?_some hfind⟩

lemma exists_recordOf (h:k∈cursor.nodes.map (·.nodeId)) :
  ∃record,recordOf cursor k=.ok record := by
 obtain ⟨record,hrecord,hid⟩:=mem_map.mp h
 unfold recordOf
 cases hfind : cursor.nodes.find? (·.nodeId=k) with
 | none => exact absurd (decide_eq_true hid) (find?_eq_none.mp hfind record hrecord)
 | some found => exact ⟨found,rfl⟩

lemma exists_workflowNodeOf {profile:List (WorkflowNode κ)} (h:k∈profile.map (·.id)) :
  ∃spec,workflowNodeOf profile k=.ok spec := by
 obtain ⟨spec,hspec,hid⟩:=mem_map.mp h
 unfold workflowNodeOf
 cases hfind : profile.find? (·.id=k) with
 | none => exact absurd (decide_eq_true hid) (find?_eq_none.mp hfind spec hspec)
 | some found => exact ⟨found,rfl⟩

structure Ready (cursor:DagCursor κ) (spec:WorkflowNode κ) : Prop where
 listed : spec∈cursor.profile
 idle : ∃record,recordOf cursor spec.id=.ok record ∧
  (record.status=.pending ∨ record.status=.retrying)
 enabled : nodeEnabled spec.when cursor.predicates=true
 dependencies : ∀d∈spec.dependsOn,accepted cursor d=.ok true

lemma isReady_true {writers:List (NodeRecord κ)} (hspec:spec∈cursor.profile)
  (h:isReady cursor writers spec=.ok true) : Ready cursor spec := by
 obtain ⟨record,hrecord,h⟩:=bind_eq_ok h
 split at h
 · cases h
 rename_i hidle
 split at h
 · cases h
 rename_i henabled
 obtain ⟨all,hall,h⟩:=bind_eq_ok h
 cases all with
 | false => cases h
 | true =>
   refine ⟨hspec,⟨record,hrecord,?_⟩,by simpa using henabled,allM_true hall⟩
   by_cases hpending : record.status=.pending
   · exact .inl hpending
   · exact .inr (by_contra fun hretry=>hidle ⟨hpending,hretry⟩)

lemma readyNodes_ok {ready:List (WorkflowNode κ)} (h:readyNodes cursor=.ok ready) :
  ready.Sublist cursor.profile ∧ ∀spec∈ready,Ready cursor spec := by
 obtain ⟨writers,-,h⟩:=bind_eq_ok h
 obtain ⟨htotal,rfl⟩:=filterM_eq_ok_iff.mp h
 refine ⟨filter_sublist,fun spec hspec=>?_⟩
 obtain ⟨hmem,htest⟩:=mem_filter.mp hspec
 obtain ⟨b,hb⟩:=htotal spec hmem
 rw [hb] at htest
 exact isReady_true hmem (hb.trans (congrArg ok htest))

lemma skippedDisabledNodes_ok {ids:List κ} (h:skippedDisabledNodes cursor=.ok ids)
  (hk:k∈ids) : ∃spec∈cursor.profile,spec.id=k ∧
   nodeEnabled spec.when cursor.predicates=false ∧
   ∃record,recordOf cursor k=.ok record ∧ record.status=.pending := by
 obtain ⟨specs,hspecs,h⟩:=bind_eq_ok h
 cases h
 obtain ⟨htotal,rfl⟩:=filterM_eq_ok_iff.mp hspecs
 obtain ⟨spec,hspec,rfl⟩:=mem_map.mp hk
 obtain ⟨hmem,htest⟩:=mem_filter.mp hspec
 obtain ⟨b,hb⟩:=htotal spec hmem
 rw [hb] at htest
 obtain ⟨record,hrecord,hstatus⟩:=bind_eq_ok hb
 have hboth:=(ok.inj hstatus).trans htest
 simp only [Bool.and_eq_true,decide_eq_true_eq,Bool.not_eq_true'] at hboth
 exact ⟨spec,hmem,rfl,hboth.2,record,hrecord,hboth.1⟩

namespace Tracked

variable (h:Tracked cursor)

include h

omit [DecidableEq κ] in
lemma record_unique {record':NodeRecord κ} (hrecord:record∈cursor.nodes)
  (hrecord':record'∈cursor.nodes) (hid:record.nodeId=record'.nodeId) :
  record=record' := by
 have hdist:(cursor.nodes.map (·.nodeId)).Nodup := by
  rw [h.ids]
  exact h.distinct
 exact inj_on_of_nodup_map hdist hrecord hrecord' hid

lemma exists_record (hspec:spec∈cursor.profile) :
  ∃record,recordOf cursor spec.id=.ok record := by
 apply exists_recordOf
 rw [h.ids]
 exact mem_map_of_mem hspec

lemma exists_accepted (hk:k∈cursor.profile.map (·.id)) : ∃b,accepted cursor k=.ok b := by
 obtain ⟨spec,hspec,rfl⟩:=mem_map.mp hk
 obtain ⟨record,hrecord⟩:=h.exists_record hspec
 unfold accepted
 rw [hrecord,ok_bind]
 exact ⟨_,rfl⟩

lemma exists_occupies (hrecord:record∈cursor.nodes) :
  ∃b,occupiesWriterSlot cursor record=.ok b := by
 have hid:record.nodeId∈cursor.profile.map (·.id) := by
  rw [← h.ids]
  exact mem_map_of_mem hrecord
 obtain ⟨spec,hspec⟩:=exists_workflowNodeOf hid
 unfold occupiesWriterSlot
 rw [hspec]
 cases record.status <;> exact ⟨_,rfl⟩

lemma exists_isReady (writers:List (NodeRecord κ)) (hspec:spec∈cursor.profile) :
  ∃b,isReady cursor writers spec=.ok b := by
 obtain ⟨record,hrecord⟩:=h.exists_record hspec
 have hdeps:∀d∈spec.dependsOn,
   accepted cursor d=.ok ((accepted cursor d).toOption.getD false) := by
  intro d hd
  obtain ⟨b,hb⟩:=h.exists_accepted (h.closed spec hspec d hd)
  rw [hb]
  rfl
 unfold isReady
 rw [hrecord,ok_bind,allM_ok hdeps]
 split
 · exact ⟨_,rfl⟩
 split
 · exact ⟨_,rfl⟩
 rw [ok_bind]
 split <;> exact ⟨_,rfl⟩

lemma exists_readyNodes : ∃ready,readyNodes cursor=.ok ready := by
 obtain ⟨writers,hwriters⟩ : ∃writers,
   cursor.nodes.filterM (occupiesWriterSlot cursor)=.ok writers :=
  ⟨_,filterM_eq_ok_iff.mpr ⟨fun record hrecord=>h.exists_occupies hrecord, rfl⟩⟩
 unfold readyNodes
 rw [hwriters,ok_bind]
 exact ⟨_,filterM_eq_ok_iff.mpr ⟨fun spec hspec=>h.exists_isReady writers hspec, rfl⟩⟩

end Tracked

end Tracked

def DagError.IsLookup : DagError κ → Prop
 | .unknownNode _ | .unknownWorkflowNode _ => True
 | .illegalTransition _ _ | .writerConcurrency => False

lemma raises_recordOf (k:κ) : Raises DagError.IsLookup (recordOf cursor k) := by
 intro e h
 unfold recordOf at h
 split at h
 · cases h
 · cases h
   trivial

lemma raises_workflowNodeOf (k:κ) : Raises DagError.IsLookup (workflowNodeOf profile k) := by
 intro e h
 unfold workflowNodeOf at h
 split at h
 · cases h
 · cases h
   trivial

variable (cursor:DagCursor κ)

lemma raises_accepted (k:κ) : Raises DagError.IsLookup (accepted cursor k) :=
 (raises_recordOf cursor k).bind fun _=>raises_ok _ _

lemma raises_occupiesWriterSlot (node:NodeRecord κ) :
  Raises DagError.IsLookup (occupiesWriterSlot cursor node) := by
 unfold occupiesWriterSlot
 split
 all_goals
  first
  | exact raises_ok _ _
  | exact (raises_workflowNodeOf _ _).bind fun _=>raises_ok _ _

lemma raises_isReady (writers:List (NodeRecord κ)) (spec:WorkflowNode κ) :
  Raises DagError.IsLookup (isReady cursor writers spec) := by
 refine (raises_recordOf cursor spec.id).bind fun current=>?_
 split
 · exact raises_ok _ _
 split
 · exact raises_ok _ _
 refine (raises_allM (raises_accepted cursor) spec.dependsOn).bind fun all=>?_
 split
 · exact raises_ok _ _
 · exact raises_ok _ _

lemma raises_readyNodes : Raises DagError.IsLookup (readyNodes cursor) :=
 (raises_filterM (raises_occupiesWriterSlot cursor) cursor.nodes).bind fun writers=>
  raises_filterM (raises_isReady cursor writers) cursor.profile

lemma raises_skippedDisabledNodes : Raises DagError.IsLookup (skippedDisabledNodes cursor) := by
 refine (raises_filterM (fun spec=>?_) cursor.profile).bind fun specs=>raises_ok _ _
 exact (raises_recordOf cursor spec.id).bind fun current=>raises_ok _ _

end EpistemicCompiler.DagEngine
