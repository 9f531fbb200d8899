import EpistemicCompiler.DagEngine

set_option autoImplicit false

/-!
# Runs of a profile

A run moves a cursor by the orchestrator's waves, by the control plane's separate writes and by what
agents report. Each rewrites records in one of a few ways, which `Change` lists; every invariant of
a run is derived from that list.
-/
namespace EpistemicCompiler.DagRuns
open ProfileCatalog FallibleRuns DagEngine List

variable {κ:Type} [DecidableEq κ]

inductive AgentOutcome where
 | artifact (valid:Bool)
 | blocker
 | failure

structure AgentRun where
 agentId : String
 outcome : AgentOutcome

variable (cursor:DagCursor κ) {spec:WorkflowNode κ} (nodes:List (NodeRecord κ))

def skipNode (k:κ) : Except (DagError κ) (List (NodeRecord κ)) := do
 let current ← recordOf { cursor with nodes } k
 return replaceNode { cursor with nodes } { current with status:=.accepted }

def skipDisabled : Except (DagError κ) (List (NodeRecord κ)) := do
 (← skippedDisabledNodes cursor).foldlM (skipNode cursor) cursor.nodes

def settle (spawned:NodeRecord κ) (run:AgentRun) : Except (DagError κ) (NodeRecord κ) :=
 let handled:={ spawned with agentId:=some run.agentId }
 match run.outcome with
 | .artifact true => reduceNode { handled with status:=.validating } .artifactAccepted none
 | .artifact false => reduceNode handled .nodeRetrying none
 | .blocker => reduceNode handled .nodeBlocked none
 | .failure => reduceNode handled .nodeFailed none

/-- One turn of the loop over the ready nodes. A controller's node is replaced in the cursor from
before the loop, so that what earlier turns wrote is lost. -/
def advanceNode (runtime:κ → ℕ → AgentRun) (cursor:DagCursor κ)
    (nodes:List (NodeRecord κ)) (spec:WorkflowNode κ) :
    Except (DagError κ) (List (NodeRecord κ)) :=
 match spec.role with
 | none => do
   let current ← recordOf cursor spec.id
   return replaceNode cursor { current with status:=.accepted, attempt:=current.attempt+1 }
 | some _ => do
   let current ← recordOf { cursor with nodes } spec.id
   let spawned ← reduceNode current .nodeSpawned none
   let nodes:=replaceNode { cursor with nodes } spawned
   let settled ← settle spawned (runtime spec.id spawned.attempt)
   return replaceNode { cursor with nodes } settled

def advanceDag (runtime:κ → ℕ → AgentRun) (cursor:DagCursor κ) :
    Except (DagError κ) (DagCursor κ) := do
 let cursor:={ cursor with nodes:=← skipDisabled cursor }
 let ready ← readyNodes cursor
 let nodes ← ready.foldlM (advanceNode runtime cursor) cursor.nodes
 return { cursor with nodes }

def spawnNode (spec:WorkflowNode κ) : Except (DagError κ) (List (NodeRecord κ)) := do
 let current ← recordOf { cursor with nodes } spec.id
 let spawned ← reduceNode current .nodeSpawned none
 return replaceNode { cursor with nodes } spawned

def spawnWave : Except (DagError κ) (DagCursor κ) := do
 let nodes ← (← readyNodes cursor).foldlM (spawnNode cursor) cursor.nodes
 return { cursor with nodes }

/-- The cursor, and the nodes that unfinished calls of `enqueueReadyAgentWork` have found ready:
such a call spawns them one after the other and lets other code run in between. -/
structure DagRun (κ:Type) where
 cursor : DagCursor κ
 scheduled : List κ

def DagRun.withNodes (s:DagRun κ) (nodes:List (NodeRecord κ)) : DagRun κ :=
 { s with cursor:={ s.cursor with nodes } }

def Started (record:NodeRecord κ) : Prop :=
 0<record.attempt ∨ (record.status≠.pending ∧ record.status≠.accepted)

inductive Step : DagRun κ → DagRun κ → Prop where
 | predicates (s:DagRun κ) (predicates:List String) :
   Step s { s with cursor:={ s.cursor with predicates } }
 | skip {s:DagRun κ} {nodes:List (NodeRecord κ)} (h:skipDisabled s.cursor=.ok nodes) :
   Step s (s.withNodes nodes)
 | control {s:DagRun κ} {ready:List (WorkflowNode κ)} {spec:WorkflowNode κ}
   (h:readyNodes s.cursor=.ok ready) (hspec:spec∈ready)
   (hoperation:spec.operation.isSome) :
   Step s (s.withNodes (replaceNode s.cursor ⟨spec.id,.accepted,1,none⟩))
 | schedule {s:DagRun κ} {ready:List (WorkflowNode κ)}
   (h:readyNodes s.cursor=.ok ready) :
   Step s { s with scheduled:=s.scheduled++ready.map (·.id) }
 | spawn {s:DagRun κ} {k:κ} {current spawned:NodeRecord κ} (hk:k∈s.scheduled)
   (hcurrent:recordOf s.cursor k=.ok current)
   (h:reduceNode current .nodeSpawned none=.ok spawned) :
   Step s (s.withNodes (replaceNode s.cursor spawned))
 | wave {s:DagRun κ} {cursor:DagCursor κ} (h:spawnWave s.cursor=.ok cursor) :
   Step s { s with cursor }
 | advance {s:DagRun κ} {cursor:DagCursor κ} {runtime:κ → ℕ → AgentRun}
   (h:advanceDag runtime s.cursor=.ok cursor) : Step s { s with cursor }
 | event {s:DagRun κ} {k:κ} {current record:NodeRecord κ} {event:AgentNodeEventType}
   {agentId:Option String} (hcurrent:recordOf s.cursor k=.ok current)
   (hevent:event≠.nodeSpawned) (h:reduceNode current event agentId=.ok record) :
   Step s (s.withNodes (replaceNode s.cursor record))
 /-- A job of the node reports, perhaps late: until the node is accepted its record becomes
  whatever the report says. -/
 | report {s:DagRun κ} {k:κ} {current record:NodeRecord κ}
   (hcurrent:recordOf s.cursor k=.ok current) (hstarted:Started current)
   (hopen:current.status≠.accepted) (hid:record.nodeId=k) :
   Step s (s.withNodes (replaceNode s.cursor record))
 | invalidate {s:DagRun κ} {k:κ} {nodes:List (NodeRecord κ)}
   (h:invalidateNodes s.cursor k=.ok nodes) : Step s (s.withNodes nodes)

section Changes

structure Rewrites (change:NodeRecord κ → NodeRecord κ → Prop)
  (old nodes:List (NodeRecord κ)) : Prop where
 ids : nodes.map (·.nodeId)=old.map (·.nodeId)
 changes : ∀record'∈nodes,∃record∈old,
  record.nodeId=record'.nodeId ∧ change record record'

variable {change:NodeRecord κ → NodeRecord κ → Prop} {old nodes:List (NodeRecord κ)}
 {cursor:DagCursor κ} {record record' current:NodeRecord κ} {k:κ}

omit [DecidableEq κ] in
lemma Rewrites.refl (h:∀record∈nodes,change record record) : Rewrites change nodes nodes :=
 ⟨rfl,fun record hrecord=>⟨record,hrecord,rfl,h record hrecord⟩⟩

omit [DecidableEq κ] in
lemma Rewrites.mono {change':NodeRecord κ → NodeRecord κ → Prop} (h:Rewrites change old nodes)
  (himp:∀record∈old,∀record',record.nodeId=record'.nodeId →
   change record record' → change' record record') : Rewrites change' old nodes := by
 refine ⟨h.ids,fun record' hrecord'=>?_⟩
 obtain ⟨record,hrecord,hid,hchange⟩:=h.changes record' hrecord'
 exact ⟨record,hrecord,hid,himp record hrecord record' hid hchange⟩

lemma Rewrites.replace (h:Rewrites change old nodes) (hnodes:cursor.nodes=nodes)
  (hrecord:record∈old) (hid:record.nodeId=record'.nodeId)
  (hchange:change record record') : Rewrites change old (replaceNode cursor record') := by
 subst hnodes
 constructor
 · rw [← h.ids]
   unfold replaceNode
   rw [map_map]
   apply map_congr_left
   intro node _
   by_cases hnode : node.nodeId=record'.nodeId
   · simp [hnode]
   · simp [hnode]
 · intro found hfound
   obtain ⟨node,hnode,rfl⟩:=mem_map.mp hfound
   by_cases heq : node.nodeId=record'.nodeId
   · rw [if_pos heq]
     exact ⟨record,hrecord,hid,hchange⟩
   · rw [if_neg heq]
     exact h.changes node hnode

omit [DecidableEq κ] in
lemma tracked_withNodes {s:DagRun κ} (h:Tracked s.cursor)
  (hids:nodes.map (·.nodeId)=s.cursor.nodes.map (·.nodeId)) :
  Tracked (s.withNodes nodes).cursor :=
 ⟨hids.trans h.ids,h.distinct,h.closed⟩

inductive Change (s:DagRun κ) (record record':NodeRecord κ) : Prop where
 | same (h:record'=record)
 | skipped (spec:WorkflowNode κ) (hspec:spec∈s.cursor.profile)
   (hid:spec.id=record.nodeId)
   (hdisabled:nodeEnabled spec.when s.cursor.predicates=false)
   (hpending:record.status=.pending) (h:record'={ record with status:=.accepted })
 | advanced (spec:WorkflowNode κ) (hready:Ready s.cursor spec)
   (hid:spec.id=record.nodeId)
   (hidle:record.status=.pending ∨ record.status=.retrying)
 | spawned (hscheduled:record.nodeId∈s.scheduled) (hopen:record.status≠.accepted)
 | reported (hstarted:Started record) (hopen:record.status≠.accepted)
 | completed (h:record.status=.accepted) (hstatus:record'.status=.accepted)
   (hattempt:record'.attempt=record.attempt)
 | invalidated (spec:WorkflowNode κ) (hspec:spec∈s.cursor.profile)
   (hid:record.nodeId∈spec.invalidates)
   (h:record'=⟨record.nodeId,.pending,record.attempt,none⟩)

inductive Move : DagRun κ → DagRun κ → Prop where
 | predicates (s:DagRun κ) (predicates:List String) :
   Move s { s with cursor:={ s.cursor with predicates } }
 | schedule {s:DagRun κ} {ks:List κ}
   (h:∀k∈ks,∃spec,Ready s.cursor spec ∧ spec.id=k) :
   Move s { s with scheduled:=s.scheduled++ks }
 | rewrite {s:DagRun κ} {nodes:List (NodeRecord κ)}
   (h:Rewrites (Change s) s.cursor.nodes nodes) : Move s (s.withNodes nodes)

variable {s:DagRun κ}

lemma Rewrites.single (hcurrent:recordOf s.cursor k=.ok current) (hid:record'.nodeId=k)
  (hchange:Change s current record') :
  Rewrites (Change s) s.cursor.nodes (replaceNode s.cursor record') := by
 obtain ⟨hmem,hk⟩:=recordOf_ok hcurrent
 exact (Rewrites.refl fun _ _=>.same rfl).replace rfl hmem (hk.trans hid.symm) hchange

lemma advanced_of_ready (htrack:Tracked s.cursor) (hready:Ready s.cursor spec)
  (hrecord:record∈s.cursor.nodes) (hid:spec.id=record.nodeId) :
  Change s record record' := by
 obtain ⟨found,hfound,hidle⟩:=hready.idle
 obtain ⟨hmem,hk⟩:=recordOf_ok hfound
 obtain rfl:=htrack.record_unique hmem hrecord (hk.trans hid)
 exact .advanced spec hready hid hidle

end Changes

section Moves

variable {s t:DagRun κ} {nodes:List (NodeRecord κ)} {ready:List (WorkflowNode κ)} {k:κ}

/-- The skipping loop reads its own writes; a node is skipped from its first record. -/
lemma rewrites_skipDisabled (htrack:Tracked s.cursor)
  (h:skipDisabled s.cursor=.ok nodes) : Rewrites (Change s) s.cursor.nodes nodes := by
 obtain ⟨ids,hids,h⟩:=bind_eq_ok h
 have hloop:Rewrites (fun record record'=>record'=record ∨
   (Change s record { record with status:=.accepted } ∧
    record'={ record with status:=.accepted })) s.cursor.nodes nodes := by
  refine foldlM_invariant (Rewrites _ s.cursor.nodes) ?_ (.refl fun _ _=>.inl rfl) h
  intro k hk before after hbefore hstep
  obtain ⟨current,hcurrent,hstep⟩:=bind_eq_ok hstep
  cases hstep
  obtain ⟨hmem,hid⟩:=recordOf_ok hcurrent
  obtain ⟨record,hrecord,hsame,hchange⟩:=hbefore.changes current hmem
  refine hbefore.replace rfl hrecord hsame (.inr ?_)
  rcases hchange with rfl | ⟨hchange,rfl⟩
  · obtain ⟨spec,hspec,hspecId,hdisabled,found,hfound,hpending⟩ :=
     skippedDisabledNodes_ok hids hk
    obtain ⟨hfoundMem,hfoundId⟩:=recordOf_ok hfound
    obtain rfl:=htrack.record_unique hfoundMem hrecord (hfoundId.trans hid.symm)
    exact ⟨.skipped spec hspec (hspecId.trans hid.symm) hdisabled hpending rfl,rfl⟩
  · exact ⟨hchange,rfl⟩
 apply hloop.mono
 intro record _ record' _ hchange
 rcases hchange with rfl | ⟨hchange,rfl⟩
 · exact .same rfl
 · exact hchange

lemma Rewrites.replace_ready {cursor:DagCursor κ} {record':NodeRecord κ}
  (h:Rewrites (Change s) s.cursor.nodes nodes) (hnodes:cursor.nodes=nodes)
  (htrack:Tracked s.cursor) (hready:Ready s.cursor spec) (hid:record'.nodeId=spec.id) :
  Rewrites (Change s) s.cursor.nodes (replaceNode cursor record') := by
 obtain ⟨record,hrecord⟩:=htrack.exists_record hready.listed
 obtain ⟨hmem,hk⟩:=recordOf_ok hrecord
 exact h.replace hnodes hmem (hk.trans hid.symm) (advanced_of_ready htrack hready hmem hk.symm)

lemma rewrites_spawnWave (htrack:Tracked s.cursor) (hready:readyNodes s.cursor=.ok ready)
  (h:ready.foldlM (spawnNode s.cursor) s.cursor.nodes=.ok nodes) :
  Rewrites (Change s) s.cursor.nodes nodes := by
 refine foldlM_invariant (Rewrites (Change s) s.cursor.nodes) ?_ (.refl fun _ _=>.same rfl) h
 intro spec hspec before after hbefore hstep
 have hspecReady:=(readyNodes_ok hready).2 spec hspec
 obtain ⟨current,hcurrent,hstep⟩:=bind_eq_ok hstep
 obtain ⟨spawned,hspawned,hstep⟩:=bind_eq_ok hstep
 cases hstep
 have hid:=(reduceNode_ok hspawned).2.1.trans (recordOf_ok hcurrent).2
 exact hbefore.replace_ready rfl htrack hspecReady hid

omit [DecidableEq κ] in
lemma settle_id {spawned settled:NodeRecord κ} {run:AgentRun}
  (h:settle spawned run=.ok settled) : settled.nodeId=spawned.nodeId := by
 unfold settle at h
 split at h <;> exact (reduceNode_ok h).2.1

lemma rewrites_advance {runtime:κ → ℕ → AgentRun} (htrack:Tracked s.cursor)
  (hready:readyNodes s.cursor=.ok ready)
  (h:ready.foldlM (advanceNode runtime s.cursor) s.cursor.nodes=.ok nodes) :
  Rewrites (Change s) s.cursor.nodes nodes := by
 have hrefl:Rewrites (Change s) s.cursor.nodes s.cursor.nodes :=
  .refl fun _ _=>.same rfl
 refine foldlM_invariant (Rewrites (Change s) s.cursor.nodes) ?_ hrefl h
 intro spec hspec before after hbefore hstep
 have hspecReady:=(readyNodes_ok hready).2 spec hspec
 unfold advanceNode at hstep
 cases hrole : spec.role with
 | none =>
   rw [hrole] at hstep
   obtain ⟨current,hcurrent,hstep⟩:=bind_eq_ok hstep
   cases hstep
   have hid:=(recordOf_ok hcurrent).2
   exact hrefl.replace_ready rfl htrack hspecReady hid
 | some role =>
   rw [hrole] at hstep
   obtain ⟨current,hcurrent,hstep⟩:=bind_eq_ok hstep
   obtain ⟨spawned,hspawned,hstep⟩:=bind_eq_ok hstep
   obtain ⟨settled,hsettled,hstep⟩:=bind_eq_ok hstep
   cases hstep
   have hid:=(reduceNode_ok hspawned).2.1.trans (recordOf_ok hcurrent).2
   have hspawn:Rewrites (Change s) s.cursor.nodes
     (replaceNode { s.cursor with nodes:=before } spawned) :=
    hbefore.replace_ready rfl htrack hspecReady hid
   exact hspawn.replace_ready rfl htrack hspecReady ((settle_id hsettled).trans hid)

lemma change_of_event {current record:NodeRecord κ} {event:AgentNodeEventType}
  {agentId:Option String} (hevent:event≠.nodeSpawned)
  (h:reduceNode current event agentId=.ok record) : Change s current record := by
 obtain ⟨hallow,-,hstatus,hattempt⟩:=reduceNode_ok h
 by_cases haccept : current.status=.accepted
 · rw [haccept,transitions,mem_singleton] at hallow
   subst hallow
   exact .completed haccept hstatus hattempt
 · refine .reported (.inr ⟨fun hpending=>?_, haccept⟩) haccept
   rw [hpending,transitions,mem_singleton] at hallow
   exact hevent hallow

lemma rewrites_invalidate (h:invalidateNodes s.cursor k=.ok nodes) :
  Rewrites (Change s) s.cursor.nodes nodes := by
 obtain ⟨spec,hspec,h⟩:=bind_eq_ok h
 cases h
 obtain ⟨hlist,-⟩:=workflowNodeOf_ok hspec
 constructor
 · rw [map_map]
   apply map_congr_left
   intro node _
   by_cases hnode : node.nodeId∈spec.invalidates
   · simp [hnode]
   · simp [hnode]
 · intro record' hrecord'
   obtain ⟨node,hnode,rfl⟩:=mem_map.mp hrecord'
   by_cases hmem : node.nodeId∈spec.invalidates
   · rw [if_pos hmem]
     exact ⟨node,hnode,rfl,.invalidated spec hlist hmem rfl⟩
   · rw [if_neg hmem]
     exact ⟨node,hnode,rfl,.same rfl⟩

/-- Every step is made of moves: a wave of the orchestrator of two, any other step of one. -/
lemma Step.moves (htrack:Tracked s.cursor) (h:Step s t) :
  Relation.ReflTransGen Move s t := by
 cases h with
 | predicates predicates => exact .single (.predicates s predicates)
 | skip h => exact .single (.rewrite (rewrites_skipDisabled htrack h))
 | @control _ spec h hspec _ =>
   have hready:=(readyNodes_ok h).2 spec hspec
   obtain ⟨current,hcurrent⟩:=htrack.exists_record hready.listed
   obtain ⟨hmem,hid⟩:=recordOf_ok hcurrent
   exact .single (.rewrite (.single hcurrent rfl (advanced_of_ready htrack hready hmem hid.symm)))
 | schedule h =>
   refine .single (.schedule fun k hk=>?_)
   obtain ⟨spec,hspec,hid⟩:=mem_map.mp hk
   exact ⟨spec,(readyNodes_ok h).2 spec hspec,hid⟩
 | spawn hk hcurrent h =>
   obtain ⟨hallow,hid,-,-⟩:=reduceNode_ok h
   have hcurrentId:=(recordOf_ok hcurrent).2
   refine .single (.rewrite (.single hcurrent (hid.trans hcurrentId)
    (.spawned (hcurrentId.symm ▸ hk) fun haccept=>?_)))
   rw [haccept] at hallow
   revert hallow
   decide
 | wave h =>
   obtain ⟨ready,hready,h⟩:=bind_eq_ok h
   obtain ⟨nodes,hnodes,h⟩:=bind_eq_ok h
   cases h
   exact .single (.rewrite (rewrites_spawnWave htrack hready hnodes))
 | advance h =>
   obtain ⟨skipped,hskipped,h⟩:=bind_eq_ok h
   obtain ⟨ready,hready,h⟩:=bind_eq_ok h
   obtain ⟨nodes,hnodes,h⟩:=bind_eq_ok h
   cases h
   have hskip:=rewrites_skipDisabled htrack hskipped
   have hwave:Rewrites (Change (s.withNodes skipped)) skipped nodes :=
    rewrites_advance (tracked_withNodes htrack hskip.ids) hready hnodes
   exact (Relation.ReflTransGen.single (.rewrite hskip)).tail
    (.rewrite (s := s.withNodes skipped) hwave)
 | event hcurrent hevent h =>
   obtain ⟨-,hid,-,-⟩:=reduceNode_ok h
   exact .single (.rewrite (.single hcurrent (hid.trans (recordOf_ok hcurrent).2)
    (change_of_event hevent h)))
 | report hcurrent hstarted hopen hid =>
   exact .single (.rewrite (.single hcurrent hid (.reported hstarted hopen)))
 | invalidate h => exact .single (.rewrite (rewrites_invalidate h))

end Moves

section Waves

variable {cursor:DagCursor κ}

def AllIdle (cursor:DagCursor κ) (specs:List (WorkflowNode κ)) : Prop :=
 (specs.map (·.id)).Nodup ∧ ∀spec∈specs,∃record,recordOf cursor spec.id=.ok record ∧
  (record.status=.pending ∨ record.status=.retrying)

lemma AllIdle.spawnNode {rest:List (WorkflowNode κ)} {nodes:List (NodeRecord κ)}
  (h:AllIdle { cursor with nodes } (spec::rest)) :
  ∃nodes',spawnNode cursor nodes spec=.ok nodes' ∧
    AllIdle { cursor with nodes:=nodes' } rest := by
 obtain ⟨hdist,hidle⟩:=h
 rw [map_cons,nodup_cons] at hdist
 obtain ⟨current,hcurrent,hstatus⟩:=hidle spec (by simp)
 obtain ⟨spawned,hspawned,hid⟩:=reduceNode_spawned hstatus
 refine ⟨replaceNode { cursor with nodes } spawned,?_,hdist.2,?_⟩
 · unfold DagRuns.spawnNode
   rw [hcurrent,ok_bind,hspawned]
   rfl
 · intro other hother
   obtain ⟨record,hrecord,hrecordStatus⟩:=hidle other (by simp [hother])
   have hne:spawned.nodeId≠other.id := by
    rw [hid,(recordOf_ok hcurrent).2]
    intro heq
    exact hdist.1 (heq ▸ mem_map_of_mem hother)
   refine ⟨record,?_,hrecordStatus⟩
   rw [← hrecord]
   exact recordOf_other hne

lemma exists_spawnWave (htrack:Tracked cursor) :
  ∃spawned,spawnWave cursor=.ok spawned := by
 obtain ⟨ready,hready⟩:=htrack.exists_readyNodes
 obtain ⟨hsublist,hsound⟩:=readyNodes_ok hready
 have hidle:AllIdle cursor ready :=
  ⟨htrack.distinct.sublist (hsublist.map _),fun spec hspec=>(hsound spec hspec).idle⟩
 obtain ⟨nodes,hnodes,-⟩:=exists_foldlM (fun rest nodes=>AllIdle { cursor with nodes } rest)
  (fun spec rest nodes h=>h.spawnNode) hidle
 refine ⟨{ cursor with nodes },?_⟩
 unfold spawnWave
 rw [hready,ok_bind,hnodes]
 rfl

end Waves

end EpistemicCompiler.DagRuns
