import EpistemicCompiler.DagEngine
import EpistemicCompiler.QueueOrder

set_option autoImplicit false

/-!
# What moves a cursor on

The engine finds something to do unless the graph is complete or a node is at work. The attempt of a
node is raised by its first spawn and by every retry only.
-/
namespace EpistemicCompiler.DagProgress
open ProfileCatalog FallibleRuns DagEngine DependencySearch QueueOrder List Except

variable {κ:Type} [DecidableEq κ] {cursor:DagCursor κ} {spec:WorkflowNode κ} {k:κ}

section

structure Unfailed (cursor:DagCursor κ) : Prop where
 enabled : ∀spec∈cursor.profile,nodeEnabled spec.when cursor.predicates=true →
  ∃record,recordOf cursor spec.id=.ok record ∧ record.status≠.failed
 disabled : ∀spec∈cursor.profile,nodeEnabled spec.when cursor.predicates=false →
  accepted cursor spec.id=.ok true

def Idle (cursor:DagCursor κ) : Prop :=
 ∀record∈cursor.nodes,nodeStillWorking record.status=false

lemma Idle.writers (h:Idle cursor) :
  cursor.nodes.filterM (occupiesWriterSlot cursor)=.ok [] := by
 have hfree:∀record∈cursor.nodes,occupiesWriterSlot cursor record=.ok false := by
  intro record hrecord
  have hidle:=h record hrecord
  unfold occupiesWriterSlot
  cases hstatus : record.status <;> simp_all [nodeStillWorking]
 refine filterM_eq_ok_iff.mpr ⟨fun record hrecord=>⟨_,hfree record hrecord⟩,Eq.symm ?_⟩
 exact filter_eq_nil_iff.mpr fun record hrecord=>by simp [hfree record hrecord,Except.toOption]

lemma Unfailed.cases (h:Unfailed cursor) (hidle:Idle cursor) (hspec:spec∈cursor.profile) :
  accepted cursor spec.id=.ok true ∨ accepted cursor spec.id=.ok false ∧
   nodeEnabled spec.when cursor.predicates=true ∧
   ∃record,recordOf cursor spec.id=.ok record ∧ record.status=.pending := by
 cases henabled : nodeEnabled spec.when cursor.predicates with
 | false => exact .inl (h.disabled spec hspec henabled)
 | true =>
   obtain ⟨record,hrecord,hfail⟩:=h.enabled spec hspec henabled
   have hworking:=hidle record (recordOf_ok hrecord).1
   unfold accepted
   rw [hrecord,ok_bind]
   cases hstatus : record.status <;> simp_all [nodeStillWorking,pure,Except.pure]

variable (hclosed:∀spec∈cursor.profile,∀d∈spec.dependsOn,d∈cursor.profile.map (·.id))
include hclosed

lemma Unfailed.isReady_ok (h:Unfailed cursor) (hidle:Idle cursor)
  (hspec:spec∈cursor.profile) : ∃b,isReady cursor [] spec=.ok b ∧
   (accepted cursor spec.id≠.ok true → (∀d∈spec.dependsOn,accepted cursor d=.ok true) →
    b=true) := by
 have hdeps:∀d∈spec.dependsOn,
   accepted cursor d=.ok (decide (accepted cursor d=.ok true)) := by
  intro d hd
  obtain ⟨other,hother,rfl⟩:=mem_map.mp (hclosed spec hspec d hd)
  rcases h.cases hidle hother with hdone | ⟨hdone,-⟩ <;> simp [hdone]
 rcases h.cases hidle hspec with hdone | ⟨-,henabled,record,hrecord,hpending⟩
 · obtain ⟨record,hrecord,hstatus⟩:=bind_eq_ok hdone
   have haccept:record.status=.accepted:=of_decide_eq_true (ok.inj hstatus)
   refine ⟨false,?_,fun hnot=>absurd hdone hnot⟩
   rw [isReady,hrecord,ok_bind,haccept]
   rfl
 · refine ⟨spec.dependsOn.all fun d=>decide (accepted cursor d=.ok true),?_,fun _ hall=>?_⟩
   · rw [isReady,hrecord,ok_bind,allM_ok hdeps]
     cases hall : spec.dependsOn.all fun d=>decide (accepted cursor d=.ok true) <;>
      simp [hpending,henabled,ok_bind,pure,Except.pure]
   · simpa using hall

lemma exists_first (hacyclic:¬ Cyclic (needs (nodesOf (·.id) (·.dependsOn) cursor.profile)))
  (hspec:spec∈cursor.profile) (hnot:accepted cursor spec.id≠.ok true) :
  ∃first∈cursor.profile,accepted cursor first.id≠.ok true ∧
   ∀d∈first.dependsOn,accepted cursor d=.ok true := by
 have hlist:spec.id∈(nodesOf (·.id) (·.dependsOn) cursor.profile).map (·.1) := by
  rw [ids_nodesOf]
  exact mem_map_of_mem hspec
 generalize hid : spec.id=id at hlist
 induction settled_of_acyclic hacyclic hlist generalizing spec with
 | intro id _ ih =>
   subst hid
   by_cases hall : ∀d∈spec.dependsOn,accepted cursor d=.ok true
   · exact ⟨spec,hspec,hnot,hall⟩
   · push Not at hall
     obtain ⟨d,hd,hdnot⟩:=hall
     obtain ⟨other,hother,rfl⟩:=mem_map.mp (hclosed spec hspec d hd)
     refine ih other.id (mem_needs_iff.mpr ⟨_,mem_map_of_mem hspec,rfl,hd⟩) hother hdnot rfl ?_
     rw [ids_nodesOf]
     exact mem_map_of_mem hother

theorem never_stalls
  (hacyclic:¬ Cyclic (needs (nodesOf (·.id) (·.dependsOn) cursor.profile)))
  (h:Unfailed cursor) : dagComplete cursor=.ok true ∨
   (∃spec rest,readyNodes cursor=.ok (spec::rest)) ∨
   ∃record∈cursor.nodes,nodeStillWorking record.status=true := by
 by_cases hidle : Idle cursor
 · by_cases hall : ∀spec∈cursor.profile,accepted cursor spec.id=.ok true
   · refine .inl ((allM_ok (g := fun _=>true) fun spec hspec=>?_).trans (by simp))
     cases nodeEnabled spec.when cursor.predicates with
     | false => rfl
     | true => exact hall spec hspec
   · push Not at hall
     obtain ⟨spec,hspec,hnot⟩:=hall
     obtain ⟨first,hfirst,hnot,hdeps⟩:=exists_first hclosed hacyclic hspec hnot
     obtain ⟨b,hready,hb⟩:=h.isReady_ok hclosed hidle hfirst
     obtain rfl:=hb hnot hdeps
     have hmem:first∈cursor.profile.filter fun spec=>
       (isReady cursor [] spec).toOption.getD false :=
      mem_filter.mpr ⟨hfirst,by simp [hready,Except.toOption]⟩
     obtain ⟨spec,rest,hcons⟩:=exists_cons_of_ne_nil (ne_nil_of_mem hmem)
     refine .inr (.inl ⟨spec,rest,?_⟩)
     rw [readyNodes,hidle.writers,ok_bind]
     refine filterM_eq_ok_iff.mpr ⟨fun spec hspec=>?_,hcons.symm⟩
     obtain ⟨b,hok,-⟩:=h.isReady_ok hclosed hidle hspec
     exact ⟨b,hok⟩
 · simp only [Idle,not_forall,Bool.not_eq_false] at hidle
   obtain ⟨record,hrecord,hworking⟩:=hidle
   exact .inr (.inr ⟨record,hrecord,hworking⟩)

end

def sampleNode (id:String) (dependsOn:List String) : WorkflowNode String :=
 ⟨id,some .reviewer,none,dependsOn,none,[],none⟩

def sampleProfile : List (WorkflowNode String) := [sampleNode "a" [],sampleNode "b" ["a"]]

def sampleCursor : DagCursor String := ⟨sampleProfile,initialNodeRecords sampleProfile,[]⟩

theorem sample_never_stalls : dagComplete sampleCursor=.ok true ∨
  (∃spec rest,readyNodes sampleCursor=.ok (spec::rest)) ∨
  ∃record∈sampleCursor.nodes,nodeStillWorking record.status=true := by
 have hclosed:∀spec∈sampleCursor.profile,∀d∈spec.dependsOn,
   d∈sampleCursor.profile.map (·.id) := by decide
 have hacyclic:=((length_visited_iff (listed_nodesOf hclosed)).mp (by decide)).2
 refine never_stalls hclosed hacyclic ⟨?_,?_⟩
 · intro spec hspec _
   refine ⟨⟨spec.id,.pending,0,none⟩,?_,nofun⟩
   revert spec hspec
   decide
 · decide

section

variable {record current:NodeRecord κ}

inductive NodeOp (κ:Type) where
 | event (nodeId:κ) (eventType:AgentNodeEventType) (agentId:Option String)
 | invalidate (fromNodeId:κ)

def applyOp (cursor:DagCursor κ) : NodeOp κ → Except (DagError κ) (DagCursor κ)
 | .event nodeId eventType agentId => do
   let record ← reduceNode (← recordOf cursor nodeId) eventType agentId
   return { cursor with nodes:=replaceNode cursor record }
 | .invalidate fromNodeId => do
   return { cursor with nodes:=← invalidateNodes cursor fromNodeId }

def attemptOf (cursor:DagCursor κ) (k:κ) : ℕ :=
 ((recordOf cursor k).toOption.map (·.attempt)).getD 0

def NodeOp.retries (k:κ) : NodeOp κ → Bool
 | .event nodeId eventType _ => nodeId=k && eventType=.nodeRetrying
 | .invalidate _ => false

variable {op:NodeOp κ} {cursor':DagCursor κ} {ops:List (NodeOp κ)}

lemma attemptOf_event {event:AgentNodeEventType} {agentId:Option String} {nodeId:κ}
  (h:applyOp cursor (.event nodeId event agentId)=.ok cursor') : attemptOf cursor' k =
   if nodeId=k then nextAttempt (attemptOf cursor k) event else attemptOf cursor k := by
 obtain ⟨current,hcurrent,h⟩:=bind_eq_ok h
 obtain ⟨record,hrecord,h⟩:=bind_eq_ok h
 cases h
 obtain ⟨-,hid,-,hattempt⟩:=reduceNode_ok hrecord
 have hid:=hid.trans (recordOf_ok hcurrent).2
 unfold attemptOf
 split_ifs with hk
 · subst hk
   rw [recordOf_replaceNode,hcurrent]
   have hsame:current.nodeId=record.nodeId:=(recordOf_ok hcurrent).2.trans hid.symm
   simpa [Except.map,Except.toOption,hsame] using hattempt
 · rw [recordOf_other fun heq=>hk (hid.symm.trans heq)]

lemma attemptOf_invalidate {fromNodeId:κ}
  (h:applyOp cursor (.invalidate fromNodeId)=.ok cursor') :
  attemptOf cursor' k=attemptOf cursor k := by
 obtain ⟨nodes,hnodes,h⟩:=bind_eq_ok h
 obtain ⟨spec,-,hnodes⟩:=bind_eq_ok hnodes
 cases hnodes
 cases h
 unfold attemptOf
 rw [recordOf_map fun record=>by split_ifs <;> rfl]
 cases recordOf cursor k with
 | error e => rfl
 | ok record =>
   by_cases h : record.nodeId∈spec.invalidates <;> simp [h,Except.map,Except.toOption]

lemma attemptOf_run (hpos:0<attemptOf cursor k)
  (h:ops.foldlM applyOp cursor=.ok cursor') :
  attemptOf cursor' k=attemptOf cursor k+ops.countP (·.retries k) := by
 induction ops generalizing cursor with
 | nil =>
   cases h
   rfl
 | cons op ops ih =>
   obtain ⟨between,hop,h⟩:=bind_eq_ok h
   have hattempt:attemptOf between k=attemptOf cursor k+if op.retries k then 1 else 0 := by
    cases op with
    | invalidate fromNodeId => exact attemptOf_invalidate hop
    | event nodeId event agentId =>
      rw [attemptOf_event hop]
      by_cases hk : nodeId=k
      · cases event <;> simp [hk,nextAttempt,NodeOp.retries,hpos.ne']
      · simp [hk,NodeOp.retries]
   rw [ih (by omega) h,hattempt,countP_cons]
   omega

lemma attempt_ne_iff (hpos:0<attemptOf cursor k)
  (h:ops.foldlM applyOp cursor=.ok cursor') :
  attemptOf cursor k≠attemptOf cursor' k ↔ ∃agentId,.event k .nodeRetrying agentId∈ops := by
 rw [attemptOf_run hpos h,ne_comm,ne_eq,Nat.add_eq_left,← ne_eq,← Nat.pos_iff_ne_zero,
  countP_pos_iff]
 constructor
 · rintro ⟨⟨nodeId,event,agentId⟩ | _,hmem,hretry⟩
   · obtain ⟨rfl,rfl⟩ := by simpa [NodeOp.retries] using hretry
     exact ⟨agentId,hmem⟩
   · cases hretry
 · rintro ⟨agentId,hmem⟩
   exact ⟨_,hmem,by simp [NodeOp.retries]⟩

lemma attemptOf_spawned {agentId:Option String}
  (h:(ops++[NodeOp.event k .nodeSpawned agentId]).foldlM applyOp cursor=.ok cursor') :
  0<attemptOf cursor' k := by
 rw [foldlM_append] at h
 obtain ⟨before,-,h⟩:=bind_eq_ok h
 obtain ⟨_,hevent,h⟩:=bind_eq_ok h
 cases h
 rw [attemptOf_event hevent,if_pos rfl,nextAttempt]
 split_ifs <;> omega

/-- What holds of every two spawns of a node, with the operations that lead to each of them. -/
def EveryTwoSpawns (ops:List (NodeOp κ)) (holds:κ → List (NodeOp κ) → List (NodeOp κ) → Prop) :
    Prop :=
 ∀k a b earlier between later,
  ops=earlier++.event k .nodeSpawned a::(between++.event k .nodeSpawned b::later) →
  holds k (earlier++[.event k .nodeSpawned a]) (between++[.event k .nodeSpawned b])

def FreshAttempts (start:DagCursor κ) (ops:List (NodeOp κ)) : Prop :=
 EveryTwoSpawns ops fun k before after=>∀first second,before.foldlM applyOp start=.ok first →
  after.foldlM applyOp first=.ok second → attemptOf first k≠attemptOf second k

def Retried (ops:List (NodeOp κ)) : Prop :=
 EveryTwoSpawns ops fun k _ after=>∃agentId,.event k .nodeRetrying agentId∈after

theorem attempts_fresh_iff {start:DagCursor κ} (h:ops.foldlM applyOp start=.ok cursor) :
  FreshAttempts start ops ↔ Retried ops := by
 constructor
 · rintro hfresh k a b earlier between later rfl
   rw [append_cons,foldlM_append] at h
   obtain ⟨first,hfirst,h⟩:=bind_eq_ok h
   rw [append_cons,foldlM_append] at h
   obtain ⟨second,hsecond,-⟩:=bind_eq_ok h
   exact (attempt_ne_iff (attemptOf_spawned hfirst) hsecond).mp
    (hfresh k a b earlier between later rfl first second hfirst hsecond)
 · intro hretried k a b earlier between later hops first second hfirst hsecond
   exact (attempt_ne_iff (attemptOf_spawned hfirst) hsecond).mpr
    (hretried k a b earlier between later hops)

def sampleOps (second:AgentNodeEventType) : List (NodeOp String) :=
 [.event "a" .nodeSpawned none,.event "a" second none,.event "a" .nodeSpawned none]

theorem sample_attempts_iff : ∃cursor,
  (sampleOps .nodeRetrying).foldlM applyOp sampleCursor=.ok cursor ∧
   (FreshAttempts sampleCursor (sampleOps .nodeRetrying) ↔ Retried (sampleOps .nodeRetrying)) :=
 ⟨_,rfl,attempts_fresh_iff rfl⟩

theorem attempt_reused : ((sampleOps .nodeFailed).foldlM applyOp sampleCursor).isOk=true ∧
  ¬ FreshAttempts sampleCursor (sampleOps .nodeFailed) :=
 ⟨rfl,fun h=>h "a" none none [] [.event "a" .nodeFailed none] [] rfl _ _ rfl rfl rfl⟩

end

end EpistemicCompiler.DagProgress
