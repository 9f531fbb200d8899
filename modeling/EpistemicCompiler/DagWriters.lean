import EpistemicCompiler.DagRuns
import EpistemicCompiler.ProfileAcceptance

set_option autoImplicit false

/-!
# At most one writer

A compiled profile has at most two nodes that may write, with a chain of unconditional nodes between
them. The chain starts only when the first writer is accepted, and an accepted node never becomes
active again; so the two are never active together.
-/
namespace EpistemicCompiler.DagWriters
open ProfileCatalog ProfileComposition ProfileCompiler ProfilePlans ProfileStages ProfileSteps List
 Except
open ProfileChecks ProfileAcceptance FallibleRuns DagEngine DagRuns

variable {composition:RunComposition} {adapter:ProjectAdapter}

section Order

variable {κ:Type} [DecidableEq κ]

/-- The only nodes that may write are `first` and `repair`, and the second one waits for the
first one behind the unconditional nodes `between` them. -/
structure WriterOrder (profile:List (WorkflowNode κ)) (first repair:κ) (between:List κ) :
  Prop where
 writers : ∀n∈profile,writes n=true → n.id=first ∨ n.id=repair
 behind : ∀n∈profile,n.id∈repair::between → ∃d∈n.dependsOn,d∈first::between
 unconditional : ∀n∈profile,n.id∈between → n.when=none
 kept : ∀n∈profile,first ∉ n.invalidates

/-- The node has been started; a skipped node counts only if it can never be skipped. -/
def Past (between:List κ) (record:NodeRecord κ) : Prop :=
 0<record.attempt ∨
   (record.status≠.pending ∧ (record.status=.accepted → record.nodeId∈between))

def Finished (first:κ) (nodes:List (NodeRecord κ)) : Prop :=
 ∀record∈nodes,record.nodeId=first → record.status=.accepted

/-- Nothing behind the first writer has started before that writer was accepted. -/
structure Serial (first repair:κ) (between:List κ) (s:DagRun κ) : Prop where
 tracked : Tracked s.cursor
 records : ∀record∈s.cursor.nodes,record.nodeId∈repair::between → Past between record →
  Finished first s.cursor.nodes
 scheduled : ∀k∈s.scheduled,k∈repair::between → Finished first s.cursor.nodes

variable {first repair:κ} {between:List κ} {s t:DagRun κ}
 {nodes:List (NodeRecord κ)} {record record':NodeRecord κ} {spec:WorkflowNode κ}

omit [DecidableEq κ] in
lemma past_of_started (h:Started record) : Past between record := by
 cases h with
 | inl hattempt => exact .inl hattempt
 | inr hstatus => exact .inr ⟨hstatus.1,fun haccept=>absurd haccept hstatus.2⟩

lemma Move.profile (h:Move s t) : t.cursor.profile=s.cursor.profile := by
 cases h <;> rfl

lemma occupies_true {cursor:DagCursor κ} (h:occupiesWriterSlot cursor record=.ok true) :
  record.status≠.pending ∧ record.status≠.accepted ∧
   ∃spec∈cursor.profile,spec.id=record.nodeId ∧ writes spec=true := by
 unfold occupiesWriterSlot at h
 cases hstatus : record.status with
 | pending | retrying | failed | accepted =>
   rw [hstatus] at h
   cases h
 | spawned | waitingArtifact | validating =>
   rw [hstatus] at h
   obtain ⟨spec,hspec,h⟩:=bind_eq_ok h
   obtain ⟨hmem,hid⟩:=workflowNodeOf_ok hspec
   exact ⟨by decide,by decide,spec,hmem,hid,ok.inj h⟩

omit [DecidableEq κ] in
lemma length_le_one (hdist:nodes.Nodup)
  (h:∀record∈nodes,∀record'∈nodes,record=record') : nodes.length ≤ 1 := by
 cases nodes with
 | nil => simp
 | cons a rest =>
   cases rest with
   | nil => simp
   | cons b rest =>
     have hsame:=h a (by simp) b (by simp)
     rw [hsame] at hdist
     simp at hdist

lemma assertSingleWriter_ok {cursor:DagCursor κ} {count:ℕ}
  (h:DagEngine.activeWriterCount cursor=.ok count) (hcount:count ≤ 1) :
  assertSingleWriter cursor=.ok () := by
 unfold assertSingleWriter
 rw [h,ok_bind,if_neg (by omega)]
 rfl

section

variable (horder:WriterOrder s.cursor.profile first repair between)
include horder

lemma Finished.rewrite (h:Finished first s.cursor.nodes)
  (hrewrites:Rewrites (Change s) s.cursor.nodes nodes) :
  Finished first nodes := by
 intro record' hrecord' hid'
 obtain ⟨record,hrecord,hid,hchange⟩:=hrewrites.changes record' hrecord'
 have hfirst:=hid.trans hid'
 have haccept:=h record hrecord hfirst
 cases hchange with
 | same h => rw [h,haccept]
 | skipped _ _ _ _ hpending =>
   rw [haccept] at hpending
   cases hpending
 | advanced _ _ _ hidle =>
   rw [haccept] at hidle
   exact absurd hidle (by decide)
 | spawned _ hopen | reported _ hopen => exact absurd haccept hopen
 | completed _ hstatus => exact hstatus
 | invalidated spec hspec hmem =>
   rw [hfirst] at hmem
   exact absurd hmem (horder.kept spec hspec)

variable (h:Serial first repair between s)
include h

/-- A ready node behind the first writer has an accepted dependency, which is that writer or
lies behind it as well. -/
lemma Serial.finished_of_ready (hready:Ready s.cursor spec)
  (hspec:spec.id∈repair::between) : Finished first s.cursor.nodes := by
 obtain ⟨d,hd,hbehind⟩:=horder.behind spec hready.listed hspec
 obtain ⟨dep,hrecord,haccept⟩:=bind_eq_ok (hready.dependencies d hd)
 obtain ⟨hdep,hid⟩:=recordOf_ok hrecord
 have hstatus:dep.status=.accepted:=of_decide_eq_true (Except.ok.inj haccept)
 cases mem_cons.mp hbehind with
 | inl hfirst =>
   intro record hrecord hrecordId
   have hsame:record=dep :=
    h.tracked.record_unique hrecord hdep (hrecordId.trans (hid.trans hfirst).symm)
   rw [hsame]
   exact hstatus
 | inr hmem =>
   have hbetween:dep.nodeId∈between:=hid ▸ hmem
   apply h.records dep hdep (mem_cons_of_mem _ hbetween)
   refine .inr ⟨?_,fun _=>hbetween⟩
   rw [hstatus]
   decide

lemma Serial.rewrite (hrewrites:Rewrites (Change s) s.cursor.nodes nodes) :
  Serial first repair between (s.withNodes nodes) := by
 refine ⟨tracked_withNodes h.tracked hrewrites.ids,?_,fun k hk hbehind=>
  (h.scheduled k hk hbehind).rewrite horder hrewrites⟩
 intro record' hrecord' hbehind hpast
 obtain ⟨record,hrecord,hid,hchange⟩:=hrewrites.changes record' hrecord'
 rw [← hid] at hbehind
 have hfinished:Finished first s.cursor.nodes := by
  cases hchange with
  | same heq =>
    rw [heq] at hpast
    exact h.records record hrecord hbehind hpast
  | skipped spec hspec hspecId hdisabled hpending heq =>
    rw [heq] at hpast
    cases hpast with
    | inl hattempt => exact h.records record hrecord hbehind (.inl hattempt)
    | inr hstatus =>
      -- A node between the writers has no condition, so it is never skipped.
      have hwhen:=horder.unconditional spec hspec (hspecId ▸ hstatus.2 rfl)
      rw [hwhen] at hdisabled
      cases hdisabled
  | advanced spec hready hspecId =>
    exact h.finished_of_ready horder hready (hspecId ▸ hbehind)
  | spawned hscheduled => exact h.scheduled _ hscheduled hbehind
  | reported hstarted => exact h.records record hrecord hbehind (past_of_started hstarted)
  | completed haccept hstatus hattempt =>
    apply h.records record hrecord hbehind
    cases hpast with
    | inl hpos => exact .inl (hattempt ▸ hpos)
    | inr hopen =>
      refine .inr ⟨?_,fun _=>hid ▸ hopen.2 hstatus⟩
      rw [haccept]
      decide
  | invalidated spec _ _ heq =>
    rw [heq] at hpast
    cases hpast with
    | inl hattempt => exact h.records record hrecord hbehind (.inl hattempt)
    | inr hstatus => exact absurd rfl hstatus.1
 exact hfinished.rewrite horder hrewrites

lemma Serial.move (hmove:Move s t) : Serial first repair between t := by
 cases hmove with
 | predicates predicates =>
   exact ⟨⟨h.tracked.ids,h.tracked.distinct,h.tracked.closed⟩,h.records,h.scheduled⟩
 | schedule hready =>
   refine ⟨h.tracked,h.records,fun k hk hbehind=>?_⟩
   cases mem_append.mp hk with
   | inl hmem => exact h.scheduled k hmem hbehind
   | inr hmem =>
     obtain ⟨spec,hspec,rfl⟩:=hready k hmem
     have hfinished:=h.finished_of_ready horder hspec hbehind
     exact hfinished
 | rewrite hrewrites => exact h.rewrite horder hrewrites

lemma Serial.moves (hmoves:Relation.ReflTransGen Move s t) :
  t.cursor.profile=s.cursor.profile ∧ Serial first repair between t := by
 induction hmoves with
 | refl => exact ⟨rfl,h⟩
 | @tail u v _ hmove ih =>
   have horder':WriterOrder u.cursor.profile first repair between := by
    rw [ih.1]
    exact horder
   exact ⟨(Move.profile hmove).trans ih.1,ih.2.move horder' hmove⟩

lemma Serial.run (hrun:Relation.ReflTransGen Step s t) :
  t.cursor.profile=s.cursor.profile ∧ Serial first repair between t := by
 induction hrun with
 | refl => exact ⟨rfl,h⟩
 | @tail u v _ hstep ih =>
   have horder':WriterOrder u.cursor.profile first repair between := by
    rw [ih.1]
    exact horder
   have hmoved:=ih.2.moves horder' (hstep.moves ih.2.tracked)
   exact ⟨hmoved.1.trans ih.1,hmoved.2⟩

lemma Serial.writer_unique (hrecord:record∈s.cursor.nodes)
  (hrecord':record'∈s.cursor.nodes) (hoccupies:occupiesWriterSlot s.cursor record=.ok true)
  (hoccupies':occupiesWriterSlot s.cursor record'=.ok true) : record=record' := by
 -- An active repair means that the first writer is accepted, so that it is not active.
 have hclash:∀r∈s.cursor.nodes,∀r'∈s.cursor.nodes,
   occupiesWriterSlot s.cursor r=.ok true → occupiesWriterSlot s.cursor r'=.ok true →
   r.nodeId=repair → r'.nodeId=first → False := by
  intro r hr r' hr' hholds hholds' hrepair hfirst
  obtain ⟨hpending,haccept,-⟩:=occupies_true hholds
  have hpast:Past between r:=.inr ⟨hpending,fun hstatus=>absurd hstatus haccept⟩
  have hfinished:=h.records r hr (hrepair ▸ mem_cons_self) hpast
  exact (occupies_true hholds').2.1 (hfinished r' hr' hfirst)
 obtain ⟨-,-,spec,hspec,hid,hwrites⟩:=occupies_true hoccupies
 obtain ⟨-,-,spec',hspec',hid',hwrites'⟩:=occupies_true hoccupies'
 apply h.tracked.record_unique hrecord hrecord'
 rw [← hid,← hid']
 cases horder.writers spec hspec hwrites with
 | inl hfirst =>
   cases horder.writers spec' hspec' hwrites' with
   | inl hfirst' => rw [hfirst,hfirst']
   | inr hrepair' =>
     exact (hclash record' hrecord' record hrecord hoccupies' hoccupies
      (hid'.symm.trans hrepair') (hid.symm.trans hfirst)).elim
 | inr hrepair =>
   cases horder.writers spec' hspec' hwrites' with
   | inl hfirst' =>
     exact (hclash record hrecord record' hrecord' hoccupies hoccupies'
      (hid.symm.trans hrepair) (hid'.symm.trans hfirst')).elim
   | inr hrepair' => rw [hrepair,hrepair']

lemma Serial.activeWriterCount :
  ∃count,activeWriterCount s.cursor=.ok count ∧ count ≤ 1 := by
 have htotal:∀record∈s.cursor.nodes,∃b,occupiesWriterSlot s.cursor record=.ok b :=
  fun record hrecord=>h.tracked.exists_occupies hrecord
 obtain ⟨writers,hwriters⟩ : ∃writers,
   s.cursor.nodes.filterM (occupiesWriterSlot s.cursor)=.ok writers :=
  ⟨_,filterM_eq_ok_iff.mpr ⟨htotal,rfl⟩⟩
 refine ⟨writers.length,?_,?_⟩
 · unfold DagEngine.activeWriterCount
   rw [hwriters]
   rfl
 obtain ⟨-,rfl⟩:=filterM_eq_ok_iff.mp hwriters
 have hids:(s.cursor.nodes.map (·.nodeId)).Nodup := by
  rw [h.tracked.ids]
  exact h.tracked.distinct
 have hact:∀record∈s.cursor.nodes,
   (occupiesWriterSlot s.cursor record).toOption.getD false=true →
   occupiesWriterSlot s.cursor record=.ok true := by
  intro record hrecord htest
  obtain ⟨b,hb⟩:=htotal record hrecord
  rw [hb] at htest
  exact hb.trans (congrArg ok htest)
 apply length_le_one ((List.Nodup.of_map _ hids).filter _)
 intro record hrecord record' hrecord'
 obtain ⟨hmem,htest⟩:=mem_filter.mp hrecord
 obtain ⟨hmem',htest'⟩:=mem_filter.mp hrecord'
 exact h.writer_unique horder hmem hmem' (hact record hmem htest) (hact record' hmem' htest')

end 

end Order

section Invalidation

def SparesWriters (nodes:List ProfileNode) : Prop :=
 ∀n∈nodes,∀d∈n.invalidates,¬ Writes d

variable {graph:GraphState} {nodes:List ProfileNode} {n:ProfileNode}

lemma SparesWriters.modifyNode (h:SparesWriters nodes) (id:NodeKey)
  {change:ProfileNode → ProfileNode}
  (hchange:∀n,(∀d∈n.invalidates,¬ Writes d) → ∀d∈(change n).invalidates,¬ Writes d) :
  SparesWriters (modifyNode id change nodes) := by
 induction nodes with
 | nil => exact h
 | cons node nodes ih =>
   obtain ⟨hnode,hnodes⟩:=forall_mem_cons.mp h
   unfold ProfileCompiler.modifyNode
   by_cases hid : node.id=id
   · rw [if_pos hid]
     exact forall_mem_cons.mpr ⟨hchange node hnode,hnodes⟩
   · rw [if_neg hid]
     exact forall_mem_cons.mpr ⟨hnode,ih hnodes⟩

section

variable (h:SparesWriters graph.nodes)
include h

lemma SparesWriters.addNode (hn:∀d∈n.invalidates,¬ Writes d) (provenance:NodeProvenance) :
  SparesWriters (addNode graph n provenance).nodes := by
 unfold ProfileCompiler.addNode
 split
 · apply h.modifyNode
   intro existing hexist d hd
   cases mem_append.mp (mem_unique.mp hd) with
   | inl hold => exact hexist d hold
   | inr hnew => exact hn d hnew
 · intro n' hn'
   cases mem_append.mp hn' with
   | inl hold => exact h n' hold
   | inr hnew =>
     rw [mem_singleton.mp hnew]
     exact hn

lemma SparesWriters.removeNode (id:NodeKey) : SparesWriters (removeNode graph id).nodes := by
 intro n hn d hd
 obtain ⟨old,hold,rfl⟩:=mem_map.mp hn
 exact h old (mem_filter.mp hold).1 d (mem_filter.mp hd).1

lemma SparesWriters.removeWhere (unwanted:ProfileNode → Bool) :
  SparesWriters (removeWhere graph unwanted).nodes :=
 foldlRecOn (motive := fun graph : GraphState=>SparesWriters graph.nodes) _ _ h
  fun _ hgraph id _=>hgraph.removeNode id

lemma SparesWriters.deferSpecConsistency : SparesWriters (deferSpecConsistency graph).nodes := by
 unfold ProfileCompiler.deferSpecConsistency
 split <;> exact h

end 

section

variable (h:SparesWriters graph.nodes)
include h

lemma SparesWriters.attach (hn:n.invalidates=[]) (provenance:NodeProvenance) :
  SparesWriters (attachBeforeAcceptance graph n provenance).nodes := by
 have hadded:SparesWriters
   (ProfileCompiler.addNode graph (attachedNode graph n) provenance).nodes := by
  apply h.addNode
  rw [attachedNode_invalidates,hn]
  simp
 apply hadded.modifyNode
 intro acceptance hacceptance
 unfold dependOn
 split <;> exact hacceptance

lemma SparesWriters.skipOperation (operation:ControllerOperation) :
  SparesWriters (skipOperation graph operation).nodes := by
 unfold ProfileCompiler.skipOperation
 split
 · exact h.removeNode _
 · exact h

lemma SparesWriters.applyOverlay (overlay:RiskOverlay) :
  SparesWriters (applyOverlay graph overlay).nodes := by
 have hnone:∀d∈([] : List NodeKey),¬ Writes d := by simp
 cases overlay with
 | securitySensitive | dataMutation | migration | crossCutting | productionImpact =>
   exact h.attach rfl _
 | authentication | uiVisible | externalContract | destructive => exact h
 | publicApi => exact (h.addNode hnone _).attach rfl _
 | concurrency | noTests | generatedCode => exact h.addNode hnone _
 | emergency => exact ((h.skipOperation _).skipOperation _).deferSpecConsistency

lemma SparesWriters.attachPackNodes (packs:List VerificationPackId) (adapter:ProjectAdapter) :
  SparesWriters (attachPackNodes graph packs adapter).nodes := by
 unfold ProfileCompiler.attachPackNodes
 split
 · exact h
 · split
   · exact h.addNode (by simp [controllerNode]) _
   · exact h

lemma SparesWriters.applyDelivery (mode:DeliveryMode) :
  SparesWriters (applyDelivery graph mode).nodes := by
 cases mode with
 | analysisOnly | runbook => exact h.removeWhere _
 | mitigationPatch =>
   have hforbidden:SparesWriters (forbid graph ["apply-to-user-tree"]).nodes:=h
   exact hforbidden.deferSpecConsistency.attach rfl _
 | specArtifact | integrationBranch | patch | pullRequestReady | migrationSeries
 | applyToWorktree => exact h

end 

lemma fastSource_mem (h:fastSource graph=some n) : n∈graph.nodes := by
 unfold fastSource at h
 cases hcode : graph.nodeById .codeInvestigator with
 | some found =>
   rw [hcode] at h
   cases h
   exact (nodeById_some hcode).1
 | none =>
   rw [hcode] at h
   cases hplain : graph.nodeById .investigator with
   | some found =>
     rw [hplain] at h
     cases h
     exact (nodeById_some hplain).1
   | none =>
     rw [hplain] at h
     exact mem_of_find?_eq_some h

lemma SparesWriters.keepInvestigator (h:SparesWriters graph.nodes) :
  SparesWriters (keepInvestigator graph).nodes := by
 have hrest:SparesWriters (if graph.nodeById .investigator=none ∧
   graph.nodeById .analyst≠none then ProfileCompiler.addNode graph
    (agentNode .investigator .investigator .read [.analyst]) (.budget .fast)
   else graph).nodes := by
  split
  · exact h.addNode (by simp [agentNode]) _
  · exact h
 unfold ProfileCompiler.keepInvestigator
 cases hsrc : fastSource graph with
 | none => exact hrest
 | some source =>
   dsimp only
   split
   · let kept : ProfileNode:={ source with id:=.investigator, dependsOn:=[.analyst] }
     have hkept:∀d∈kept.invalidates,¬ Writes d:=h source (fastSource_mem hsrc)
     exact (h.removeNode _).addNode hkept _
   · exact hrest

lemma SparesWriters.applyBudget (h:SparesWriters graph.nodes) (budget:ExecutionBudget) :
  SparesWriters (applyBudget graph budget).nodes := by
 cases budget with
 | standard => exact h
 | thorough =>
   unfold ProfileCompiler.applyBudget
   dsimp only
   split
   · exact h.addNode (by simp [agentNode]) _
   · exact h
 | fast =>
   have hremoved:SparesWriters (fastRemovals.foldl removeIfPresent graph).nodes := by
    refine foldlRecOn (motive := fun graph : GraphState=>SparesWriters graph.nodes) _ _ h
     fun graph hgraph id _=>?_
    unfold removeIfPresent
    split
    · exact hgraph.removeNode id
    · exact hgraph
   have hkept:=hremoved.keepInvestigator.removeWhere fun node=>
    node.role=some .investigator ∧ node.id≠.investigator
   simp only [ProfileCompiler.applyBudget]
   exact hkept.modifyNode _ fun _ hn=>hn

lemma SparesWriters.loadNodes (h:SparesWriters graph.nodes) (hnodes:SparesWriters nodes)
  (provenance:NodeProvenance) : SparesWriters (loadNodes graph nodes provenance).nodes :=
 foldlRecOn (motive := fun graph : GraphState=>SparesWriters graph.nodes) _ _ h
  fun _ hgraph n hn=>hgraph.addNode (hnodes n hn) provenance

lemma sparesWriters_buildGraph :
  SparesWriters (buildGraph composition adapter).nodes := by
 have hfragment:SparesWriters (loadFragment composition.primaryIntent) := by
  unfold SparesWriters
  cases composition.primaryIntent <;> decide
 have hsecondary:∀intent,SparesWriters (secondaryNodes intent) := by
  unfold SparesWriters
  intro intent
  cases intent <;> decide
 have hempty:SparesWriters emptyGraph.nodes := by simp [SparesWriters,emptyGraph]
 apply SparesWriters.applyBudget
 apply SparesWriters.applyDelivery
 apply SparesWriters.attachPackNodes
 refine foldlRecOn (motive := fun graph : GraphState=>SparesWriters graph.nodes) _ _ ?_
  fun _ hgraph overlay _=>hgraph.applyOverlay overlay
 exact foldlRecOn (motive := fun graph : GraphState=>SparesWriters graph.nodes) _ _
  (hempty.loadNodes hfragment _) fun _ hgraph intent _=>
   hgraph.loadNodes (hsecondary intent) _

end Invalidation

section Profiles

def checks (intent:PrimaryIntent) : List NodeKey :=
 (spine intent).tail.filter fun k=>¬ Writes k ∧ k≠.specConsistency

def firstWriter (intent:PrimaryIntent) : NodeKey :=
 if (planOfNodes (loadFragment intent)).node .specAuthor then .specAuthor else .implementer

variable {intent:PrimaryIntent} {k:NodeKey}

lemma firstWriter_writes : Writes (firstWriter intent) := by
 unfold firstWriter
 split <;> decide

lemma fragment_writers (h:(fragmentPlan intent).node k) (hk:Writes k) :
  k=firstWriter intent ∨ k=.repairImplementer := by
 have hall:∀n∈loadFragment intent,Writes n.id →
   n.id=firstWriter intent ∨ n.id=.repairImplementer := by
  cases intent <;> decide
 obtain ⟨n,hn,rfl⟩:=h
 exact hall n hn hk

lemma checks_behind (h:(fragmentPlan intent).node .repairImplementer)
  (hk:k∈.repairImplementer::checks intent) :
  ∃d∈.implementer::checks intent,(fragmentPlan intent).edge k d := by
 have hall:(fragmentPlan intent).node .repairImplementer →
   ∀k∈.repairImplementer::checks intent,∃d∈.implementer::checks intent,
     (fragmentPlan intent).edge k d := by
  cases intent <;> decide
 exact hall h k hk

lemma repair_fragment (h:(fragmentPlan intent).node .repairImplementer) :
  firstWriter intent=.implementer ∧ (fragmentPlan intent).node .implementer ∧
   ∀k∈checks intent,
     (fragmentPlan intent).node k ∧ Lasting k ∧ whenOf k=none := by
 revert h
 cases intent <;> decide

lemma analyst_not_checked : .analyst ∉ checks intent := by
 cases intent <;> decide

variable {compiled:CompiledProfile}

variable {n:ProfileNode}

lemma keeps_writers (h:(composedPlan composition adapter).node k) (hk:Writes k) :
  ¬ RemovesWriters composition.deliveryMode := by
 have hne:∀k',¬ Writes k' → k≠k' := by
  intro k' hk' heq
  exact hk' (heq ▸ hk)
 intro hmode
 rcases composedPlan_node_cases h with hdelivered | hinv | ⟨hcritic,-⟩
 · refine deliveryPlan_elim (Q := fun P=>P.node k → False) ?_ ?_ ?_ hdelivered
   · exact fun _ hnode=>hnode.2 ⟨hnode.1,hk⟩
   · intro hmitigation
     simp [hmitigation,RemovesWriters] at hmode
   · exact fun hnot _=>absurd hmode hnot
 · exact hne _ (by decide) hinv
 · exact hne _ (by decide) hcritic

lemma survives_writer (hmode:¬ RemovesWriters composition.deliveryMode) (hk:Writes k) :
  Survives composition k := by
 have hkey:∀k,Writes k → ¬ Deferrable k ∧ k ∉ fastRemovals ∧ ¬ Investigates k := by
  intro k
  cases k <;> decide
 obtain ⟨hdefer,hbudget⟩:=hkey k hk
 exact ⟨fun _=>hdefer, fun h=>absurd h hmode, fun _=>hbudget⟩

lemma writes_key (h:Standard n) (hn:writes n=true) : Writes n.id := by
 have hgroup:∀k,(kindOf k).concurrencyGroup=some .write → Writes k := by
  intro k
  cases k <;> decide
 have hkind:=h.kind
 cases of_decide_eq_true hn with
 | inl hwrite => exact hgroup n.id (by rw [← hkind]; exact hwrite)
 | inr hrole => exact (congrArg NodeKind.role hkind).symm.trans hrole

variable (h:Compiled composition adapter compiled)
include h

lemma compiled_dependsOn (hn:n∈compiled.nodes) {d:NodeKey}
  (hedge:(composedPlan composition adapter).edge n.id d)
  (hnode:(composedPlan composition adapter).node d) : d∈n.dependsOn := by
 have hcompiled:(planOfNodes compiled.nodes).edge n.id d := by
  rw [h.plan_eq]
  exact ⟨hedge,hnode⟩
 obtain ⟨m,hm,hid,hd⟩:=hcompiled
 have hsame:=inj_on_of_nodup_map h.wellFormed.ids hm hn hid
 exact hsame ▸ hd

lemma compiled_behind (hrepair:(planOfNodes compiled.nodes).node .repairImplementer)
  (hn:n∈compiled.nodes) (hid:n.id∈.repairImplementer::checks composition.primaryIntent) :
  ∃d∈n.dependsOn,d∈.implementer::checks composition.primaryIntent := by
 rw [h.plan_eq] at hrepair
 have hfragment:=composedPlan_writes hrepair (by decide)
 have hmode:=keeps_writers hrepair (by decide)
 obtain ⟨-,himpl,hcheck⟩:=repair_fragment hfragment
 obtain ⟨d,hd,hedge⟩:=checks_behind hfragment hid
 have hsrc:Survives composition n.id := by
  cases mem_cons.mp hid with
  | inl heq =>
    rw [heq]
    exact survives_writer hmode (by decide)
  | inr hmem => exact (hcheck n.id hmem).2.1.survives
 have hne:n.id≠.implementer := by
  intro heq
  cases mem_cons.mp hid with
  | inl hrepairId => exact absurd (heq.symm.trans hrepairId) (by decide)
  | inr hmem =>
    rw [heq] at hmem
    exact (hcheck _ hmem).2.1.delivery (by decide)
 have htarget:(fragmentPlan composition.primaryIntent).node d ∧ Survives composition d := by
  cases mem_cons.mp hd with
  | inl heq =>
    rw [heq]
    exact ⟨himpl,survives_writer hmode (by decide)⟩
  | inr hmem => exact ⟨(hcheck d hmem).1,(hcheck d hmem).2.1.survives⟩
 refine ⟨d,compiled_dependsOn h hn ?_ ?_,hd⟩
 · exact composedPlan_edge_of (intentPlan_edge.mpr (.inl hedge)) hsrc htarget.2 fun _=>hne
 · exact composedPlan_node_of (intentPlan_node.mpr (.inl htarget.1)) htarget.2

lemma compiled_unconditional (hrepair:(planOfNodes compiled.nodes).node .repairImplementer)
  (hn:n∈compiled.nodes) (hid:n.id∈checks composition.primaryIntent) : n.when=none := by
 rw [h.plan_eq] at hrepair
 obtain ⟨-,-,hcheck⟩:=repair_fragment (composedPlan_writes hrepair (by decide))
 obtain ⟨-,hlast,hwhen⟩:=hcheck n.id hid
 have hstd:=h.wellFormed.standard n hn
 have hrole:n.role≠some .investigator := by
  intro hrole
  exact hlast.budget.2 ((congrArg NodeKind.role hstd.kind).symm.trans hrole)
 rw [hstd.condition hrole,hwhen]

lemma compiled_writers (hn:n∈compiled.nodes) (hwrites:writes n=true) :
  n.id=firstWriter composition.primaryIntent ∨ n.id=.repairImplementer := by
 have hkey:=writes_key (h.wellFormed.standard n hn) hwrites
 have hnode:(composedPlan composition adapter).close.node n.id := by
  rw [← h.plan_eq]
  exact ⟨n,hn,rfl⟩
 exact fragment_writers (composedPlan_writes hnode hkey) hkey

lemma compiled_kept (hn:n∈compiled.nodes) :
  firstWriter composition.primaryIntent ∉ n.invalidates := by
 rw [h.nodes] at hn
 obtain ⟨old,hold,rfl⟩:=mem_map.mp hn
 exact fun hmem=>sparesWriters_buildGraph old hold _ hmem (firstWriter_writes)

lemma compiled_writerOrder :
  ∃between,.analyst ∉ between ∧ WriterOrder compiled.nodes
    (firstWriter composition.primaryIntent) .repairImplementer between := by
 by_cases hrepair : (planOfNodes compiled.nodes).node .repairImplementer
 · refine ⟨checks composition.primaryIntent,analyst_not_checked,?_⟩
   have hfragment:(fragmentPlan composition.primaryIntent).node .repairImplementer := by
    rw [h.plan_eq] at hrepair
    exact composedPlan_writes hrepair (by decide)
   have hfirst:=(repair_fragment hfragment).1
   exact ⟨fun n hn=>compiled_writers h hn,
    fun n hn hid=>hfirst ▸ compiled_behind h hrepair hn hid,
    fun n hn hid=>compiled_unconditional h hrepair hn hid, fun n hn=>compiled_kept h hn⟩
 · refine ⟨[],by simp,fun n hn=>compiled_writers h hn, fun n hn hid=>?_, by simp,
    fun n hn=>compiled_kept h hn⟩
   exact absurd ⟨n,hn,mem_singleton.mp hid⟩ hrepair

lemma compiled_tracked {cursor:DagCursor NodeKey} (hprofile:cursor.profile=compiled.nodes)
  (hids:cursor.nodes.map (·.nodeId)=compiled.nodes.map (·.id)) : Tracked cursor := by
 refine ⟨by rw [hprofile,hids],hprofile ▸ h.wellFormed.ids,?_⟩
 rw [hprofile]
 intro n hn d hd
 have hedge:(composedPlan composition adapter).close.edge n.id d := by
  rw [← h.plan_eq]
  exact ⟨n,hn,rfl,hd⟩
 rw [mem_ids_iff,h.plan_eq]
 exact hedge.2

end Profiles

section Runs

/-- The start of a run of a compiled profile. The analyst writes the contract that the profile is
compiled from, so it alone may have run already. -/
structure Opening (compiled:CompiledProfile) (s:DagRun NodeKey) : Prop where
 profile : s.cursor.profile=compiled.nodes
 ids : s.cursor.nodes.map (·.nodeId)=compiled.nodes.map (·.id)
 fresh : ∀record∈s.cursor.nodes,record.nodeId≠.analyst →
  record.status=.pending ∧ record.attempt=0
 scheduled : ∀k∈s.scheduled,k=.analyst

variable {signals:CompileSignals}

lemma Opening.serial {compiled:CompiledProfile} {s:DagRun NodeKey} (h:Opening compiled s)
  (hcompiled:Compiled composition adapter compiled) (first:NodeKey) {between:List NodeKey}
  (hanalyst:.analyst ∉ between) : Serial first .repairImplementer between s := by
 have hne:∀k∈.repairImplementer::between,k≠.analyst := by
  intro k hk heq
  rw [heq] at hk
  cases mem_cons.mp hk with
  | inl hrepair => cases hrepair
  | inr hmem => exact hanalyst hmem
 refine ⟨compiled_tracked hcompiled h.profile h.ids,?_,?_⟩
 · intro record hrecord hbehind hpast
   obtain ⟨hstatus,hattempt⟩:=h.fresh record hrecord (hne _ hbehind)
   cases hpast with
   | inl hpos => omega
   | inr hopen => exact absurd hstatus hopen.1
 · intro k hk hbehind
   exact absurd (h.scheduled k hk) (hne k hbehind)

/-- No run of a compiled profile has two active writers, before or after a wave. -/
theorem single_writer {r:CompiledProfileResult}
  (h:compileRunComposition composition adapter signals=.ok r) {start s:DagRun NodeKey}
  (hstart:Opening r.compiled start) (hrun:Relation.ReflTransGen Step start s) :
  assertSingleWriter s.cursor=.ok () ∧
  ∀predicates,∃spawned count,
    spawnWave { s.cursor with predicates }=.ok spawned ∧
    activeWriterCount spawned=.ok count ∧ count ≤ 1 ∧ assertSingleWriter spawned=.ok () := by
 have hcompiled:=compiled_of_ok h
 obtain ⟨between,hanalyst,horder⟩:=compiled_writerOrder hcompiled
 have hserial:=hstart.serial hcompiled (firstWriter composition.primaryIntent) hanalyst
 rw [← hstart.profile] at horder
 constructor
 · obtain ⟨hprofile,hs⟩:=hserial.run horder hrun
   rw [← hprofile] at horder
   obtain ⟨count,hcount,hle⟩:=hs.activeWriterCount horder
   exact assertSingleWriter_ok hcount hle
 · intro predicates
   have htracked:=(hserial.run horder (hrun.tail (.predicates s predicates))).2.tracked
   obtain ⟨spawned,hspawned⟩:=exists_spawnWave htracked
   have hwave:=(hrun.tail (.predicates s predicates)).tail (.wave hspawned)
   obtain ⟨hprofile,hs⟩:=hserial.run horder hwave
   rw [← hprofile] at horder
   obtain ⟨count,hcount,hle⟩:=hs.activeWriterCount horder
   exact ⟨spawned,count,hspawned,hcount,hle,assertSingleWriter_ok hcount hle⟩

def featureComposition : RunComposition :=
 ⟨.feature,[],[],[],.patch,.normal,.fast,.none,[],none⟩

theorem single_writer_feature :
  ∃r,compileRunComposition featureComposition ⟨none⟩ ⟨false,false,false⟩=.ok r ∧
    ∃spawned,spawnWave ⟨r.compiled.nodes,initialNodeRecords r.compiled.nodes,
      ["HAS_BLOCKING_FINDINGS"]⟩=.ok spawned ∧ assertSingleWriter spawned=.ok () := by
 have hok:(compileRunComposition featureComposition ⟨none⟩ ⟨false,false,false⟩).isOk =
   true := by decide
 obtain ⟨r,hr⟩:=exists_ok_of_isOk hok
 have hstart:Opening r.compiled
   ⟨⟨r.compiled.nodes,initialNodeRecords r.compiled.nodes,[]⟩,[]⟩ := by
  refine ⟨rfl,?_,fun record hrecord _=>?_, by simp⟩
  · simp [initialNodeRecords,Function.comp_def]
  · obtain ⟨n,-,rfl⟩:=mem_map.mp hrecord
    exact ⟨rfl,rfl⟩
 obtain ⟨spawned,-,hspawned,-,-,hsingle⟩ :=
  (single_writer hr hstart .refl).2 ["HAS_BLOCKING_FINDINGS"]
 exact ⟨r,hr,spawned,hspawned,hsingle⟩

end Runs

end EpistemicCompiler.DagWriters
