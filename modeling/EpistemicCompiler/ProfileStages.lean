import EpistemicCompiler.ProfilePlans

set_option autoImplicit false

/-!
# The stages of the compiler on plans

The abstract compiler builds the plan of a composition out of operations on dependency graphs.
The graph that the source builds is well formed and has that plan.
-/
namespace EpistemicCompiler.ProfileStages
open ProfileCatalog ProfileComposition ProfileCompiler ProfilePlans DependencyGraphs List

variable (P:Plan) (intent:PrimaryIntent) (packs:List VerificationPackId)
 (nodes:List ProfileNode) (k:NodeKey) (adapter:ProjectAdapter)

def overlayAux : RiskOverlay → Option NodeKey
 | .publicApi => some .consumerInvestigator
 | .concurrency => some .secondHypothesis
 | .noTests => some .characterization
 | .generatedCode => some .generatorInvestigator
 | _ => none

def overlayGate : RiskOverlay → Option NodeKey
 | .securitySensitive => some .securityReviewer
 | .publicApi | .crossCutting => some .architectureReviewer
 | .dataMutation | .migration => some .migrationDryRun
 | .productionImpact => some .rollbackEvidence
 | _ => none

def auxDeps (P:Plan) (k:NodeKey) (b:NodeKey) : Prop :=
 if k=.secondHypothesis then
  (P.node .reproductionInvestigator ∧ b=.reproductionInvestigator) ∨
   (¬ P.node .reproductionInvestigator ∧ b=.analyst)
 else b=.analyst

def gateFallback (gate:NodeKey) (b:NodeKey) : Prop :=
 match gate with
 | .securityReviewer | .architectureReviewer => b=.reviewer
 | .migrationDryRun => b=.implementer
 | .rollbackEvidence => b=.verification
 | _ => False

def emergencyPlan : Plan :=
 (P.drop .specConsistency).drop .equivalence

def auxPlan : Option NodeKey → Plan
 | some k => P.insert k (auxDeps P k)
 | none => P

def gatePlan : Option NodeKey → Plan
 | some gate => P.attach .acceptance gate (gateFallback gate)
 | none => P

def overlayPlan (P:Plan) (overlay:RiskOverlay) : Plan :=
 gatePlan (auxPlan (if overlay=.emergency then emergencyPlan P else P) (overlayAux overlay))
  (overlayGate overlay)

def Resolves : Prop :=
 ∃id∈packs,id.text∈adapter.packs.getD []

open Classical in
noncomputable def packPlan : Plan :=
 if Resolves packs adapter ∧ ¬ P.node .verification ∧ P.node .implementer then
  P.insert .verification (·=.implementer)
 else P

def Writes : Prop :=
 (kindOf k).role=some .implementer

instance : DecidablePred Writes :=
 fun k=>inferInstanceAs (Decidable ((kindOf k).role=some .implementer))

def deliveryPlan : DeliveryMode → Plan
 | .analysisOnly | .runbook => P.remove fun k=>P.node k ∧ Writes k
 | .mitigationPatch =>
   P.attach .acceptance .rollbackEvidence fun b=>
    (b=.recoveryVerification ∨ b=.verification) ∧ P.node b
 | _ => P

def Investigates : Prop :=
 (kindOf k).role=some .investigator

instance : DecidablePred Investigates :=
 fun k=>inferInstanceAs (Decidable ((kindOf k).role=some .investigator))

def soleInvestigator : Plan :=
 (P.remove fun k=>P.node k ∧ Investigates k ∧ k≠.investigator).insert .investigator
  (·=.analyst)

def fastPlan : Plan :=
 (soleInvestigator (fastRemovals.foldl DependencyGraph.drop P)).redirect .implementer
  (·=.investigator)

open Classical in
noncomputable def budgetPlan : ExecutionBudget → Plan
 | .fast => fastPlan P
 | .standard => P
 | .thorough =>
   if P.node .planner ∧ ¬ P.node .planCritic then P.insert .planCritic (·=.planner) else P

def loadPlan : Plan :=
 nodes.foldl (fun P n=>P.insert n.id (·∈n.dependsOn)) P

def intentPlan (primary:PrimaryIntent) (secondary:List PrimaryIntent) : Plan :=
 secondary.foldl (fun P intent=>loadPlan P (secondaryNodes intent))
  (planOfNodes (loadFragment primary))

noncomputable def composedPlan (composition:RunComposition) (adapter:ProjectAdapter) : Plan :=
 let P:=intentPlan composition.primaryIntent composition.secondaryIntents
 let P:=composition.overlays.foldl overlayPlan P
 let P:=packPlan P composition.verificationPacks adapter
 let P:=deliveryPlan P composition.deliveryMode
 budgetPlan P composition.executionBudget

lemma loadPlan_node : (loadPlan P nodes).node k ↔ P.node k ∨ (planOfNodes nodes).node k := by
 induction nodes generalizing P with
 | nil => simp [loadPlan,planOfNodes]
 | cons n nodes ih =>
   change (loadPlan (P.insert n.id (·∈n.dependsOn)) nodes).node k ↔ _
   rw [ih]
   simp only [DependencyGraph.insert,planOfNodes,mem_cons,exists_eq_or_imp]
   rw [or_assoc,eq_comm]

lemma loadPlan_edge (a b:NodeKey) :
  (loadPlan P nodes).edge a b ↔ P.edge a b ∨ (planOfNodes nodes).edge a b := by
 induction nodes generalizing P with
 | nil => simp [loadPlan,planOfNodes]
 | cons n nodes ih =>
   change (loadPlan (P.insert n.id (·∈n.dependsOn)) nodes).edge a b ↔ _
   rw [ih]
   simp only [DependencyGraph.insert,planOfNodes,mem_cons,exists_eq_or_imp]
   rw [or_assoc,eq_comm]

def Loadable : List NodeKey → List ProfileNode → Prop
 | _, [] => True
 | present, n::nodes =>
   Standard n ∧ (∀d∈n.invalidates,d∈present) ∧ Loadable (n.id::present) nodes

instance decidableLoadable : (present:List NodeKey) → (nodes:List ProfileNode) →
  Decidable (Loadable present nodes)
 | _, [] => .isTrue trivial
 | present, n::nodes =>
   have := decidableLoadable (n.id::present) nodes
   inferInstanceAs (Decidable (_ ∧ _ ∧ _))

lemma fragment_loadable : Loadable [] (loadFragment intent) := by
 cases intent <;> decide

lemma secondary_loadable : Loadable [] (secondaryNodes intent) := by
 cases intent <;> decide

structure Realizes (graph:GraphState) (P:Plan) : Prop where
 wellFormed : WellFormed graph
 plan_eq : plan graph=P

lemma Realizes.loadNodes {graph:GraphState} {P:Plan} (h:Realizes graph P)
  {present:List NodeKey} (hpresent:∀k∈present,P.node k) {nodes:List ProfileNode}
  (hnodes:Loadable present nodes) (provenance:NodeProvenance) :
  Realizes (loadNodes graph nodes provenance) (loadPlan P nodes) := by
 induction nodes generalizing graph P present with
 | nil => exact h
 | cons n nodes ih =>
   obtain ⟨hwf,rfl⟩:=h
   obtain ⟨hn,href,hrest⟩:=hnodes
   have hadded:Realizes (addNode graph n provenance)
     ((plan graph).insert n.id (·∈n.dependsOn)) :=
    ⟨hwf.addNode hn provenance fun d hd=>hpresent d (href d hd),
     plan_addNode provenance hwf⟩
   refine ih hadded (fun k hk=>?_) hrest
   rcases mem_cons.mp hk with rfl | hk
   · exact .inr rfl
   · exact .inl (hpresent k hk)

lemma realizes_fragment :
  Realizes (loadNodes emptyGraph (loadFragment intent) (.intent intent))
   (planOfNodes (loadFragment intent)) := by
 have hempty:Realizes emptyGraph (plan emptyGraph):=⟨wellFormed_empty,rfl⟩
 obtain ⟨hwf,hplan⟩:=hempty.loadNodes (by simp) (fragment_loadable intent) (.intent intent)
 refine ⟨hwf,hplan.trans ?_⟩
 ext a b
 · rw [loadPlan_node]
   simp [plan,planOfNodes,emptyGraph]
 · rw [loadPlan_edge]
   simp [plan,planOfNodes,emptyGraph]

lemma realizes_intents (primary:PrimaryIntent) (secondary:List PrimaryIntent) :
  Realizes (secondary.foldl (fun graph secondary=>
    loadNodes graph (secondaryNodes secondary) (.secondary secondary))
    (loadNodes emptyGraph (loadFragment primary) (.intent primary)))
   (intentPlan primary secondary) := by
 have hfragment:=realizes_fragment primary
 unfold intentPlan
 generalize loadNodes emptyGraph (loadFragment primary) (.intent primary)=graph at hfragment ⊢
 generalize planOfNodes (loadFragment primary)=P at hfragment ⊢
 induction secondary generalizing graph P with
 | nil => exact hfragment
 | cons intent secondary ih =>
   exact ih _ _ (hfragment.loadNodes (by simp) (secondary_loadable intent) (.secondary intent))

section Refinement

variable {graph graph':GraphState} {P:Plan}

section

variable (h:Realizes graph P)
include h

lemma Realizes.same_nodes (hnodes:graph'.nodes=graph.nodes)
  (hprovenance:graph'.provenance=graph.provenance) : Realizes graph' P := by
 obtain ⟨hwf,rfl⟩:=h
 have hplan:plan graph'=plan graph:=congrArg planOfNodes hnodes
 refine ⟨⟨?_,?_,?_,?_,?_⟩,hplan⟩
 · rw [hnodes]
   exact hwf.ids
 · rw [hnodes]
   exact hwf.standard
 · rw [hnodes,hplan]
   exact hwf.references
 · rw [hprovenance,hplan]
   exact hwf.recorded
 · rw [hprovenance]
   exact hwf.recordedOnce

lemma Realizes.forbid (actions:List String) : Realizes (forbid graph actions) P :=
 h.same_nodes rfl rfl

lemma Realizes.deferSpecConsistency : Realizes (deferSpecConsistency graph) P := by
 unfold ProfileCompiler.deferSpecConsistency
 split
 · exact h
 · exact h.same_nodes rfl rfl

lemma Realizes.add {n:ProfileNode} (provenance:NodeProvenance) (hn:Standard n)
  (hinv:n.invalidates=[]) {deps:NodeKey → Prop}
  (hdeps:∀b,b∈n.dependsOn ↔ deps b) :
  Realizes (addNode graph n provenance) (P.insert n.id deps) := by
 obtain ⟨hwf,rfl⟩:=h
 refine ⟨hwf.addNode hn provenance (by simp [hinv]),?_⟩
 simp only [plan_addNode provenance hwf,hdeps]

lemma Realizes.attach {n:ProfileNode} (provenance:NodeProvenance) (hn:Standard n)
  (hinv:n.invalidates=[]) (hne:n.id≠.acceptance) {fallback:NodeKey → Prop}
  (hfall:∀b,b∈n.dependsOn ↔ fallback b) :
  Realizes (attachBeforeAcceptance graph n provenance)
   (P.attach .acceptance n.id fallback) := by
 obtain ⟨hwf,rfl⟩:=h
 obtain ⟨hwf',hplan⟩:=hwf.attach hn hinv hne provenance
 refine ⟨hwf',hplan.trans ?_⟩
 simp only [hfall]

end 

lemma drop_of_node {k:NodeKey} (hk:P.node k) : P.drop k=P.remove (·=k) := by
 simp [DependencyGraph.drop,hk]

lemma drop_of_not_node {k:NodeKey} (hk:¬ P.node k) : P.drop k=P := by
 ext a b <;> simp [DependencyGraph.drop,DependencyGraph.remove,hk]

section

variable (h:Realizes graph P)
include h

lemma Realizes.removeIfPresent : Realizes (removeIfPresent graph k) (P.drop k) := by
 obtain ⟨hwf,rfl⟩:=h
 unfold ProfileCompiler.removeIfPresent
 split
 · rename_i hk
   rw [drop_of_node ((nodeById_isSome _).mp hk)]
   exact ⟨hwf.removeNode k,plan_removeNode graph k⟩
 · rename_i hk
   rw [drop_of_not_node fun hnode=>hk ((nodeById_isSome _).mpr hnode)]
   exact ⟨hwf,rfl⟩

lemma Realizes.skipOperation {operation:ControllerOperation} {key:NodeKey}
  (hkey:∀k,(kindOf k).operation=some operation ↔ k=key) :
  Realizes (skipOperation graph operation) (P.drop key) := by
 obtain ⟨hwf,rfl⟩:=h
 have hoperation:∀n∈graph.nodes,n.operation=some operation ↔ n.id=key := by
  intro n hn
  rw [← hkey n.id,← (hwf.standard n hn).kind]
 unfold ProfileCompiler.skipOperation
 cases hfound : graph.nodes.find? (·.operation=some operation) with
 | some found =>
   have hmem:=mem_of_find?_eq_some hfound
   have hid:found.id=key := by
    have hop:=find?_some hfound
    exact (hoperation found hmem).mp (by simpa using hop)
   have hnode:(plan graph).node key:=⟨found,hmem,hid⟩
   have hremoved:Realizes (removeNode graph found.id) ((plan graph).drop key) := by
    rw [drop_of_node hnode,← hid]
    exact ⟨hwf.removeNode _,plan_removeNode graph _⟩
   exact hremoved.same_nodes rfl rfl
 | none =>
   rw [drop_of_not_node]
   · exact ⟨hwf,rfl⟩
   · rintro ⟨n,hn,hid⟩
     have hnone:=find?_eq_none.mp hfound n hn
     exact hnone (by simpa using (hoperation n hn).mpr hid)

lemma Realizes.applyOverlay (overlay:RiskOverlay) :
  Realizes (applyOverlay graph overlay) (overlayPlan P overlay) := by
 cases overlay with
 | securitySensitive | crossCutting =>
   exact h.attach _ (by decide) rfl (by decide) (by simp [agentNode,gateFallback])
 | authentication | uiVisible | externalContract => exact h
 | publicApi =>
   refine .attach (h.add _ (by decide) rfl ?_) _ (by decide) rfl (by decide) ?_
   · simp [agentNode,auxDeps]
   · simp [agentNode,gateFallback]
 | dataMutation | migration | productionImpact =>
   exact h.attach _ (by decide) rfl (by decide) (by simp [controllerNode,gateFallback])
 | concurrency =>
   refine h.add _ ⟨rfl,fun hne=>absurd rfl hne, fun hne=>absurd rfl hne⟩ rfl fun b=>?_
   have hnode:=@nodeById_isSome graph .reproductionInvestigator
   rw [h.plan_eq] at hnode
   by_cases hrepr : P.node .reproductionInvestigator
   · simp [agentNode,auxDeps,hnode,hrepr]
   · simp [agentNode,auxDeps,hnode,hrepr]
 | destructive => exact h.forbid _
 | noTests => exact h.add _ (by decide) rfl (by simp [controllerNode,auxDeps])
 | emergency =>
   exact ((h.skipOperation specConsistency_key).skipOperation equivalence_key).deferSpecConsistency
 | generatedCode => exact h.add _ (by decide) rfl (by simp [agentNode,auxDeps])

lemma Realizes.node_iff : graph.nodeById k≠none ↔ P.node k := by
 rw [ne_eq,nodeById_eq_none,not_not,h.plan_eq]

lemma Realizes.attachPackNodes :
  Realizes (attachPackNodes graph packs adapter) (packPlan P packs adapter) := by
 unfold ProfileCompiler.attachPackNodes packPlan Resolves
 split
 · rename_i hnone
   rw [if_neg]
   · exact h
   · rintro ⟨⟨id,hid,hkey⟩,-⟩
     have := filter_eq_nil_iff.mp hnone id hid
     exact this (decide_eq_true hkey)
 · rename_i first rest hsome
   have hfirst:first∈packs.filter fun id=>id.text∈adapter.packs.getD [] := by
    rw [hsome]
    exact mem_cons_self
   obtain ⟨hmem,hkey⟩:=mem_filter.mp hfirst
   have hresolves:∃id∈packs,id.text∈adapter.packs.getD [] :=
    ⟨first,hmem,of_decide_eq_true hkey⟩
   have hcondition:(graph.nodeById .verification=none ∧ graph.nodeById .implementer≠none) ↔
     (∃id∈packs,id.text∈adapter.packs.getD []) ∧ ¬ P.node .verification ∧
      P.node .implementer := by
    rw [← h.node_iff,← h.node_iff,not_not,and_iff_right hresolves]
   split
   · rename_i hadd
     rw [if_pos (hcondition.mp hadd)]
     exact h.add _ (by decide) rfl (by simp [controllerNode])
   · rename_i hkeep
     rw [if_neg fun hadd=>hkeep (hcondition.mpr hadd)]
     exact h

end 

lemma writes_iff_write :
  ((kindOf k).role=some .implementer ∨ (kindOf k).concurrencyGroup=some .write) ↔
    Writes k := by
 cases k <;> decide

lemma Realizes.removeWhere (h:Realizes graph P) (unwanted:ProfileNode → Bool)
  (gone:NodeKey → Prop) (hgone:∀n∈graph.nodes,unwanted n=true ↔ gone n.id) :
  Realizes (removeWhere graph unwanted) (P.remove fun k=>P.node k ∧ gone k) := by
 obtain ⟨hwf,rfl⟩:=h
 obtain ⟨hwf',hplan⟩:=hwf.removeWhere hgone
 exact ⟨hwf',hplan⟩

lemma Realizes.applyDelivery (h:Realizes graph P) (mode:DeliveryMode) :
  Realizes (applyDelivery graph mode) (deliveryPlan P mode) := by
 have hkind:∀n∈graph.nodes,(kindOf n.id).role=n.role ∧
   (kindOf n.id).concurrencyGroup=n.concurrencyGroup := by
  intro n hn
  rw [← (h.wellFormed.standard n hn).kind]
  exact ⟨rfl,rfl⟩
 cases mode with
 | analysisOnly =>
   refine (h.removeWhere _ Writes fun n hn=>?_).forbid _
   rw [decide_eq_true_eq,← (hkind n hn).1,← (hkind n hn).2]
   exact writes_iff_write n.id
 | specArtifact => exact h.forbid _
 | integrationBranch | patch | pullRequestReady | migrationSeries | applyToWorktree => exact h
 | mitigationPatch =>
   have hready:=(h.forbid ["apply-to-user-tree"]).deferSpecConsistency
   refine hready.attach _ ⟨rfl,fun _=>rfl, fun hne=>absurd rfl hne⟩ rfl ?_ fun b=>?_
   · simp [controllerNode]
   · simp only [controllerNode,mem_filter,nodeById_isSome,hready.plan_eq,mem_cons,
      not_mem_nil,or_false]
 | runbook =>
   refine (h.removeWhere _ Writes fun n hn=>?_).forbid _
   rw [decide_eq_true_eq,← (hkind n hn).1]
   rfl

end Refinement

section Budget

variable {graph:GraphState} {P:Plan}

lemma Realizes.redirect (h:Realizes graph P) (k:NodeKey) (deps:List NodeKey) :
  Realizes { graph with
    nodes:=modifyNode k (fun node=>{ node with dependsOn:=deps }) graph.nodes }
   (P.redirect k (·∈deps)) := by
 obtain ⟨hwf,rfl⟩:=h
 let change (n:ProfileNode) : ProfileNode:=if n.id=k then { n with dependsOn:=deps } else n
 have hchange:∀n,(change n).id=n.id ∧ (change n).invalidates=n.invalidates ∧
   (Standard n → Standard (change n)) := by
  intro n
  simp only [change]
  split
  · exact ⟨rfl,rfl,fun hn=>⟨hn.kind,hn.condition,hn.invalidating⟩⟩
  · exact ⟨rfl,rfl,fun hn=>hn⟩
 simp only [modifyNode_eq_map _ _ hwf.ids]
 obtain ⟨hwf',hnode⟩:=hwf.rewire (fun n=>(hchange n).1)
  (fun n hn=>(hchange n).2.2 (hwf.standard n hn))
  (fun n hn d hd=>hwf.references n hn d ((hchange n).2.1 ▸ hd))
 refine ⟨hwf',?_⟩
 ext a b
 · rw [hnode]
   rfl
 · change (planOfNodes (graph.nodes.map change)).edge a b ↔ _
   rw [planOfNodes_map_edge _ fun n=>(hchange n).1]
   simp only [change,DependencyGraph.redirect,plan,planOfNodes]
   constructor
   · rintro ⟨n,hn,rfl,hb⟩
     split at hb
     · rename_i hk
       exact .inr ⟨hk,⟨n,hn,hk⟩,hb⟩
     · rename_i hk
       exact .inl ⟨hk,n,hn,rfl,hb⟩
   · rintro (⟨hne,n,hn,rfl,hb⟩ | ⟨rfl,⟨n,hn,rfl⟩,hb⟩)
     · exact ⟨n,hn,rfl,by rwa [if_neg hne]⟩
     · exact ⟨n,hn,rfl,by rwa [if_pos rfl]⟩

lemma fastSource_some {source:ProfileNode} (h:WellFormed graph)
  (hsrc:fastSource graph=some source) :
  source∈graph.nodes ∧ source.role=some .investigator := by
 have hrole:∀{k n},Investigates k → graph.nodeById k=some n →
   n∈graph.nodes ∧ n.role=some .investigator := by
  intro k n hk hn
  obtain ⟨hmem,rfl⟩:=nodeById_some hn
  exact ⟨hmem,(congrArg NodeKind.role (h.standard n hmem).kind).trans hk⟩
 unfold fastSource at hsrc
 rw [Option.or_eq_some_iff,Option.or_eq_some_iff] at hsrc
 rcases hsrc with (hcode | ⟨-,hsole⟩) | ⟨-,hany⟩
 · exact hrole (by decide) hcode
 · exact hrole (by decide) hsole
 · have hfound:=find?_some hany
   exact ⟨mem_of_find?_eq_some hany,by simpa using hfound⟩

lemma soleInvestigator_eq {gone:NodeKey → Prop}
  (hgone:∀k,gone k → P.node k ∧ Investigates k ∧ k≠.investigator) :
  let Q:=(P.remove gone).insert .investigator (·=.analyst)
  (Q.remove fun k=>Q.node k ∧ Investigates k ∧ k≠.investigator)=soleInvestigator P := by
 have hkept:∀k,(¬ gone k ∧ ¬ (((P.node k ∧ ¬ gone k) ∨ k=.investigator) ∧ Investigates k ∧
   k≠.investigator)) ↔ ¬ (P.node k ∧ Investigates k ∧ k≠.investigator) := by
  intro k
  have := hgone k
  tauto
 have hanalyst:¬ Investigates .analyst := by decide
 ext a b
 · simp only [soleInvestigator,DependencyGraph.remove,DependencyGraph.insert]
   have := hkept a
   tauto
 · have ha:=hkept a
   have hb:=hkept b
   constructor
   · rintro ⟨⟨hedge,hga,hgb⟩ | hnew,ha',hb'⟩
     · exact .inl ⟨hedge,ha.mp ⟨hga,ha'⟩,hb.mp ⟨hgb,hb'⟩⟩
     · exact .inr hnew
   · rintro (⟨hedge,ha',hb'⟩ | ⟨rfl,rfl⟩)
     · obtain ⟨hga,ha'⟩:=ha.mpr ha'
       obtain ⟨hgb,hb'⟩:=hb.mpr hb'
       exact ⟨.inl ⟨hedge,hga,hgb⟩,ha',hb'⟩
     · exact ⟨.inr ⟨rfl,rfl⟩,fun hk=>hk.2.2 rfl, fun hk=>hanalyst hk.2.1⟩

lemma Realizes.keepInvestigator (h:Realizes graph P) (hanalyst:P.node .analyst)
  (hnone:¬ P.node .investigator) :
  ∃gone : NodeKey → Prop,(∀k,gone k → P.node k ∧ Investigates k ∧ k≠.investigator) ∧
    Realizes (keepInvestigator graph)
     ((P.remove gone).insert .investigator (·=.analyst)) := by
 unfold ProfileCompiler.keepInvestigator
 cases hsrc : fastSource graph with
 | some source =>
   obtain ⟨hmem,hrole⟩:=fastSource_some h.wellFormed hsrc
   have hstd:=h.wellFormed.standard source hmem
   have hinvestigates:Investigates source.id :=
    (congrArg NodeKind.role hstd.kind).symm.trans hrole
   have hnode:P.node source.id:=h.plan_eq ▸ ⟨source,hmem,rfl⟩
   have hne:source.id≠.investigator:=fun heq=>hnone (heq ▸ hnode)
   have hinv:source.invalidates=[] := by
    by_contra hsome
    have hrepair:=hstd.invalidating hsome
    rw [hrepair] at hinvestigates
    exact absurd hinvestigates (by decide)
   simp only [if_pos hne]
   refine ⟨(·=source.id),?_,?_⟩
   · rintro k rfl
     exact ⟨hnode,hinvestigates,hne⟩
   · have hremoved:Realizes (removeNode graph source.id) (P.remove (·=source.id)) :=
      ⟨h.wellFormed.removeNode _,h.plan_eq ▸ plan_removeNode graph _⟩
     refine hremoved.add (n := { source with id:=.investigator, dependsOn:=[.analyst] }) _
      ⟨?_,fun hne'=>absurd hrole hne', fun hne'=>?_⟩ hinv
      fun b=>mem_singleton
     · exact hstd.kind.trans (investigator_kind hinvestigates)
     · exact absurd hinv hne'
 | none =>
   have hadd:graph.nodeById .investigator=none ∧ graph.nodeById .analyst≠none :=
    ⟨not_not.mp fun hne=>hnone ((h.node_iff _).mp hne), (h.node_iff _).mpr hanalyst⟩
   simp only [if_pos hadd]
   refine ⟨fun _=>False, by simp,?_⟩
   have hkept:P.remove (fun _=>False)=P := by
    ext a b <;> simp [DependencyGraph.remove]
   rw [hkept]
   exact h.add _ (by decide) rfl (by simp [agentNode])

lemma drop_node {k:NodeKey} (l:NodeKey) : (P.drop l).node k ↔ P.node k ∧ k≠l := by
 constructor
 · rintro ⟨hk,hne⟩
   exact ⟨hk,fun heq=>hne ⟨heq,heq ▸ hk⟩⟩
 · rintro ⟨hk,hne⟩
   exact ⟨hk,fun hgone=>hne hgone.1⟩

lemma foldl_drop_node (ids:List NodeKey) (k:NodeKey) :
  (ids.foldl DependencyGraph.drop P).node k ↔ P.node k ∧ k ∉ ids := by
 induction ids generalizing P with
 | nil => simp
 | cons id ids ih => rw [foldl_cons,ih,drop_node,and_assoc,mem_cons,not_or]

lemma Realizes.applyBudget (h:Realizes graph P) (hanalyst:P.node .analyst)
  (hnone:¬ P.node .investigator) (budget:ExecutionBudget) :
  Realizes (applyBudget graph budget) (budgetPlan P budget) := by
 cases budget with
 | fast =>
   have hdrop:=List.foldl_rel (l:=fastRemovals) h fun id _ _ _ hr=>hr.removeIfPresent id
   obtain ⟨gone,hgone,hkept⟩:=hdrop.keepInvestigator
    ((foldl_drop_node _ _).mpr ⟨hanalyst,by decide⟩)
    (fun hnode=>hnone ((foldl_drop_node _ _).mp hnode).1)
   have hsole:=hkept.removeWhere
    (fun node=>node.role=some .investigator ∧ node.id≠.investigator)
    (fun k=>Investigates k ∧ k≠.investigator) fun n hn=>by
     have hrole:n.role=(kindOf n.id).role :=
      congrArg NodeKind.role (hkept.wellFormed.standard n hn).kind
     rw [decide_eq_true_eq,hrole]
     rfl
   rw [soleInvestigator_eq hgone] at hsole
   have hredirect:=hsole.redirect .implementer [.investigator]
   simp only [mem_singleton] at hredirect
   exact hredirect
 | standard => exact h
 | thorough =>
   unfold ProfileCompiler.applyBudget budgetPlan
   have hcondition:(graph.nodeById .planner≠none ∧ graph.nodeById .planCritic=none) ↔
     P.node .planner ∧ ¬ P.node .planCritic := by
    rw [h.node_iff,← h.node_iff .planCritic,not_not]
   simp only
   split
   · rename_i hadd
     rw [if_pos (hcondition.mp hadd)]
     exact h.add _ (by decide) rfl (by simp [agentNode])
   · rename_i hkeep
     rw [if_neg fun hadd=>hkeep (hcondition.mpr hadd)]
     exact h

end Budget

end EpistemicCompiler.ProfileStages
