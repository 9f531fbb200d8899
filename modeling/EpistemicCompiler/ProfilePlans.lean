import Mathlib.Data.List.Nodup
import EpistemicCompiler.DependencyGraphs
import EpistemicCompiler.ProfileCompiler

set_option autoImplicit false

/-!
# The plan of a compiled graph

A plan forgets the order of nodes and dependencies and keeps who is there and who depends on whom.
Every stage of the compiler keeps graphs well formed, and acts on their plans as an operation of
dependency graphs.
-/
namespace EpistemicCompiler.ProfilePlans
open ProfileCatalog ProfileComposition ProfileCompiler DependencyGraphs List

variable {graph:GraphState}

variable {change:ProfileNode → ProfileNode} (nodes:List ProfileNode) {n:ProfileNode}
 (id:NodeKey)

abbrev Plan := DependencyGraph NodeKey

def planOfNodes : Plan where
 node k := ∃n∈nodes,n.id=k
 edge a b := ∃n∈nodes,n.id=a ∧ b∈n.dependsOn
 edge_node := fun ⟨n,hn,hid,_⟩=>⟨n,hn,hid⟩

abbrev fragmentPlan (intent:PrimaryIntent) : Plan := planOfNodes (loadFragment intent)

def plan (graph:GraphState) : Plan :=
 planOfNodes graph.nodes

structure NodeKind where
 role : Option AgentRole
 operation : Option ControllerOperation
 concurrencyGroup : Option ConcurrencyGroup
 deriving DecidableEq

def NodeKind.agent (role:AgentRole) (group:ConcurrencyGroup) : NodeKind :=
 ⟨some role,none,some group⟩

def NodeKind.controller (operation:ControllerOperation) : NodeKind :=
 ⟨none,some operation,none⟩

def kindOf : NodeKey → NodeKind
 | .analyst => .agent .analyst .read
 | .codeInvestigator | .specInvestigator | .reproductionInvestigator | .rootCauseInvestigator
 | .secondHypothesis | .investigator | .historyInvestigator | .externalInvestigator
 | .behaviorInvestigator | .constraintInvestigator | .dependencyInvestigator
 | .blastRadiusInvestigator | .inventoryInvestigator | .phaseInvestigator
 | .confirmationInvestigator | .similarPatternInvestigator | .impactInvestigator
 | .consumerInvestigator | .docsInvestigator | .toolingInvestigator | .architectureInvestigator
 | .generatorInvestigator => .agent .investigator .read
 | .planner => .agent .planner .read
 | .implementer | .repairImplementer | .specAuthor => .agent .implementer .write
 | .reviewer | .freshReviewer => .agent .reviewer .review
 | .planCritic | .architectureReviewer => .agent .architectureReviewer .review
 | .securityReviewer => .agent .securityReviewer .review
 | .testReviewer => .agent .testReviewer .review
 | .specReviewer => .agent .specReviewer .review
 | .performanceReviewer => .agent .performanceReviewer .review
 | .contradictionFinder => .agent .conflictResolver .review
 | .synthesizer | .postmortemSynthesizer => .agent .finalSynthesizer .review
 | .integration => .controller .deterministicIntegration
 | .verification => .controller .verification
 | .regressionVerification | .recoveryVerification => .controller .regressionVerification
 | .specConsistency => .controller .specConsistency
 | .acceptance => .controller .acceptance
 | .evidenceCompleteness => .controller .evidenceCompleteness
 | .consistencyGate => .controller .consistencyGate
 | .characterization => .controller .baselineCharacterization
 | .equivalence => .controller .behavioralEquivalence
 | .migrationDryRun => .controller .migrationDryRun
 | .rollbackEvidence => .controller .rollbackEvidence

def whenOf : NodeKey → Option String
 | .repairImplementer | .freshReviewer => some "HAS_BLOCKING_FINDINGS"
 | _ => none

/-- A node has the attributes of its key; only the repair of findings invalidates anything. -/
structure Standard (n:ProfileNode) : Prop where
 kind : ⟨n.role,n.operation,n.concurrencyGroup⟩=kindOf n.id
 condition : n.role≠some .investigator → n.when=whenOf n.id
 invalidating : n.invalidates≠[] → n.id=.repairImplementer

instance (n:ProfileNode) : Decidable (Standard n) :=
 decidable_of_iff
  (⟨n.role,n.operation,n.concurrencyGroup⟩=kindOf n.id ∧
    (n.role≠some .investigator → n.when=whenOf n.id) ∧
    (n.invalidates≠[] → n.id=.repairImplementer))
  ⟨fun h=>⟨h.1,h.2.1,h.2.2⟩, fun h=>⟨h.kind,h.condition,h.invalidating⟩⟩

lemma investigator_kind {k:NodeKey} (h:(kindOf k).role=some .investigator) :
  kindOf k=kindOf .investigator := by
 revert h
 cases k <;> decide

lemma specConsistency_key (k:NodeKey) :
  (kindOf k).operation=some .specConsistency ↔ k=.specConsistency := by
 cases k <;> decide

lemma equivalence_key (k:NodeKey) :
  (kindOf k).operation=some .behavioralEquivalence ↔ k=.equivalence := by
 cases k <;> decide

lemma mem_unique {α:Type} [DecidableEq α] {items:List α} {a:α} :
  a∈unique items ↔ a∈items :=
 mem_eraseDups

lemma nodeById_some {k:NodeKey} (h:graph.nodeById k=some n) :
  n∈graph.nodes ∧ n.id=k := by
 have hid:=find?_some h
 exact ⟨mem_of_find?_eq_some h,by simpa using hid⟩

lemma nodeById_isSome (k:NodeKey) :
  (graph.nodeById k).isSome=true ↔ (plan graph).node k := by
 simp [GraphState.nodeById,plan,planOfNodes,find?_isSome]

lemma nodeById_eq_none (k:NodeKey) :
  graph.nodeById k=none ↔ ¬ (plan graph).node k := by
 rw [← nodeById_isSome,Bool.not_eq_true,Option.isSome_eq_false_iff,Option.isNone_iff_eq_none]

lemma modifyNode_eq_map (change:ProfileNode → ProfileNode) {nodes:List ProfileNode}
  (hids:(nodes.map (·.id)).Nodup) :
  modifyNode id change nodes=nodes.map fun n=>if n.id=id then change n else n := by
 induction nodes with
 | nil => rfl
 | cons n nodes ih =>
   rw [map_cons,nodup_cons] at hids
   unfold modifyNode
   rw [map_cons]
   split
   · rename_i hid
     congr 1
     conv_lhs => rw [← map_id nodes]
     refine map_congr_left fun m hm=>?_
     have hne:m.id≠id:=fun h=>hids.1 (hid.trans h.symm ▸ mem_map_of_mem hm)
     rw [if_neg hne]
     rfl
   · rw [ih hids.2]

lemma planOfNodes_map_node (hid:∀n,(change n).id=n.id) (k:NodeKey) :
  (planOfNodes (nodes.map change)).node k ↔ (planOfNodes nodes).node k := by
 simp [planOfNodes,hid]

lemma planOfNodes_map_edge (hid:∀n,(change n).id=n.id) (a b:NodeKey) :
  (planOfNodes (nodes.map change)).edge a b ↔
   ∃n∈nodes,n.id=a ∧ b∈(change n).dependsOn := by
 simp [planOfNodes,hid]

lemma mergeNode_id (n x:ProfileNode) :
  (if x.id=n.id then mergeNode n x else x).id=x.id := by
 split <;> rfl

section

structure WellFormed (graph:GraphState) : Prop where
 ids : (graph.nodes.map (·.id)).Nodup
 standard : ∀n∈graph.nodes,Standard n
 references : ∀n∈graph.nodes,∀d∈n.invalidates,(plan graph).node d
 recorded : ∀k,k∈graph.provenance.map (·.1) ↔ (plan graph).node k
 recordedOnce : (graph.provenance.map (·.1)).Nodup

lemma wellFormed_empty : WellFormed emptyGraph := by
 constructor <;> simp [emptyGraph,plan,planOfNodes]

variable (h:WellFormed graph)

include h

lemma WellFormed.rewire (hid:∀n,(change n).id=n.id)
  (hstd:∀n∈graph.nodes,Standard (change n))
  (hinv:∀n∈graph.nodes,∀d∈(change n).invalidates,(plan graph).node d) :
  WellFormed { graph with nodes:=graph.nodes.map change } ∧
   (plan { graph with nodes:=graph.nodes.map change }).node=(plan graph).node := by
 have hnode:(plan { graph with nodes:=graph.nodes.map change }).node=(plan graph).node := by
  funext k
  simp [plan,planOfNodes,hid]
 refine ⟨⟨?_,?_,?_,?_,h.recordedOnce⟩,hnode⟩
 · rw [map_map]
   have heq:(fun n:ProfileNode=>n.id) ∘ change=(·.id):=funext hid
   rw [heq]
   exact h.ids
 · intro m hm
   obtain ⟨n,hn,rfl⟩:=mem_map.mp hm
   exact hstd n hn
 · intro m hm d hd
   obtain ⟨n,hn,rfl⟩:=mem_map.mp hm
   rw [hnode]
   exact hinv n hn d hd
 · rw [hnode]
   exact h.recorded

end

section

variable (h:WellFormed graph) {n:ProfileNode} (hn:Standard n) (provenance:NodeProvenance)

lemma mergeNode_standard {m:ProfileNode} (hm:Standard m) (hn:Standard n)
  (hid:m.id=n.id) : Standard (mergeNode n m) := by
 have hkind:kindOf m.id=kindOf n.id:=congrArg kindOf hid
 have hrole:m.role=n.role := by
  have := hm.kind.trans (hkind.trans hn.kind.symm)
  exact (NodeKind.mk.inj this).1
 refine ⟨hm.kind,fun hne=>?_, fun hne=>?_⟩
 · change m.when.or n.when=whenOf m.id
   rw [hm.condition hne,hn.condition (hrole ▸ hne),hid]
   simp
 · by_contra hother
   have hm':m.invalidates=[]:=not_not.mp fun hne'=>hother (hm.invalidating hne')
   have hn':n.invalidates=[] :=
    not_not.mp fun hne'=>hother (hid.trans (hn.invalidating hne'))
   exact hne (by simp [mergeNode,hm',hn',unique])

lemma plan_addNode (h:WellFormed graph) :
  plan (addNode graph n provenance)=(plan graph).insert n.id (·∈n.dependsOn) := by
 unfold addNode
 cases hfound : graph.nodeById n.id with
 | none =>
   ext a b
   · simp [plan,planOfNodes,DependencyGraph.insert,or_and_right,exists_or,eq_comm]
   · simp [plan,planOfNodes,DependencyGraph.insert,or_and_right,exists_or,eq_comm]
 | some m =>
   obtain ⟨hm,hid⟩:=nodeById_some hfound
   have hdeps:∀x : ProfileNode,∀b,b∈(if x.id=n.id then mergeNode n x else x).dependsOn ↔
       b∈x.dependsOn ∨ (x.id=n.id ∧ b∈n.dependsOn) := by
    intro x b
    split <;> simp_all [mergeNode,mem_unique]
   simp only [plan,modifyNode_eq_map _ _ h.ids]
   ext a b
   · rw [planOfNodes_map_node _ (mergeNode_id n)]
     refine ⟨.inl,?_⟩
     rintro (ha | rfl)
     · exact ha
     · exact ⟨m,hm,hid⟩
   · rw [planOfNodes_map_edge _ (mergeNode_id n)]
     simp only [hdeps,DependencyGraph.insert,and_or_left,exists_or]
     refine or_congr Iff.rfl ⟨?_,?_⟩
     · rintro ⟨x,-,rfl,hx,hb⟩
       exact ⟨hx,hb⟩
     · rintro ⟨rfl,hb⟩
       exact ⟨m,hm,hid,hid,hb⟩

lemma setProvenance_of_not_mem {record:List (NodeKey×NodeProvenance)} {k:NodeKey}
  (hk:k ∉ record.map (·.1)) : setProvenance record k provenance=record++[(k,provenance)] :=
 if_neg hk

include h hn in
lemma WellFormed.addNode (href:∀d∈n.invalidates,(plan graph).node d) :
  WellFormed (addNode graph n provenance) := by
 have hplan:=plan_addNode (n:=n) provenance h
 unfold ProfileCompiler.addNode at hplan ⊢
 cases hfound : graph.nodeById n.id with
 | none =>
   have hnew:¬ (plan graph).node n.id:=(nodeById_eq_none _).mp hfound
   simp only [hfound] at hplan ⊢
   refine ⟨?_,?_,?_,?_,?_⟩
   · rw [map_append,nodup_append]
     refine ⟨h.ids,by simp,?_⟩
     simp only [map_cons,map_nil,mem_map,mem_singleton]
     rintro _ ⟨m,hm,rfl⟩ _ rfl heq
     exact hnew ⟨m,hm,heq⟩
   · intro m hm
     rcases mem_append.mp hm with hm | hm
     · exact h.standard m hm
     · rwa [mem_singleton.mp hm]
   · intro m hm d hd
     rw [hplan]
     rcases mem_append.mp hm with hm | hm
     · exact .inl (h.references m hm d hd)
     · rw [mem_singleton.mp hm] at hd
       exact .inl (href d hd)
   · intro k
     rw [hplan,setProvenance_of_not_mem _ fun hk=>hnew ((h.recorded _).mp hk)]
     simp only [map_append,mem_append,h.recorded,map_cons,map_nil, mem_singleton]
     rfl
   · have hk:n.id ∉ graph.provenance.map (·.1):=fun hk=>hnew ((h.recorded _).mp hk)
     rw [setProvenance_of_not_mem _ hk,map_append,nodup_append]
     refine ⟨h.recordedOnce,by simp,?_⟩
     simp only [map_cons,map_nil,mem_singleton]
     rintro k hmem _ rfl rfl
     exact hk hmem
 | some m =>
   simp only [modifyNode_eq_map _ _ h.ids]
   refine (h.rewire (mergeNode_id n) (fun x hx=>?_) (fun x hx d hd=>?_)).1
   · split
     · rename_i hid
       exact mergeNode_standard (h.standard x hx) hn hid
     · exact h.standard x hx
   · split at hd
     · rw [mergeNode,mem_unique,mem_append] at hd
       rcases hd with hd | hd
       · exact h.references x hx d hd
       · exact href d hd
     · exact h.references x hx d hd

end

section

variable (h:WellFormed graph)

lemma dropReference_id (n:ProfileNode) : (dropReference id n).id=n.id :=
 rfl

lemma plan_removeNode (graph:GraphState) (id:NodeKey) :
  plan (removeNode graph id)=(plan graph).remove (·=id) := by
 ext a b
 · change (planOfNodes ((graph.nodes.filter (·.id≠id)).map (dropReference id))).node a ↔ _
   rw [planOfNodes_map_node _ (dropReference_id id)]
   simp only [plan,planOfNodes,DependencyGraph.remove,mem_filter,decide_eq_true_eq]
   grind
 · change (planOfNodes ((graph.nodes.filter (·.id≠id)).map (dropReference id))).edge a b ↔ _
   rw [planOfNodes_map_edge _ (dropReference_id id)]
   simp only [plan,planOfNodes,DependencyGraph.remove,dropReference,mem_filter, decide_eq_true_eq]
   grind

lemma dropReference_standard (hn:Standard n) (id:NodeKey) :
  Standard (dropReference id n) := by
 refine ⟨hn.kind,hn.condition,fun hne=>hn.invalidating fun hnil=>hne ?_⟩
 simp [dropReference,hnil]

include h in
lemma WellFormed.removeNode : WellFormed (removeNode graph id) := by
 have hplan:=plan_removeNode graph id
 refine ⟨?_,?_,?_,?_,?_⟩
 · change (((graph.nodes.filter (·.id≠id)).map (dropReference id)).map (·.id)).Nodup
   rw [map_map]
   exact h.ids.sublist (filter_sublist.map _)
 · intro m hm
   obtain ⟨n,hn,rfl⟩:=mem_map.mp hm
   exact dropReference_standard (h.standard n (mem_of_mem_filter hn)) id
 · intro m hm d hd
   obtain ⟨n,hn,rfl⟩:=mem_map.mp hm
   obtain ⟨hd,hne⟩:=mem_filter.mp hd
   rw [hplan]
   exact ⟨h.references n (mem_of_mem_filter hn) d hd,of_decide_eq_true hne⟩
 · intro k
   rw [hplan]
   simp only [ProfileCompiler.removeNode,DependencyGraph.remove,← h.recorded,mem_map,
    mem_filter,decide_eq_true_eq]
   grind
 · exact h.recordedOnce.sublist (filter_sublist.map _)

include h in
lemma WellFormed.removeNodes (ids:List NodeKey) :
  WellFormed (ids.foldl ProfileCompiler.removeNode graph) ∧
   plan (ids.foldl ProfileCompiler.removeNode graph)=(plan graph).remove (·∈ids) := by
 induction ids generalizing graph with
 | nil =>
   refine ⟨h,?_⟩
   ext a b <;> simp [DependencyGraph.remove]
 | cons id ids ih =>
   obtain ⟨hrest,hplan⟩:=ih (h.removeNode id)
   refine ⟨hrest,?_⟩
   rw [foldl_cons,hplan,plan_removeNode]
   ext a b <;> simp only [DependencyGraph.remove,mem_cons] <;> tauto

include h in
lemma WellFormed.removeWhere {unwanted:ProfileNode → Bool} {gone:NodeKey → Prop}
  (hgone:∀n∈graph.nodes,unwanted n=true ↔ gone n.id) :
  WellFormed (removeWhere graph unwanted) ∧
   plan (removeWhere graph unwanted) =
    (plan graph).remove fun k=>(plan graph).node k ∧ gone k := by
 obtain ⟨hwf,hplan⟩:=h.removeNodes ((graph.nodes.filter unwanted).map (·.id))
 refine ⟨hwf,?_⟩
 rw [ProfileCompiler.removeWhere,hplan]
 congr 1
 funext k
 simp only [mem_map,mem_filter,eq_iff_iff]
 constructor
 · rintro ⟨n,⟨hn,hu⟩,rfl⟩
   exact ⟨⟨n,hn,rfl⟩,(hgone n hn).mp hu⟩
 · rintro ⟨⟨n,hn,rfl⟩,hg⟩
   exact ⟨n,⟨hn,(hgone n hn).mpr hg⟩,rfl⟩

end

section

variable (h:WellFormed graph) (n:ProfileNode)

include h

lemma WellFormed.mem_attachedNode (b:NodeKey) :
  b∈(attachedNode graph n).dependsOn ↔
    (plan graph).Inherits .acceptance n.id (·∈n.dependsOn) b := by
 unfold attachedNode DependencyGraph.Inherits
 cases hfound : graph.nodeById .acceptance with
 | none =>
   have hnone:∀d,¬ (plan graph).edge .acceptance d:=fun d hd=>
    (nodeById_eq_none _).mp hfound ((plan graph).edge_node hd)
   simp [hnone]
 | some acceptance =>
   obtain ⟨hmem,hid⟩:=nodeById_some hfound
   have hedge:∀d,(plan graph).edge .acceptance d ↔ d∈acceptance.dependsOn := by
    refine fun d=>⟨?_,fun hd=>⟨acceptance,hmem,hid,hd⟩⟩
    rintro ⟨m,hm,hsame,hd⟩
    rwa [← inj_on_of_nodup_map h.ids hm hmem (hsame.trans hid.symm)]
   simp only [hedge]
   split
   · rename_i hlen
     obtain ⟨d,hd⟩:=exists_mem_of_length_pos hlen
     have hsome:¬ ∀d,d ∉ acceptance.dependsOn:=fun hnone=>hnone d hd
     simp [hsome]
   · have hnil:acceptance.dependsOn=[]:=length_eq_zero_iff.mp (by omega)
     simp [hnil]

omit h in
lemma attachedNode_id : (attachedNode graph n).id=n.id := by
 unfold attachedNode
 split
 · split <;> rfl
 · rfl

omit h in
lemma attachedNode_standard (hn:Standard n) : Standard (attachedNode graph n) := by
 unfold attachedNode
 split
 · split
   · exact ⟨hn.kind,hn.condition,hn.invalidating⟩
   · exact hn
 · exact hn

omit h in
lemma attachedNode_invalidates : (attachedNode graph n).invalidates=n.invalidates := by
 unfold attachedNode
 split
 · split <;> rfl
 · rfl

omit h in
lemma dependOn_cases (x:ProfileNode) : ∃deps,dependOn id x={ x with dependsOn:=deps } ∧
    ∀b,b∈deps ↔ b∈x.dependsOn ∨ b=id := by
 unfold dependOn
 split
 · refine ⟨x.dependsOn,rfl,fun b=>⟨.inl,?_⟩⟩
   rintro (hb | rfl)
   · exact hb
   · assumption
 · exact ⟨_,rfl,fun b=>by simp [mem_unique]⟩

variable {n} in
lemma WellFormed.attach (hn:Standard n) (hinv:n.invalidates=[])
  (hne:n.id≠.acceptance) (provenance:NodeProvenance) :
  WellFormed (attachBeforeAcceptance graph n provenance) ∧
   plan (attachBeforeAcceptance graph n provenance) =
    (plan graph).attach .acceptance n.id (·∈n.dependsOn) := by
 have hadded:WellFormed (ProfileCompiler.addNode graph (attachedNode graph n) provenance) := by
  refine h.addNode (attachedNode_standard n hn) provenance ?_
  simp [attachedNode_invalidates,hinv]
 have hplan:=plan_addNode (n:=attachedNode graph n) provenance h
 rw [attachedNode_id] at hplan
 unfold attachBeforeAcceptance
 generalize ProfileCompiler.addNode graph (attachedNode graph n) provenance=added
  at hadded hplan ⊢
 let change (x:ProfileNode) : ProfileNode:=if x.id=.acceptance then dependOn n.id x else x
 have hchange:∀x,(change x).id=x.id ∧ (change x).invalidates=x.invalidates ∧
   (Standard x → Standard (change x)) ∧
   ∀b,b∈(change x).dependsOn ↔ b∈x.dependsOn ∨ (x.id=.acceptance ∧ b=n.id) := by
  intro x
  simp only [change]
  split
  · obtain ⟨deps,heq,hmem⟩:=dependOn_cases n.id x
    rw [heq]
    exact ⟨rfl,rfl,fun hx=>⟨hx.kind,hx.condition,hx.invalidating⟩,by simp_all⟩
  · exact ⟨rfl,rfl,id,by simp_all⟩
 have hid:=fun x=>(hchange x).1
 have hdeps:=fun x=>(hchange x).2.2.2
 simp only [modifyNode_eq_map _ _ hadded.ids]
 obtain ⟨hwf,hnode⟩:=hadded.rewire hid (fun x hx=>(hchange x).2.2.1 (hadded.standard x hx))
  fun x hx d hd=>hadded.references x hx d ((hchange x).2.1 ▸ hd)
 refine ⟨hwf,?_⟩
 ext a b
 · rw [hnode,hplan]
   rfl
 · change (planOfNodes (added.nodes.map change)).edge a b ↔ _
   rw [planOfNodes_map_edge _ hid]
   have hsink:(plan added).node .acceptance ↔ (plan graph).node .acceptance := by
    rw [hplan]
    simp [DependencyGraph.insert,hne.symm]
   have hedge:(plan added).edge a b ↔ (plan graph).edge a b ∨
     (a=n.id ∧ (plan graph).Inherits .acceptance n.id (·∈n.dependsOn) b) := by
    rw [hplan,← h.mem_attachedNode]
    rfl
   simp only [hdeps,and_or_left,exists_or]
   change ((plan added).edge a b ∨ _) ↔ _
   rw [hedge]
   change _ ↔ (_ ∨ _ ∨ (_ ∧ (plan graph).node .acceptance ∧ _))
   rw [← hsink,or_assoc]
   refine or_congr Iff.rfl (or_congr Iff.rfl ⟨?_,?_⟩)
   · rintro ⟨x,hx,rfl,hacceptance,rfl⟩
     exact ⟨hacceptance,⟨x,hx,hacceptance⟩,rfl⟩
   · rintro ⟨rfl,⟨x,hx,hacceptance⟩,rfl⟩
     exact ⟨x,hx,hacceptance,hacceptance,rfl⟩

end

end EpistemicCompiler.ProfilePlans
