import EpistemicCompiler.FallibleRuns
import EpistemicCompiler.ProfileSteps

set_option autoImplicit false

/-!
# The checks of the compiler and the profile it returns

The cycle check decides whether the dependencies of a graph have a cycle. What the compiler
returns is the plan of the composition without its references to missing nodes.
-/
namespace EpistemicCompiler.ProfileChecks
open ProfileCatalog ProfileComposition ProfileCompiler ProfilePlans ProfileStages ProfileSteps List
 Option
open DependencyGraphs FallibleRuns

section

variable {κ:Type}

def NodeDepends (nodes:List (WorkflowNode κ)) (a b:κ) : Prop :=
 ∃n∈nodes,n.id=a ∧ b∈n.dependsOn

variable [DecidableEq κ] {nodes:List (WorkflowNode κ)}

lemma mem_byId (hids:(nodes.map (·.id)).Nodup) (a b:κ) :
  b∈byId nodes a ↔ NodeDepends nodes a b := by
 unfold byId NodeDepends
 cases hfound : nodes.reverse.find? (·.id=a) with
 | none =>
   have hnone:∀n∈nodes,n.id≠a := by simpa using hfound
   simp only [map_none,getD_none,not_mem_nil,false_iff]
   rintro ⟨n,hn,hid,-⟩
   exact hnone n hn hid
 | some m =>
   have hmem:m∈nodes:=mem_reverse.mp (mem_of_find?_eq_some hfound)
   have hid:m.id=a := by
    have hholds:=find?_some hfound
    simpa using hholds
   constructor
   · intro hb
     exact ⟨m,hmem,hid,hb⟩
   · rintro ⟨n,hn,hna,hb⟩
     rwa [inj_on_of_nodup_map hids hmem hn (hid.trans hna.symm)]

lemma mem_ids_of_byId {a:κ} (h:byId nodes a≠[]) : a∈nodes.map (·.id) := by
 unfold byId at h
 cases hfound : nodes.reverse.find? (·.id=a) with
 | none => exact absurd (by simp [hfound]) h
 | some m =>
   have hholds:=find?_some hfound
   refine mem_map.mpr ⟨m,mem_reverse.mp (mem_of_find?_eq_some hfound),?_⟩
   simpa using hholds

lemma hasCycle_iff (hids:(nodes.map (·.id)).Nodup) :
  hasCycle nodes=true ↔ ∃a,Relation.TransGen (NodeDepends nodes) a a := by
 have hroots:∀a,byId nodes a≠[] → a∈nodes.map (·.id):=fun a=>mem_ids_of_byId
 have hsearch:=DependencySearch.search_eq_none_iff hroots
 rw [length_map] at hsearch
 have hdep:DependencySearch.DependsOn (byId nodes)=NodeDepends nodes := by
  funext a b
  exact propext (mem_byId hids a b)
 unfold hasCycle
 rw [isNone_iff_eq_none,hsearch,DependencySearch.Cyclic,hdep]

end

section

variable {composition:RunComposition} {adapter:ProjectAdapter} {signals:CompileSignals}
 {graph:GraphState} {P:Plan}

lemma realizes_buildGraph :
  Realizes (buildGraph composition adapter) (composedPlan composition adapter) := by
 have hintents:=realizes_intents composition.primaryIntent composition.secondaryIntents
 have hover:=List.foldl_rel (l:=composition.overlays) hintents
  fun overlay _ _ _ hr=>hr.applyOverlay overlay
 have hdelivery:=(hover.attachPackNodes composition.verificationPacks
  adapter).applyDelivery composition.deliveryMode
 have hcore:Core (deliveredPlan composition adapter) :=
  (core_overlaidPlan.pack _ _).delivery _
 exact hdelivery.applyBudget hcore.analyst hcore.unsettled composition.executionBudget

lemma Realizes.dropMissing (h:Realizes graph P) : Realizes (dropMissing graph) P.close := by
 obtain ⟨hwf,rfl⟩:=h
 let change (n:ProfileNode) : ProfileNode :=
  { n with dependsOn:=n.dependsOn.filter fun dep=>(graph.nodeById dep).isSome }
 have hid:∀n,(change n).id=n.id:=fun _=>rfl
 have hstd:∀n∈graph.nodes,Standard (change n):=fun n hn=>
  ⟨(hwf.standard n hn).kind,(hwf.standard n hn).condition,(hwf.standard n hn).invalidating⟩
 obtain ⟨hwf',hnode⟩:=hwf.rewire hid hstd hwf.references
 refine ⟨hwf',?_⟩
 ext a b
 · exact (congrFun hnode a).to_iff
 · change (planOfNodes (graph.nodes.map change)).edge a b ↔ _
   rw [planOfNodes_map_edge _ hid]
   simp only [change,mem_filter,nodeById_isSome,DependencyGraph.close,plan,planOfNodes]
   grind

lemma length_le_maxNodes (h:WellFormed graph) : ¬ graph.nodes.length > maxNodes := by
 have hlen:=length_le_nodeKeys h.ids
 rw [length_map] at hlen
 unfold maxNodes
 omega

lemma hasCycle_buildGraph :
  hasCycle (buildGraph composition adapter).nodes=true ↔
   (composedPlan composition adapter).Cyclic := by
 obtain ⟨hwf,hplan⟩:=@realizes_buildGraph composition adapter
 rw [hasCycle_iff hwf.ids,← hplan]
 rfl

structure Compiled (composition:RunComposition) (adapter:ProjectAdapter)
  (compiled:CompiledProfile) : Prop where
 acyclic : ¬ (composedPlan composition adapter).Cyclic
 nodes : compiled.nodes=(dropMissing (buildGraph composition adapter)).nodes
 provenance : compiled.nodeProvenance=(buildGraph composition adapter).provenance
 forbidden : compiled.forbiddenActions=unique (buildGraph composition adapter).forbiddenActions

lemma compile_error (h:(composedPlan composition adapter).Cyclic) :
  compileRunComposition composition adapter signals=.error .cycle :=
 if_pos (hasCycle_buildGraph.mpr h)

variable (signals) in
lemma compile_ok (h:¬ (composedPlan composition adapter).Cyclic) :
  ∃r,compileRunComposition composition adapter signals=.ok r ∧
    Compiled composition adapter r.compiled := by
 have hcycle:¬ hasCycle (buildGraph composition adapter).nodes=true :=
  fun hcycle=>h (hasCycle_buildGraph.mp hcycle)
 have hlen:=length_le_maxNodes (@realizes_buildGraph composition adapter).wellFormed
 unfold compileRunComposition
 rw [if_neg hcycle,if_neg hlen]
 exact ⟨_,rfl,h,rfl,rfl,rfl⟩

lemma compiled_of_ok {r:CompiledProfileResult}
  (h:compileRunComposition composition adapter signals=.ok r) :
  Compiled composition adapter r.compiled := by
 by_cases hcycle : (composedPlan composition adapter).Cyclic
 · rw [compile_error hcycle] at h
   cases h
 · obtain ⟨r',hr,hcompiled⟩:=compile_ok signals hcycle
   cases hr.symm.trans h
   exact hcompiled

lemma compile_returns_iff :
  (∃r,compileRunComposition composition adapter signals=.ok r) ↔
   ¬ (composedPlan composition adapter).Cyclic := by
 constructor
 · rintro ⟨r,h⟩
   exact (compiled_of_ok h).acyclic
 · intro h
   obtain ⟨r,hr,-⟩:=compile_ok signals h
   exact ⟨r,hr⟩

variable {compiled:CompiledProfile}

lemma Compiled.plan_eq (h:Compiled composition adapter compiled) :
  planOfNodes compiled.nodes=(composedPlan composition adapter).close := by
 rw [h.nodes]
 exact (Realizes.dropMissing (@realizes_buildGraph composition adapter)).plan_eq

lemma Compiled.wellFormed (h:Compiled composition adapter compiled) :
  WellFormed ⟨compiled.nodes,compiled.nodeProvenance,[],[]⟩ := by
 have hclosed:=Realizes.dropMissing (@realizes_buildGraph composition adapter)
 exact (hclosed.same_nodes h.nodes h.provenance).wellFormed

lemma close_edge {a b:NodeKey} (h:P.close.edge a b) : P.edge a b :=
 h.1

lemma Compiled.not_cyclic (h:Compiled composition adapter compiled) :
  ¬ (planOfNodes compiled.nodes).Cyclic := by
 rw [h.plan_eq]
 rintro ⟨a,ha⟩
 exact h.acyclic ⟨a,ha.mono fun _ _=>close_edge⟩

lemma mem_ids_iff {nodes:List ProfileNode} {k:NodeKey} :
  k∈nodes.map (·.id) ↔ (planOfNodes nodes).node k :=
 mem_map

/-- Every compiled graph is well formed, and the cycle check is exact on every graph. -/
theorem compiled_graph_wellFormed {r:CompiledProfileResult}
  (h:compileRunComposition composition adapter signals=.ok r) :
  (r.compiled.nodes.map (·.id)).Nodup ∧
  (∀k,k∈r.compiled.nodeProvenance.map (·.1) ↔ k∈r.compiled.nodes.map (·.id)) ∧
  (r.compiled.nodeProvenance.map (·.1)).Nodup ∧
  (∀n∈r.compiled.nodes,∀d∈n.dependsOn,d∈r.compiled.nodes.map (·.id)) ∧
  (∀n∈r.compiled.nodes,∀d∈n.invalidates,d∈r.compiled.nodes.map (·.id)) ∧
  (¬ ∃k,Relation.TransGen (NodeDepends r.compiled.nodes) k k) ∧
  ∀(κ:Type) [DecidableEq κ] (nodes:List (WorkflowNode κ)),(nodes.map (·.id)).Nodup →
    (hasCycle nodes=true ↔ ∃k,Relation.TransGen (NodeDepends nodes) k k) := by
 have hcompiled:=compiled_of_ok h
 have hwf:=hcompiled.wellFormed
 refine ⟨hwf.ids,fun k=>?_, hwf.recordedOnce,fun n hn d hd=>?_, fun n hn d hd=>?_,
  hcompiled.not_cyclic,fun κ _ nodes hids=>hasCycle_iff hids⟩
 · rw [mem_ids_iff]
   exact hwf.recorded k
 · have hedge:(planOfNodes r.compiled.nodes).edge n.id d:=⟨n,hn,rfl,hd⟩
   rw [hcompiled.plan_eq] at hedge
   rw [mem_ids_iff,hcompiled.plan_eq]
   exact hedge.2
 · rw [mem_ids_iff]
   exact hwf.references n hn d hd

def researchComposition : RunComposition :=
 ⟨.research,[],[],[],.analysisOnly,.normal,.standard,.none,[],none⟩

theorem compiled_graph_wellFormed_research :
  ∃r,compileRunComposition researchComposition ⟨none⟩ ⟨false,false,false⟩=.ok r ∧
    (r.compiled.nodes.map (·.id)).Nodup := by
 have hok:(compileRunComposition researchComposition ⟨none⟩ ⟨false,false,false⟩).isOk =
   true := by decide
 obtain ⟨r,hr⟩:=exists_ok_of_isOk hok
 exact ⟨r,hr,(compiled_graph_wellFormed hr).1⟩

end

end EpistemicCompiler.ProfileChecks
