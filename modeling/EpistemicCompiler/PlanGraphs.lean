import EpistemicCompiler.FallibleRuns
import EpistemicCompiler.Verdicts

set_option autoImplicit false

/-!
# The graphs of a verification plan

A plan is accepted when its references exist and neither its obligations nor its checks depend on
one another in a cycle; the test refuses repeated ids as well. Obligations and checks of an accepted
plan are then sorted with a queue.
-/
namespace EpistemicCompiler.PlanGraphs
open DependencySearch FallibleRuns QueueOrder Verdicts List

structure CheckNode where
 id : String
 obligationIds : List String
 dependencies : List String

inductive PlanErrorCode where
 | missingId
 | cycle

structure PlanError where
 code : PlanErrorCode
 message : String

variable (obligations:List ProofObligation) (checks:List CheckNode)

def requireIds (known:List String) (referrer:String) (ids:List String) :
    Except PlanError Unit :=
 ids.forM fun id=>
  if id∈known then .ok () else .error ⟨.missingId,referrer++id ++ " does not exist"⟩

def assertNoCycle (nodes:Nodes String) (label:String) : Except PlanError Unit :=
 if (visited nodes).length≠nodes.length then
  .error ⟨.cycle,label ++ " graph contains a cycle"⟩
 else .ok ()

def checkNodes : Nodes String := nodesOf (·.id) (·.dependencies) checks

def assertAcyclicPlan : Except PlanError Unit := do
 let obligationIds:=obligations.map (·.id)
 let checkIds:=checks.map (·.id)
 obligations.forM fun obligation=>
  requireIds obligationIds ("obligation "++obligation.id ++ " prerequisite ")
   obligation.prerequisites
 checks.forM fun check=>do
  requireIds obligationIds ("check "++check.id ++ " obligation ") check.obligationIds
  requireIds checkIds ("check "++check.id ++ " dependency ") check.dependencies
 assertNoCycle (obligationNodes obligations) "obligation"
 assertNoCycle (checkNodes checks) "check"

def checkById (id:String) : Option CheckNode := checks.reverse.find? (·.id=id)

def topologicalChecks : List CheckNode :=
 (order (checkNodes checks)).filterMap (checkById checks)

structure Proper : Prop where
 distinctObligations : (obligations.map (·.id)).Nodup
 distinctChecks : (checks.map (·.id)).Nodup
 prerequisites : ∀obligation∈obligations,∀pre∈obligation.prerequisites,
  pre∈obligations.map (·.id)
 checked : ∀check∈checks,∀id∈check.obligationIds,id∈obligations.map (·.id)
 dependencies : ∀check∈checks,∀dep∈check.dependencies,dep∈checks.map (·.id)
 obligationsAcyclic : ¬ Cyclic (needs (obligationNodes obligations))
 checksAcyclic : ¬ Cyclic (needs (checkNodes checks))

variable {obligations checks}

lemma requireIds_iff {known ids:List String} {referrer:String} :
  requireIds known referrer ids=.ok () ↔ ∀id∈ids,id∈known := by
 rw [requireIds,forM_ok_iff]
 refine forall₂_congr fun id _=>?_
 split_ifs with h <;> simp [h]

lemma assertNoCycle_iff {α:Type} {key:α → String} {requirements:α → List String}
  {items:List α} {label:String}
  (h:∀item∈items,∀need∈requirements item,need∈items.map key) :
  assertNoCycle (nodesOf key requirements items) label=.ok () ↔
   (items.map key).Nodup ∧ ¬ Cyclic (needs (nodesOf key requirements items)) := by
 have hiff:=length_visited_iff (listed_nodesOf h)
 rw [ids_nodesOf] at hiff
 rw [← hiff,assertNoCycle]
 split_ifs with hlen
 · exact iff_of_false nofun hlen
 · exact iff_of_true rfl (not_not.mp hlen)

lemma proper_iff : assertAcyclicPlan obligations checks=.ok () ↔ Proper obligations checks := by
 simp only [assertAcyclicPlan,check_bind_ok_iff,forM_ok_iff,requireIds_iff]
 constructor
 · rintro ⟨hneeds,hchecks,hobligation,hcycle⟩
   obtain ⟨hdist,hacyclic⟩:=(assertNoCycle_iff hneeds).mp hobligation
   obtain ⟨hdist',hacyclic'⟩ :=
    (assertNoCycle_iff fun check hcheck=>(hchecks check hcheck).2).mp hcycle
   exact ⟨hdist,hdist',hneeds,fun check hcheck=>(hchecks check hcheck).1,
    fun check hcheck=>(hchecks check hcheck).2,hacyclic,hacyclic'⟩
 · intro h
   exact ⟨h.prerequisites,fun check hcheck=>⟨h.checked check hcheck,h.dependencies check hcheck⟩,
    (assertNoCycle_iff h.prerequisites).mpr ⟨h.distinctObligations,h.obligationsAcyclic⟩,
    (assertNoCycle_iff h.dependencies).mpr ⟨h.distinctChecks,h.checksAcyclic⟩⟩

theorem assertAcyclicPlan_iff :
  (assertAcyclicPlan obligations checks=.ok () ↔ Proper obligations checks) ∧
   (assertAcyclicPlan obligations checks=.ok () →
    Arranged (·.id) (·.prerequisites) obligations (topologicalObligations obligations) ∧
    Arranged (·.id) (·.dependencies) checks (topologicalChecks checks)) := by
 refine ⟨proper_iff,fun hok=>?_⟩
 have h:=proper_iff.mp hok
 exact ⟨arranged h.distinctObligations h.prerequisites h.obligationsAcyclic,
  arranged h.distinctChecks h.dependencies h.checksAcyclic⟩

end EpistemicCompiler.PlanGraphs
