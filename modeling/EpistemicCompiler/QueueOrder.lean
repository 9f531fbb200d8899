import Mathlib.Algebra.Order.BigOperators.Group.Finset
import Mathlib.Tactic.Linarith
import EpistemicCompiler.DependencySearch

set_option autoImplicit false

/-!
# Ordering a graph with a queue

The usual sort starts with the keys that have no requirements and takes one off the counts of the
dependents of each key in turn. Keys may be listed twice, requirements may name unlisted keys, and
there may be cycles.
-/
namespace EpistemicCompiler.QueueOrder
open Function DependencySearch List

variable {κ:Type} [DecidableEq κ]

abbrev Nodes (κ:Type) := List (κ×List κ)

structure Tables (κ:Type) where
 incoming : κ → ℤ
 edges : κ → List κ

def noteRequirement (key:κ) (tables:Tables κ) (requirement:κ) : Tables κ where
 incoming := update tables.incoming key (tables.incoming key+1)
 edges := update tables.edges requirement (tables.edges requirement++[key])

def noteNode (tables:Tables κ) (node:κ×List κ) : Tables κ :=
 node.2.foldl (noteRequirement node.1) tables

def tablesOf (nodes:Nodes κ) : Tables κ := nodes.foldl noteNode ⟨fun _=>0, fun _=>[]⟩

structure Queue (κ:Type) where
 incoming : κ → ℤ
 ready : List κ
 ordered : List κ

def meet (queue:Queue κ) (next:κ) : Queue κ :=
 let count:=queue.incoming next - 1
 { queue with
   incoming:=update queue.incoming next count
   ready:=if count=0 then queue.ready++[next] else queue.ready }

def turn (edges:κ → List κ) (queue:Queue κ) : Queue κ :=
 match queue.ready with
 | [] => queue
 | key::rest =>
   (edges key).foldl meet { queue with ready:=rest, ordered:=queue.ordered++[key] }

def turns (edges:κ → List κ) : ℕ → Queue κ → Queue κ
 | 0, queue => queue
 | fuel+1, queue => turns edges fuel (turn edges queue)

def start (nodes:Nodes κ) : Queue κ where
 incoming := (tablesOf nodes).incoming
 ready := (nodes.filter fun node=>(tablesOf nodes).incoming node.1=0).map (·.1)
 ordered := []

def order (nodes:Nodes κ) : List κ :=
 (turns (tablesOf nodes).edges nodes.length (start nodes)).ordered

def needs (nodes:Nodes κ) (key:κ) : List κ :=
 (nodes.filter fun node=>node.1=key).flatMap (·.2)

def passes (nodes:Nodes κ) (key:κ) : ℕ :=
 if needs nodes key=[] then (nodes.map (·.1)).count key else 1

/-- A listed key is released when released keys meet as many requirements as it has. -/
inductive Released (nodes:Nodes κ) : κ → Prop
 | intro (key:κ) (listed:key∈nodes.map (·.1)) (others:Finset κ)
   (released:∀other∈others,Released nodes other)
   (met:(needs nodes key).length ≤
    ∑ other∈others,passes nodes other*(needs nodes key).count other) :
   Released nodes key

section Tables

lemma noteRequirements_spec (key:κ) (requirements:List κ) (tables:Tables κ)
  (from' other:κ) :
  (requirements.foldl (noteRequirement key) tables).incoming other =
    tables.incoming other+(if key=other then requirements else []).length ∧
   ((requirements.foldl (noteRequirement key) tables).edges from').count other =
    (tables.edges from').count other+(if key=other then requirements else []).count from' := by
 induction requirements generalizing tables with
 | nil => simp
 | cons requirement requirements ih =>
   rw [foldl_cons,(ih _).1,(ih _).2]
   by_cases h : key=other
   · subst h
     by_cases hfrom : requirement=from'
     · subst hfrom
       simp [noteRequirement]
       omega
     · simp [noteRequirement,hfrom,Ne.symm hfrom]
       omega
   · by_cases hfrom : from'=requirement <;> simp [noteRequirement,h,Ne.symm h,hfrom]

lemma needs_cons (node:κ×List κ) (nodes:Nodes κ) (key:κ) :
  needs (node::nodes) key=(if node.1=key then node.2 else [])++needs nodes key := by
 unfold needs
 by_cases h : node.1=key <;> simp [h]

lemma noteNodes_spec (nodes:Nodes κ) (tables:Tables κ) (from' key:κ) :
  (nodes.foldl noteNode tables).incoming key =
    tables.incoming key+(needs nodes key).length ∧
   ((nodes.foldl noteNode tables).edges from').count key =
    (tables.edges from').count key+(needs nodes key).count from' := by
 induction nodes generalizing tables with
 | nil => simp [needs]
 | cons node nodes ih =>
   obtain ⟨hincoming,hedges⟩:=noteRequirements_spec node.1 node.2 tables from' key
   rw [foldl_cons,(ih _).1,(ih _).2,noteNode,hincoming,hedges,needs_cons,length_append,count_append]
   exact ⟨by omega,by omega⟩

variable (nodes:Nodes κ)

lemma incoming_tablesOf (key:κ) : (tablesOf nodes).incoming key=(needs nodes key).length := by
 rw [tablesOf,(noteNodes_spec nodes _ key key).1]
 simp

lemma count_edges_tablesOf (from' key:κ) :
  ((tablesOf nodes).edges from').count key=(needs nodes key).count from' := by
 rw [tablesOf,(noteNodes_spec nodes _ from' key).2]
 simp

end Tables

section Meeting

variable (list:List κ) (queue:Queue κ)

lemma meets_ordered : (list.foldl meet queue).ordered=queue.ordered := by
 induction list generalizing queue with
 | nil => rfl
 | cons next list ih =>
   rw [foldl_cons,ih]
   rfl

lemma meets_incoming (key:κ) :
  (list.foldl meet queue).incoming key=queue.incoming key - list.count key := by
 induction list generalizing queue with
 | nil => simp
 | cons next list ih =>
   rw [foldl_cons,ih]
   by_cases h : key=next
   · subst h
     simp [meet]
     omega
   · simp [meet,h,Ne.symm h]

lemma ready_meets : ∃added,(list.foldl meet queue).ready=queue.ready++added ∧
  ∀key∈added,key∈list ∧ (list.foldl meet queue).incoming key ≤ 0 := by
 induction list generalizing queue with
 | nil => exact ⟨[],by simp⟩
 | cons next list ih =>
   obtain ⟨added,hready,hadded⟩:=ih (meet queue next)
   have hlater:∀key∈added,key∈next::list ∧
     ((next::list).foldl meet queue).incoming key ≤ 0 := fun key hkey=>
    ⟨mem_cons_of_mem _ (hadded key hkey).1,(hadded key hkey).2⟩
   rw [foldl_cons,hready]
   by_cases hzero : queue.incoming next - 1=0
   · refine ⟨next::added,by simp [meet,hzero],forall_mem_cons.mpr ⟨⟨mem_cons_self,?_⟩,hlater⟩⟩
     rw [meets_incoming]
     simp only [meet,update_self]
     omega
   · exact ⟨added,by simp [meet,hzero],hlater⟩

end Meeting

section Invariants

variable {nodes:Nodes κ} {queue:Queue κ}

def Counted (nodes:Nodes κ) (queue:Queue κ) : Prop :=
 ∀key,(queue.ordered++queue.ready).count key =
   if needs nodes key=[] then (nodes.map (·.1)).count key
   else if queue.incoming key ≤ 0 then 1 else 0

lemma Counted.meet (h:Counted nodes queue) {next:κ} (hnext:needs nodes next≠[]) :
  Counted nodes (meet queue next) := by
 intro key
 have hkey:=h key
 by_cases heq : key=next
 · subst heq
   rw [if_neg hnext] at hkey ⊢
   simp only [QueueOrder.meet,update_self]
   by_cases hzero : queue.incoming key - 1=0
   · rw [if_neg (by omega)] at hkey
     rw [if_pos hzero,if_pos (by omega),← append_assoc,count_append,hkey]
     simp
   · rw [if_neg hzero,hkey]
     split_ifs <;> omega
 · have hcount:(queue.ordered++(QueueOrder.meet queue next).ready).count key =
     (queue.ordered++queue.ready).count key := by
    simp only [QueueOrder.meet]
    split_ifs
    · simp [count_append,Ne.symm heq]
    · rfl
   have hincoming:(QueueOrder.meet queue next).incoming key=queue.incoming key := by
    simp [QueueOrder.meet,heq]
   rw [hincoming,← hkey]
   exact hcount

lemma Counted.meets (h:Counted nodes queue) {list:List κ}
  (hlist:∀next∈list,needs nodes next≠[]) :
  Counted nodes (list.foldl QueueOrder.meet queue) := by
 induction list generalizing queue with
 | nil => exact h
 | cons next list ih =>
   exact ih (h.meet (hlist next mem_cons_self)) fun other hother=>
    hlist other (mem_cons_of_mem _ hother)

lemma mem_needs_iff {key need:κ} :
  need∈needs nodes key ↔ ∃node∈nodes,node.1=key ∧ need∈node.2 := by
 simp [needs,and_assoc]

lemma listed_of_needs {key:κ} (h:needs nodes key≠[]) : key∈nodes.map (·.1) := by
 obtain ⟨requirement,hmem⟩:=exists_mem_of_ne_nil _ h
 obtain ⟨node,hnode,hkey,-⟩:=mem_needs_iff.mp hmem
 exact mem_map.mpr ⟨node,hnode,hkey⟩

/-- The edges lead from each requirement to the keys that have it. -/
def Dependents (nodes:Nodes κ) (edges:κ → List κ) : Prop :=
 ∀from' key,(edges from').count key=(needs nodes key).count from'

lemma Dependents.needs_ne_nil {edges:κ → List κ} (h:Dependents nodes edges) {from' key:κ}
  (hkey:key∈edges from') : needs nodes key≠[] := by
 have hcount:=count_pos_iff.mpr hkey
 rw [h] at hcount
 exact ne_nil_of_mem (count_pos_iff.mp hcount)

def metBy (nodes:Nodes κ) (ordered:List κ) (key:κ) : ℕ :=
 (ordered.map fun other=>(needs nodes key).count other).sum

structure Consistent (nodes:Nodes κ) (queue:Queue κ) : Prop where
 counted : Counted nodes queue
 incoming : ∀key,queue.incoming key =
  (needs nodes key).length - (metBy nodes queue.ordered key : ℤ)
 released : ∀key∈queue.ordered++queue.ready,Released nodes key

lemma count_le_passes (h:Counted nodes queue) (key:κ) :
  queue.ordered.count key ≤ passes nodes key := by
 have hle:queue.ordered.count key ≤ (queue.ordered++queue.ready).count key := by
  rw [count_append]
  omega
 rw [h key] at hle
 unfold passes
 split_ifs at hle ⊢ <;> omega

lemma metBy_eq_sum (ordered:List κ) (key:κ) :
  metBy nodes ordered key =
   ∑ other∈ordered.toFinset, ordered.count other*(needs nodes key).count other := by
 rw [metBy,Finset.sum_list_map_count]
 simp

lemma released_of_met (h:Counted nodes queue)
  (hreleased:∀key∈queue.ordered,Released nodes key) {key:κ}
  (hlisted:key∈nodes.map (·.1))
  (hmet:(needs nodes key).length ≤ metBy nodes queue.ordered key) : Released nodes key := by
 refine .intro key hlisted queue.ordered.toFinset
  (fun other hother=>hreleased other (mem_toFinset.mp hother)) (hmet.trans ?_)
 rw [metBy_eq_sum]
 exact Finset.sum_le_sum fun other _=>Nat.mul_le_mul_right _ (count_le_passes h other)

lemma turn_cons (edges:κ → List κ) {key:κ} {rest:List κ}
  (hready:queue.ready=key::rest) :
  (turn edges queue).ordered=queue.ordered++[key] ∧
   ∃added,(turn edges queue).ready=rest++added ∧
    ∀other∈added,other∈edges key ∧ (turn edges queue).incoming other ≤ 0 := by
 unfold turn
 rw [hready]
 exact ⟨meets_ordered _ _,ready_meets _ _⟩

section Steps

variable {edges:κ → List κ} (hedges:Dependents nodes edges)
include hedges

lemma Consistent.turn (h:Consistent nodes queue) : Consistent nodes (turn edges queue) := by
 cases hready : queue.ready with
 | nil => simpa only [QueueOrder.turn,hready] using h
 | cons key rest =>
   obtain ⟨hordered,added,hadded,hmet⟩:=turn_cons edges hready
   have hcounted:Counted nodes (QueueOrder.turn edges queue) := by
    unfold QueueOrder.turn
    rw [hready]
    refine Counted.meets (fun other=>?_) fun _=>hedges.needs_ne_nil
    rw [← h.counted other,hready,append_assoc]
    rfl
   have hincoming:∀other,(QueueOrder.turn edges queue).incoming other =
     (needs nodes other).length - (metBy nodes (queue.ordered++[key]) other : ℤ) := by
    intro other
    unfold QueueOrder.turn
    rw [hready]
    simp only [meets_incoming,hedges key other,h.incoming other,metBy,map_append,map_cons,map_nil,
     sum_append,sum_cons,sum_nil]
    omega
   have hold:∀other∈queue.ordered++key::rest,Released nodes other:=hready ▸ h.released
   refine ⟨hcounted,fun other=>by rw [hincoming,hordered],fun other hother=>?_⟩
   rw [hordered,hadded,append_assoc,← append_assoc [key],singleton_append,← append_assoc] at hother
   rcases mem_append.mp hother with hother | hnew
   · exact hold other hother
   · -- The last of its requirements has just been met.
     obtain ⟨hedge,hle⟩:=hmet other hnew
     rw [hincoming] at hle
     refine released_of_met hcounted (fun done hdone=>hold done ?_)
      (listed_of_needs (hedges.needs_ne_nil hedge)) ?_
     · rw [hordered] at hdone
       simp only [mem_append,mem_cons,not_mem_nil,or_false] at hdone ⊢
       tauto
     · rw [hordered]
       omega

end Steps

lemma ready_start (nodes:Nodes κ) :
  (start nodes).ready=(nodes.map (·.1)).filter fun key=>needs nodes key=[] := by
 rw [filter_map]
 change (nodes.filter fun node=>(tablesOf nodes).incoming node.1=0).map (·.1)=_
 congr 2
 funext node
 simp [incoming_tablesOf]

lemma consistent_start (nodes:Nodes κ) : Consistent nodes (start nodes) := by
 have hready:=ready_start nodes
 refine ⟨fun key=>?_, fun key=>?_, fun key hkey=>?_⟩
 · have hincoming:(start nodes).incoming key=(needs nodes key).length :=
    incoming_tablesOf nodes key
   change ([]++(start nodes).ready).count key=_
   rw [nil_append,hready,hincoming]
   by_cases h : needs nodes key=[]
   · rw [if_pos h,count_filter (by simpa using h)]
   · have hpos:=length_pos_iff.mpr h
     rw [if_neg h,if_neg (by omega),count_eq_zero]
     intro hmem
     exact h (by simpa using (mem_filter.mp hmem).2)
 · simp [incoming_tablesOf,metBy,start]
 · change key∈[]++(start nodes).ready at hkey
   rw [nil_append,hready,mem_filter,decide_eq_true_eq] at hkey
   exact .intro key hkey.1 ∅ (fun _ hmem=>absurd hmem (Finset.notMem_empty _)) (by simp [hkey.2])

end Invariants

section Order

variable {nodes:Nodes κ} {queue:Queue κ}

lemma Consistent.length_le (h:Consistent nodes queue) :
  (queue.ordered++queue.ready).length ≤ nodes.length := by
 have hsub:(queue.ordered++queue.ready).Subperm (nodes.map (·.1)) := by
  rw [subperm_ext_iff]
  intro key _
  rw [h.counted key]
  split_ifs with hneeds hmet
  · exact le_rfl
  · exact count_pos_iff.mpr (listed_of_needs hneeds)
  · exact Nat.zero_le _
 rw [← length_map (fun node:κ×List κ=>node.1)]
 exact hsub.length_le

/-- A strategy takes one of the ready keys; which one, is up to it. -/
def Picks (edges:κ → List κ) (step:Queue κ → Queue κ) : Prop :=
 ∀queue,∃ready,ready ~ queue.ready ∧ step queue=turn edges { queue with ready }

section Strategies

variable {edges:κ → List κ} (hedges:Dependents nodes edges) {step:Queue κ → Queue κ}
 (hpicks:Picks edges step)
include hpicks

lemma Picks.ready_nil (hready:queue.ready=[]) (fuel:ℕ) :
  (step^[fuel] queue).ready=[] := by
 induction fuel generalizing queue with
 | zero => exact hready
 | succ fuel ih =>
   obtain ⟨ready,hperm,hstep⟩:=hpicks queue
   rw [hready,perm_nil] at hperm
   apply ih
   rw [hstep,hperm]
   rfl

include hedges

lemma Consistent.pick (h:Consistent nodes queue) : Consistent nodes (step queue) := by
 obtain ⟨ready,hperm,hstep⟩:=hpicks queue
 rw [hstep]
 refine Consistent.turn hedges ⟨fun key=>?_,h.incoming,fun key hkey=>?_⟩
 · rw [← h.counted key]
   exact (hperm.append_left _).count_eq key
 · exact h.released key ((hperm.append_left _).mem_iff.mp hkey)

lemma Consistent.steps (h:Consistent nodes queue) (fuel:ℕ) :
  Consistent nodes (step^[fuel] queue) := by
 induction fuel generalizing queue with
 | zero => exact h
 | succ fuel ih => exact ih (h.pick hedges hpicks)

lemma Consistent.ready_steps (h:Consistent nodes queue) (fuel:ℕ)
  (hfuel:nodes.length ≤ queue.ordered.length+fuel) : (step^[fuel] queue).ready=[] := by
 induction fuel generalizing queue with
 | zero =>
   have hlen:=h.length_le
   rw [length_append] at hlen
   exact length_eq_zero_iff.mp (by rw [iterate_zero,id]; omega)
 | succ fuel ih =>
   obtain ⟨ready,hperm,hstep⟩:=hpicks queue
   cases ready with
   | nil => exact hpicks.ready_nil (nil_perm.mp hperm) _
   | cons key rest =>
     have hordered:(QueueOrder.turn edges { queue with ready:=key::rest }).ordered =
       queue.ordered++[key] := (turn_cons edges rfl).1
     refine ih (h.pick hedges hpicks) ?_
     rw [hstep,hordered,length_append,length_singleton,add_assoc,add_comm 1]
     exact hfuel

end Strategies

lemma Consistent.mem_ordered_iff (h:Consistent nodes queue) (hready:queue.ready=[])
  (key:κ) : key∈queue.ordered ↔ Released nodes key := by
 have hcount:∀other,queue.ordered.count other =
   if needs nodes other=[] then (nodes.map (·.1)).count other
   else if queue.incoming other ≤ 0 then 1 else 0 := by
  intro other
  have hother:=h.counted other
  rwa [hready,append_nil] at hother
 constructor
 · intro hkey
   exact h.released key (mem_append_left _ hkey)
 · intro hreleased
   induction hreleased with
   | intro key hlisted others _ hmet ih =>
     rw [← count_pos_iff,hcount key]
     by_cases hneeds : needs nodes key=[]
     · rw [if_pos hneeds]
       exact count_pos_iff.mpr hlisted
     · -- The released keys have all passed, as often as they can.
       have hpass:∀other∈others,passes nodes other=queue.ordered.count other := by
        intro other hother
        have hpos:=count_pos_iff.mpr (ih other hother)
        rw [hcount other] at hpos ⊢
        unfold passes
        split_ifs at hpos ⊢ <;> omega
       have hsubset:others ⊆ queue.ordered.toFinset:=fun other hother=>
        mem_toFinset.mpr (ih other hother)
       have hall:(needs nodes key).length ≤ metBy nodes queue.ordered key := by
        calc (needs nodes key).length
          ≤ ∑ other∈others, passes nodes other*(needs nodes key).count other := hmet
         _ = ∑ other∈others, queue.ordered.count other*(needs nodes key).count other :=
             Finset.sum_congr rfl fun other hother=>by rw [hpass other hother]
         _ ≤ metBy nodes queue.ordered key := by
             rw [metBy_eq_sum]
             exact Finset.sum_le_sum_of_subset hsubset
       have hincoming:=h.incoming key
       rw [if_neg hneeds,if_pos (by omega)]
       exact Nat.one_pos

lemma picks_turn (edges:κ → List κ) : Picks edges (turn edges) := fun _=>⟨_,.rfl,rfl⟩

lemma turns_eq (edges:κ → List κ) (fuel:ℕ) (queue:Queue κ) :
  turns edges fuel queue=(turn edges)^[fuel] queue := by
 induction fuel generalizing queue with
 | zero => rfl
 | succ fuel ih => exact ih _

lemma mem_order_iff (key:κ) : key∈order nodes ↔ Released nodes key := by
 have hstart:=consistent_start nodes
 unfold order
 rw [turns_eq]
 exact (hstart.steps (count_edges_tablesOf nodes) (picks_turn _) _).mem_ordered_iff
  (hstart.ready_steps (count_edges_tablesOf nodes) (picks_turn _) _ (by omega)) key

end Order

section Distinct

variable {nodes:Nodes κ} {queue:Queue κ} (hdistinct:(nodes.map (·.1)).Nodup)

def InOrder (nodes:Nodes κ) (keys:List κ) : Prop :=
 ∀front key back,keys=front++key::back → ∀need∈needs nodes key,need∈front

lemma InOrder.append {keys added:List κ} (h:InOrder nodes keys)
  (hadded:∀key∈added,∀need∈needs nodes key,need∈keys) :
  InOrder nodes (keys++added) := by
 intro front key back hsplit need hneed
 rcases append_eq_append_iff.mp hsplit with ⟨more,rfl,rfl⟩ | ⟨more,rfl,hmore⟩
 · exact mem_append_left _ (hadded key (by simp) need hneed)
 · cases more with
   | nil =>
     rw [nil_append] at hmore
     simpa using hadded key (hmore ▸ mem_cons_self) need hneed
   | cons other more =>
     obtain ⟨rfl,-⟩:=cons.inj hmore
     exact h front key more rfl need hneed

lemma subset_of_met {list:List κ} {others:Finset κ} {weight:κ → ℕ}
  (hweight:∀other,weight other ≤ 1)
  (hmet:list.length ≤ ∑ other∈others, weight other*list.count other) :
  ∀key∈list,key∈others := by
 intro key hkey
 by_contra hnot
 have hpos:=count_pos_iff.mpr hkey
 have hlt:∑ other∈others, weight other*list.count other<list.length := by
  calc ∑ other∈others, weight other*list.count other
    ≤ ∑ other∈others, list.count other :=
       Finset.sum_le_sum fun other _=>by simpa using Nat.mul_le_mul_right _ (hweight other)
   _<∑ other∈insert key others, list.count other := by
       rw [Finset.sum_insert hnot]
       omega
   _ ≤ ∑ other∈insert key others ∪ list.toFinset, list.count other :=
       Finset.sum_le_sum_of_subset Finset.subset_union_left
   _ = list.length := by
       simpa only [Multiset.coe_count,Multiset.coe_card] using Multiset.sum_count_eq_card
        (s := insert key others ∪ list.toFinset) (m := (list:Multiset κ)) fun other hother=>
         Finset.mem_union_right _ (mem_toFinset.mpr hother)
 omega

lemma settled_of_acyclic (hacyclic:¬ Cyclic (needs nodes)) {key:κ}
  (hkey:key∈nodes.map (·.1)) : Settled (needs nodes) key := by
 have hsearch:=search_eq_none_iff fun other (h:needs nodes other≠[])=>listed_of_needs h
 obtain ⟨done,hdone⟩:=Option.ne_none_iff_exists'.mp (mt hsearch.mp hacyclic)
 exact search_some hdone key hkey

include hdistinct

lemma passes_le_one (key:κ) : passes nodes key ≤ 1 := by
 unfold passes
 split_ifs
 · exact nodup_iff_count_le_one.mp hdistinct key
 · exact le_rfl

lemma Consistent.nodup (h:Consistent nodes queue) : queue.ordered.Nodup :=
 nodup_iff_count_le_one.mpr fun key=>
  (count_le_passes h.counted key).trans (passes_le_one hdistinct key)

lemma Consistent.needs_subset (h:Consistent nodes queue) {key:κ}
  (hmet:queue.incoming key ≤ 0) : ∀need∈needs nodes key,need∈queue.ordered := by
 intro need hneed
 rw [h.incoming,metBy_eq_sum] at hmet
 exact mem_toFinset.mp (subset_of_met (nodup_iff_count_le_one.mp (h.nodup hdistinct))
  (by exact_mod_cast sub_nonpos.mp hmet) need hneed)

lemma InOrder.turn {edges:κ → List κ} (hedges:Dependents nodes edges)
  (hconsistent:Consistent nodes queue) (h:InOrder nodes (queue.ordered++queue.ready)) :
  InOrder nodes ((turn edges queue).ordered++(turn edges queue).ready) := by
 cases hready : queue.ready with
 | nil => simpa only [QueueOrder.turn,hready] using hready ▸ h
 | cons key rest =>
   obtain ⟨hordered,added,hadded,hmet⟩:=turn_cons edges hready
   rw [hordered,hadded,append_assoc,← append_assoc [key],singleton_append,← append_assoc]
   refine (hready ▸ h).append fun other hother need hneed=>?_
   have hdone:=(hconsistent.turn hedges).needs_subset hdistinct (hmet other hother).2 need hneed
   rw [hordered] at hdone
   simp only [mem_append,mem_cons,not_mem_nil,or_false] at hdone ⊢
   tauto

lemma InOrder.turns (fuel:ℕ) (hconsistent:Consistent nodes queue)
  (h:InOrder nodes (queue.ordered++queue.ready)) :
  InOrder nodes (turns (tablesOf nodes).edges fuel queue).ordered := by
 have hedges:=count_edges_tablesOf nodes
 induction fuel generalizing queue with
 | zero =>
   intro front key back (hsplit:queue.ordered=_)
   exact h front key (back++queue.ready) (by rw [hsplit,append_assoc,cons_append])
 | succ fuel ih => exact ih (hconsistent.turn hedges) (h.turn hdistinct hedges hconsistent)

/-- What is released is settled, and nothing that it needs, at whatever distance, is unlisted. -/
lemma released_iff_reaching {key:κ} :
  Released nodes key ↔ Settled (needs nodes) key ∧
   ∀need,Relation.ReflTransGen (fun key need=>need∈needs nodes key) key need →
    need∈nodes.map (·.1) := by
 constructor
 · intro h
   induction h with
   | intro key hkey others _ hmet ih =>
     have hneeds:=subset_of_met (passes_le_one hdistinct) hmet
     refine ⟨.intro key fun need hneed=>(ih need (hneeds need hneed)).1,fun need hreach=>?_⟩
     rcases hreach.cases_head with rfl | ⟨next,hnext,hrest⟩
     · exact hkey
     · exact (ih next (hneeds next hnext)).2 need hrest
 · rintro ⟨hsettled,hlisted⟩
   induction hsettled with
   | intro key _ ih =>
     have hpasses:∀need∈(needs nodes key).toFinset,passes nodes need=1 := by
      intro need hneed
      rw [passes,count_eq_one_of_mem hdistinct (hlisted need (.single (mem_toFinset.mp hneed))),
       ite_self]
     refine .intro key (hlisted key .refl) (needs nodes key).toFinset (fun need hneed=>?_) ?_
     · have hneed:=mem_toFinset.mp hneed
       exact ih need hneed fun other hreach=>hlisted other (hreach.head hneed)
     · rw [Finset.sum_congr rfl fun need hneed=>by rw [hpasses need hneed,one_mul]]
       exact (sum_toFinset_count_eq_length _).ge

variable (hlisted:∀key,∀need∈needs nodes key,need∈nodes.map (·.1))
include hlisted

lemma released_iff {key:κ} :
  Released nodes key ↔ key∈nodes.map (·.1) ∧ Settled (needs nodes) key := by
 rw [released_iff_reaching hdistinct]
 constructor
 · exact fun h=>⟨h.2 key .refl,h.1⟩
 · rintro ⟨hkey,hsettled⟩
   refine ⟨hsettled,fun need hreach=>?_⟩
   induction hreach with
   | refl => exact hkey
   | tail _ hneed _ => exact hlisted _ _ hneed

lemma order_of_acyclic (hacyclic:¬ Cyclic (needs nodes)) :
  order nodes ~ nodes.map (·.1) ∧ InOrder nodes (order nodes) := by
 have hstart:=consistent_start nodes
 have hnodup:(order nodes).Nodup := by
  unfold order
  rw [turns_eq]
  exact (hstart.steps (count_edges_tablesOf nodes) (picks_turn _) _).nodup hdistinct
 refine ⟨(perm_ext_iff_of_nodup hnodup hdistinct).mpr fun key=>?_,?_⟩
 · rw [mem_order_iff,released_iff hdistinct hlisted]
   exact and_iff_left_of_imp (settled_of_acyclic hacyclic)
 · refine InOrder.turns hdistinct _ hstart fun front key back hsplit need hneed=>?_
   have hkey:key∈(start nodes).ready := by
    change key∈[]++(start nodes).ready
    rw [show []++(start nodes).ready=_ from hsplit]
    simp
   rw [ready_start,mem_filter,decide_eq_true_eq] at hkey
   rw [hkey.2] at hneed
   cases hneed

end Distinct

section Stack

def stackTurn (edges:κ → List κ) (queue:Queue κ) : Queue κ :=
 turn edges { queue with ready:=queue.ready.getLast?.toList++queue.ready.dropLast }

def keys (nodes:Nodes κ) : List κ :=
 (nodes.flatMap fun node=>node.1::node.2).reverse.dedup.reverse

def visited (nodes:Nodes κ) : List κ :=
 let tables:=tablesOf nodes
 ((stackTurn tables.edges)^[(keys nodes).length]
  { incoming:=tables.incoming
    ready:=(keys nodes).filter fun key=>tables.incoming key=0
    ordered:=[] }).ordered

def merged (nodes:Nodes κ) : Nodes κ := (keys nodes).map fun key=>(key,needs nodes key)

lemma picks_stackTurn (edges:κ → List κ) : Picks edges (stackTurn edges) := by
 intro queue
 refine ⟨_,perm_append_comm.trans ?_,rfl⟩
 rcases eq_nil_or_concat queue.ready with hready | ⟨front,key,hready⟩ <;> simp [hready]

lemma needs_map {list:List κ} (h:list.Nodup) (f:κ → List κ) (key:κ) :
  needs (list.map fun key=>(key,f key)) key=if key∈list then f key else [] := by
 induction list with
 | nil => rfl
 | cons other list ih =>
   obtain ⟨hother,hlist⟩:=nodup_cons.mp h
   rw [map_cons,needs_cons,ih hlist]
   by_cases heq : other=key
   · subst heq
     simp [hother]
   · simp [heq,Ne.symm heq]

variable (nodes:Nodes κ)

lemma nodup_keys : (keys nodes).Nodup := nodup_reverse.mpr (nodup_dedup _)

variable {nodes}

lemma mem_keys_iff {key:κ} :
  key∈keys nodes ↔ key∈nodes.map (·.1) ∨ ∃other,key∈needs nodes other := by
 simp only [keys,mem_reverse,mem_dedup,mem_flatMap,mem_cons,mem_map,mem_needs_iff]
 constructor
 · rintro ⟨node,hnode,rfl | hneed⟩
   · exact .inl ⟨node,hnode,rfl⟩
   · exact .inr ⟨_,node,hnode,rfl,hneed⟩
 · rintro (⟨node,hnode,rfl⟩ | ⟨_,node,hnode,rfl,hneed⟩)
   · exact ⟨node,hnode,.inl rfl⟩
   · exact ⟨node,hnode,.inr hneed⟩

lemma needs_merged : needs (merged nodes)=needs nodes := by
 funext key
 rw [merged,needs_map (nodup_keys nodes)]
 by_cases hkey : key∈keys nodes
 · rw [if_pos hkey]
 · rw [if_neg hkey]
   by_contra hne
   exact hkey (mem_keys_iff.mpr (.inl (listed_of_needs (Ne.symm hne))))

variable (nodes) in
lemma visited_spec : (visited nodes).Nodup ∧
  ∀key,key∈visited nodes ↔ key∈keys nodes ∧ Settled (needs nodes) key := by
 have hids:(merged nodes).map (·.1)=keys nodes := by
  rw [merged,map_map]
  exact map_id _
 have hdistinct:((merged nodes).map (·.1)).Nodup:=hids ▸ nodup_keys nodes
 have hincoming:(tablesOf (merged nodes)).incoming=(tablesOf nodes).incoming := by
  funext key
  rw [incoming_tablesOf,incoming_tablesOf,needs_merged]
 have hstart:=consistent_start (merged nodes)
 have hbegin:start (merged nodes)=⟨(tablesOf nodes).incoming,
   (keys nodes).filter fun key=>(tablesOf nodes).incoming key=0,[]⟩ := by
  unfold start
  rw [hincoming,← hids,filter_map]
  rfl
 have hedges:Dependents (merged nodes) (tablesOf nodes).edges := by
  intro from' key
  rw [needs_merged,count_edges_tablesOf]
 have hpicks:=picks_stackTurn (tablesOf nodes).edges
 rw [hbegin] at hstart
 have hend:=hstart.steps hedges hpicks (keys nodes).length
 have hready:=hstart.ready_steps hedges hpicks (keys nodes).length (by simp [merged])
 have hlisted:∀key,∀need∈needs (merged nodes) key,need∈(merged nodes).map (·.1) := by
  rw [hids,needs_merged]
  exact fun key need hneed=>mem_keys_iff.mpr (.inr ⟨key,hneed⟩)
 refine ⟨hend.nodup hdistinct,fun key=>(hend.mem_ordered_iff hready key).trans ?_⟩
 rw [released_iff hdistinct hlisted,hids,needs_merged]

lemma length_visited_iff (hlisted:∀key,∀need∈needs nodes key,need∈nodes.map (·.1)) :
  (visited nodes).length=nodes.length ↔ (nodes.map (·.1)).Nodup ∧ ¬ Cyclic (needs nodes) := by
 obtain ⟨hnodup,hvisit⟩:=visited_spec nodes
 have hkeys:∀key,key∈keys nodes ↔ key∈nodes.map (·.1):=fun key=>
  mem_keys_iff.trans (or_iff_left_of_imp fun ⟨other,hneed⟩=>hlisted other key hneed)
 simp only [hkeys] at hvisit
 rw [← length_map (fun node:κ×List κ=>node.1)]
 constructor
 · intro hlen
   have hperm:=(subperm_of_subset hnodup fun key hkey=>
    ((hvisit key).mp hkey).1).perm_of_length_le hlen.ge
   refine ⟨hperm.nodup_iff.mp hnodup,?_⟩
   rintro ⟨key,hcycle⟩
   obtain ⟨need,hneed,-⟩:=Relation.TransGen.head'_iff.mp hcycle
   have hkey:=hperm.mem_iff.mpr (listed_of_needs (ne_nil_of_mem hneed))
   exact ((hvisit key).mp hkey).2.not_cyclic hcycle
 · rintro ⟨hdistinct,hacyclic⟩
   refine ((perm_ext_iff_of_nodup hnodup hdistinct).mpr fun key=>?_).length_eq
   rw [hvisit]
   exact and_iff_left_of_imp (settled_of_acyclic hacyclic)

end Stack

section Items

variable {α:Type} (key:α → κ) (requirements:α → List κ) (items:List α)

def nodesOf : Nodes κ := items.map fun item=>(key item,requirements item)

def Arranged (sorted:List α) : Prop :=
 sorted ~ items ∧ ∀front item back,sorted=front++item::back →
  ∀need∈requirements item,∃other∈front,key other=need

variable {key requirements items}

omit [DecidableEq κ] in
lemma ids_nodesOf : (nodesOf key requirements items).map (·.1)=items.map key := by
 simp [nodesOf]

lemma listed_nodesOf (h:∀item∈items,∀need∈requirements item,need∈items.map key)
  (id:κ) : ∀need∈needs (nodesOf key requirements items) id,
   need∈(nodesOf key requirements items).map (·.1) := by
 intro need hneed
 obtain ⟨node,hnode,-,hneed⟩:=mem_needs_iff.mp hneed
 obtain ⟨item,hitem,rfl⟩:=mem_map.mp hnode
 rw [ids_nodesOf]
 exact h item hitem need hneed

lemma arranged (hdistinct:(items.map key).Nodup)
  (hlisted:∀item∈items,∀need∈requirements item,need∈items.map key)
  (hacyclic:¬ Cyclic (needs (nodesOf key requirements items))) :
  Arranged key requirements items ((order (nodesOf key requirements items)).filterMap fun id=>
   items.reverse.find? (key ·=id)) := by
 set found := fun id=>items.reverse.find? (key ·=id)
 have hfound:∀item∈items,found (key item)=some item := by
  intro item hitem
  obtain ⟨other,hother⟩:=Option.isSome_iff_exists.mp (find?_isSome.mpr
   ⟨item,mem_reverse.mpr hitem,decide_eq_true rfl⟩ : (found (key item)).isSome)
  have hmem:=mem_reverse.mp (mem_of_find?_eq_some hother)
  have hsame:key other=key item := by simpa using find?_some hother
  exact hother.trans (congrArg some (inj_on_of_nodup_map hdistinct hmem hitem hsame))
 obtain ⟨hperm,horder⟩:=order_of_acyclic (by rwa [ids_nodesOf]) (listed_nodesOf hlisted) hacyclic
 rw [ids_nodesOf] at hperm
 have hsort:(order (nodesOf key requirements items)).filterMap found ~ items := by
  refine (hperm.filterMap found).trans ?_
  rw [filterMap_map,show items.filterMap (found ∘ key)=items.filterMap some from
   filterMap_congr hfound,filterMap_some]
 have hkeys:((order (nodesOf key requirements items)).filterMap found).map key =
   order (nodesOf key requirements items) := by
  rw [map_filterMap,filterMap_congr fun id hid=>?_,filterMap_some]
  obtain ⟨item,hitem,rfl⟩:=mem_map.mp (hperm.mem_iff.mp hid)
  rw [hfound item hitem]
  rfl
 refine ⟨hsort,fun front item back hsplit need hneed=>?_⟩
 have hitem:item∈items:=hsort.mem_iff.mp (by simp [hsplit])
 rw [hsplit,map_append,map_cons] at hkeys
 exact mem_map.mp (horder _ _ _ hkeys.symm need (mem_needs_iff.mpr
  ⟨_,mem_map_of_mem hitem,rfl,hneed⟩))

end Items

end EpistemicCompiler.QueueOrder
