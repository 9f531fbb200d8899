import Mathlib.Data.List.Perm.Subperm

set_option autoImplicit false

/-!
# Depth-first search for a cycle

The search keeps the path it is on and the nodes it is done with, which are accessible along their
dependencies; a node met again on the path closes a cycle.
-/
namespace EpistemicCompiler.DependencySearch
open List Option

variable {κ:Type}

section

variable {σ α:Type} {f:σ → α → Option σ}

lemma foldlM_none {s:σ} {l:List α} (h:l.foldlM f s=none) :
  ∃s',∃a∈l,f s' a=none := by
 induction l generalizing s with
 | nil => cases h
 | cons a l ih =>
   rw [foldlM_cons] at h
   cases hs : f s a with
   | none => exact ⟨s,a,by simp,hs⟩
   | some t =>
     rw [hs] at h
     obtain ⟨s',b,hb,hnone⟩:=ih h
     exact ⟨s',b,by simp [hb],hnone⟩

end

def DependsOn (deps:κ → List κ) (a b:κ) : Prop :=
 b∈deps a

def Cyclic (deps:κ → List κ) : Prop :=
 ∃a,Relation.TransGen (DependsOn deps) a a

def Settled (deps:κ → List κ) (a:κ) : Prop :=
 Acc (fun b a=>DependsOn deps a b) a

lemma Settled.not_cyclic {deps:κ → List κ} {a:κ} (h:Settled deps a) :
  ¬ Relation.TransGen (DependsOn deps) a a := by
 induction h with
 | intro a _ ih =>
   intro hcycle
   obtain ⟨b,hab,hba⟩:=Relation.TransGen.head'_iff.mp hcycle
   exact ih b hab (.tail' hba hab)

structure Extends (deps:κ → List κ) (visited visited':List κ) : Prop where
 kept : visited ⊆ visited'
 settled : (∀a∈visited,Settled deps a) → ∀a∈visited',Settled deps a

lemma foldlM_extends {deps:κ → List κ} {f:List κ → κ → Option (List κ)}
  (hf:∀visited id visited',f visited id=some visited' →
   Extends deps visited visited' ∧ id∈visited') {ids visited visited':List κ}
  (h:ids.foldlM f visited=some visited') : Extends deps visited visited' ∧ ids ⊆ visited' := by
 induction ids generalizing visited with
 | nil =>
   cases h
   exact ⟨⟨fun _ ha=>ha, fun ha=>ha⟩,nil_subset _⟩
 | cons id ids ih =>
   rw [foldlM_cons] at h
   cases hid : f visited id with
   | none =>
     rw [hid] at h
     cases h
   | some next =>
     rw [hid] at h
     obtain ⟨hnext,hmem⟩:=hf _ _ _ hid
     obtain ⟨hrest,hsub⟩:=ih h
     refine ⟨⟨fun a ha=>hrest.kept (hnext.kept ha), fun ha=>hrest.settled (hnext.settled ha)⟩,
      ?_⟩
     exact cons_subset.mpr ⟨hrest.kept hmem,hsub⟩

variable [DecidableEq κ] (deps:κ → List κ)

/-- The result is `none` when a cycle is met, else the nodes that the search is done with. The
fuel bounds the depth of the search. -/
def visit : ℕ → List κ → List κ → κ → Option (List κ)
 | 0, _, _, _ => none
 | fuel+1, visiting, visited, id =>
   if id∈visited then some visited
   else if id∈visiting then none
   else ((deps id).foldlM (visit fuel (id::visiting)) visited).map (id::·)

def search (fuel:ℕ) (roots:List κ) : Option (List κ) :=
 roots.foldlM (visit deps fuel []) []

section

variable {deps}

lemma visit_some {fuel:ℕ} {visiting visited visited':List κ} {id:κ}
  (h:visit deps fuel visiting visited id=some visited') :
  Extends deps visited visited' ∧ id∈visited' := by
 induction fuel generalizing visiting visited id visited' with
 | zero => cases h
 | succ fuel ih =>
   unfold visit at h
   split at h
   · rename_i hvisit
     cases h
     exact ⟨⟨fun _ ha=>ha, fun ha=>ha⟩,hvisit⟩
   split at h
   · cases h
   obtain ⟨done,hdone,rfl⟩:=map_eq_some_iff.mp h
   obtain ⟨hext,hdeps⟩:=foldlM_extends (fun _ _ _=>ih) hdone
   refine ⟨⟨fun a ha=>mem_cons_of_mem _ (hext.kept ha), fun hvisit a ha=>?_⟩, mem_cons_self⟩
   have hsettled:=hext.settled hvisit
   rcases mem_cons.mp ha with rfl | ha
   · exact .intro _ fun b hb=>hsettled b (hdeps hb)
   · exact hsettled a ha

lemma search_some {fuel:ℕ} {roots done:List κ} (h:search deps fuel roots=some done) :
  ∀a∈roots,Settled deps a := by
 obtain ⟨hext,hroots⟩:=foldlM_extends (fun _ _ _=>visit_some) h
 intro a ha
 exact hext.settled (by simp) a (hroots ha)

end

section

variable {deps} {roots:List κ} (hroots:∀a,deps a≠[] → a∈roots)

include hroots

/-- The fuel cannot run out: the path is longer than the list of nodes that have dependencies. -/
lemma visit_none {fuel:ℕ} {visiting visited:List κ} {id:κ}
  (h:visit deps fuel visiting visited id=none) (hnodup:visiting.Nodup)
  (hpath:∀a∈visiting,deps a≠[] ∧ Relation.TransGen (DependsOn deps) a id)
  (hfuel:roots.length<fuel+visiting.length) : Cyclic deps := by
 induction fuel generalizing visiting visited id with
 | zero =>
   have hsub:visiting ⊆ roots:=fun a ha=>hroots a (hpath a ha).1
   have hlen:=(subperm_of_subset hnodup hsub).length_le
   omega
 | succ fuel ih =>
   unfold visit at h
   split at h
   · cases h
   split at h
   · rename_i hmem
     exact ⟨id,(hpath id hmem).2⟩
   rename_i hnew
   obtain ⟨seen,dep,hdep,hnone⟩:=foldlM_none (map_eq_none_iff.mp h)
   refine ih hnone (nodup_cons.mpr ⟨hnew,hnodup⟩) ?_ (by simp; omega)
   intro a ha
   rcases mem_cons.mp ha with rfl | ha
   · exact ⟨ne_nil_of_mem hdep,.single hdep⟩
   · exact ⟨(hpath a ha).1,(hpath a ha).2.tail hdep⟩

lemma search_eq_none_iff : search deps (roots.length+1) roots=none ↔ Cyclic deps := by
 constructor
 · intro h
   obtain ⟨visited,id,-,hnone⟩:=foldlM_none h
   exact visit_none hroots hnone .nil (by simp) (by simp)
 · rintro ⟨a,hcycle⟩
   cases hdone : search deps (roots.length+1) roots with
   | none => rfl
   | some done =>
     obtain ⟨b,hab,-⟩:=Relation.TransGen.head'_iff.mp hcycle
     have ha:a∈roots:=hroots a (ne_nil_of_mem hab)
     exact absurd hcycle (search_some hdone a ha).not_cyclic

end

end EpistemicCompiler.DependencySearch
