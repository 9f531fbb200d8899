import Mathlib.Data.List.Pairwise
import Mathlib.Tactic.SplitIfs

set_option autoImplicit false

/-!
# Keys that are used once

Items come in one after another, some with a key; a register keeps the keys that it has seen and
lets an item through if its key is new.
-/
namespace EpistemicCompiler.SingleUse
open List

variable {α β κ:Type} [DecidableEq κ] (key:α → Option κ)

def admitted : List κ → List α → List α
 | _, [] => []
 | used, item::items =>
   match key item with
   | none => admitted used items
   | some k => if k∈used then admitted used items else item::admitted (k::used) items

def Fresh (used:List κ) (item:α) : Prop := ∃k,key item=some k ∧ k ∉ used

variable {key} {used:List κ} {items:List α}

lemma fresh_of_mem_admitted {item:α} (h:item∈admitted key used items) :
  item∈items ∧ Fresh key used item := by
 induction items generalizing used with
 | nil => cases h
 | cons first items ih =>
   have hrest:∀{more:List κ},item∈admitted key more items → used ⊆ more →
     item∈first::items ∧ Fresh key used item := by
    intro more hmem hmore
    obtain ⟨hitem,k,hk,hfresh⟩:=ih hmem
    exact ⟨mem_cons_of_mem _ hitem,k,hk,fun hused=>hfresh (hmore hused)⟩
   simp only [admitted] at h
   split at h
   · exact hrest h (List.Subset.refl _)
   · rename_i k hk
     split_ifs at h with hused
     · exact hrest h (List.Subset.refl _)
     · rcases mem_cons.mp h with rfl | hmem
       · exact ⟨mem_cons_self,k,hk,hused⟩
       · exact hrest hmem (subset_cons_self _ _)

lemma admitted_pairwise : (admitted key used items).Pairwise fun a b=>key a≠key b := by
 induction items generalizing used with
 | nil => exact List.Pairwise.nil
 | cons first items ih =>
   simp only [admitted]
   split
   · exact ih
   · rename_i k hk
     split_ifs
     · exact ih
     · refine List.Pairwise.cons (fun other hother heq=>?_) ih
       obtain ⟨-,k',hk',hfresh⟩:=fresh_of_mem_admitted hother
       rw [← heq,hk] at hk'
       cases hk'
       exact hfresh mem_cons_self

lemma exists_mem_admitted {item:α} (hitem:item∈items) (hfresh:Fresh key used item) :
  ∃other∈admitted key used items,key other=key item := by
 obtain ⟨k,hk,hunused⟩:=hfresh
 induction items generalizing used with
 | nil => cases hitem
 | cons first items ih =>
   simp only [admitted]
   by_cases hfirst : key first=some k
   · rw [hfirst]
     refine ⟨first,?_,hfirst.trans hk.symm⟩
     simp [hunused]
   · have htail:item∈items := by
      rcases mem_cons.mp hitem with rfl | htail
      · exact absurd hk hfirst
      · exact htail
     split
     · exact ih htail hunused
     · rename_i k' hk'
       split_ifs
       · exact ih htail hunused
       · have hne:k ∉ k'::used := by
          intro hmem
          rcases mem_cons.mp hmem with rfl | hmem
          · exact hfirst hk'
          · exact hunused hmem
         obtain ⟨other,hother,heq⟩:=ih htail hne
         exact ⟨other,mem_cons_of_mem _ hother,heq⟩

/-- Where the key of an item determines its class, the items that get through are all of different
classes exactly when fresh items of one class have one key. -/
lemma admitted_classes_iff (kind:α → β)
  (hkind:∀a b k,key a=some k → key b=some k → kind a=kind b) :
  (admitted key used items).Pairwise (fun a b=>kind a≠kind b) ↔
   ∀a∈items,∀b∈items,Fresh key used a → Fresh key used b → kind a=kind b →
     key a=key b := by
 constructor
 · intro hclasses a ha b hb hfresh hfresh' hsame
   obtain ⟨a',ha',hkeya⟩:=exists_mem_admitted ha hfresh
   obtain ⟨b',hb',hkeyb⟩:=exists_mem_admitted hb hfresh'
   obtain ⟨ka,hka,-⟩:=hfresh
   obtain ⟨kb,hkb,-⟩:=hfresh'
   by_cases heq : a'=b'
   · rw [← hkeya,← hkeyb,heq]
   · have hsymm:Std.Symm fun a b=>kind a≠kind b:=⟨fun _ _ h=>Ne.symm h⟩
     refine absurd ?_ (hclasses.forall ha' hb' heq)
     rw [hkind a' a ka (hkeya.trans hka) hka,hkind b' b kb (hkeyb.trans hkb) hkb,hsame]
 · intro hkeys
   refine admitted_pairwise.imp_of_mem fun {a b} ha hb hne hsame=>hne ?_
   obtain ⟨hitema,hfresh⟩:=fresh_of_mem_admitted ha
   obtain ⟨hitemb,hfresh'⟩:=fresh_of_mem_admitted hb
   exact hkeys a hitema b hitemb hfresh hfresh' hsame

end EpistemicCompiler.SingleUse
