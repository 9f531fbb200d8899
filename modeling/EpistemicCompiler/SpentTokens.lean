import Mathlib.Data.List.Basic

set_option autoImplicit false

/-!
# Tokens that are spent once

A request first spends the token that it names and then waits; it is done when it has got what the
token pays for.
-/
namespace EpistemicCompiler.SpentTokens
open List Option

variable {ρ κ:Type}

structure Once (key:ρ → Option κ) (spent:κ → Prop) (waiting:ℕ → Prop) (requests:List ρ)
  (done:List ρ) : Prop where
 paid : ∀x∈done,∃k,key x=some k ∧ spent k
 distinct : done.Pairwise fun x y=>key x≠key y
 pending : ∀i x,requests[i]?=some x → waiting i →
  ∃k,key x=some k ∧ spent k ∧ ∀y∈done,key y≠some k
 apart : ∀i j x y,i≠j → requests[i]?=some x → requests[j]?=some y → waiting i →
  waiting j → key x≠key y

variable {key:ρ → Option κ} {spent spent':κ → Prop} {waiting waiting':ℕ → Prop}
 {requests done:List ρ} {i:ℕ} {x:ρ} {k:κ}

lemma once_nil (hwait:∀i,¬ waiting i) : Once key spent waiting requests [] where
 paid _ hx := by cases hx
 distinct := .nil
 pending i _ _ hw := absurd hw (hwait i)
 apart i _ _ _ _ _ _ hw := absurd hw (hwait i)

variable (h:Once key spent waiting requests done)
include h

lemma Once.mono (hspent:∀k,spent k → spent' k) (hwait:∀i,waiting' i → waiting i) :
  Once key spent' waiting' requests done where
 paid x hx := by
  obtain ⟨k,hk,hpaid⟩:=h.paid x hx
  exact ⟨k,hk,hspent k hpaid⟩
 distinct := h.distinct
 pending i x hi hw := by
  obtain ⟨k,hk,hpaid,hdone⟩:=h.pending i x hi (hwait i hw)
  exact ⟨k,hk,hspent k hpaid,hdone⟩
 apart i j x y hij hi hj hw hw' := h.apart i j x y hij hi hj (hwait i hw) (hwait j hw')

lemma Once.abandon (requests':List ρ) (hwait:∀i,¬ waiting' i) :
  Once key spent waiting' requests' done where
 paid := h.paid
 distinct := h.distinct
 pending i _ _ hw := absurd hw (hwait i)
 apart i _ _ _ _ _ _ hw := absurd hw (hwait i)

lemma Once.spawn (x:ρ) (hwait:∀i,waiting' i → waiting i ∧ i≠requests.length) :
  Once key spent waiting' (requests++[x]) done := by
 have hold:∀i y,(requests++[x])[i]?=some y → waiting' i → requests[i]?=some y := by
  intro i y hi hw
  have hlt:=(List.getElem?_eq_some_iff.mp hi).1
  rw [length_append,length_singleton] at hlt
  have hne:=(hwait i hw).2
  rwa [getElem?_append_left (by omega)] at hi
 refine ⟨h.paid,h.distinct,?_,?_⟩
 · intro i y hi hw
   exact h.pending i y (hold i y hi hw) (hwait i hw).1
 · intro i j y z hij hi hj hw hw'
   exact h.apart i j y z hij (hold i y hi hw) (hold j z hj hw') (hwait i hw).1 (hwait j hw').1

lemma Once.pay (hi:requests[i]?=some x) (hkey:key x=some k) (hfresh:¬ spent k)
  (hspent:∀k,spent k → spent' k) (hpaid:spent' k)
  (hwait:∀j,waiting' j → waiting j ∨ j=i) : Once key spent' waiting' requests done := by
 have hdone:∀y∈done,key y≠some k := by
  intro y hy heq
  obtain ⟨k',hk',hspent'⟩:=h.paid y hy
  rw [hk',some.injEq] at heq
  exact hfresh (heq ▸ hspent')
 have hother:∀j y,requests[j]?=some y → waiting j → key y≠some k := by
  intro j y hj hw heq
  obtain ⟨k',hk',hspent',-⟩:=h.pending j y hj hw
  rw [hk',some.injEq] at heq
  exact hfresh (heq ▸ hspent')
 refine ⟨fun y hy=>?_, h.distinct,fun j y hj hw=>?_, fun j m y z hjm hj hm hw hw'=>?_⟩
 · obtain ⟨k',hk',hpaid'⟩:=h.paid y hy
   exact ⟨k',hk',hspent k' hpaid'⟩
 · by_cases hji : j=i
   · subst hji
     obtain rfl : x=y:=some.inj (hi.symm.trans hj)
     exact ⟨k,hkey,hpaid,hdone⟩
   · obtain ⟨k',hk',hpaid',hdone'⟩:=h.pending j y hj ((hwait j hw).resolve_right hji)
     exact ⟨k',hk',hspent k' hpaid',hdone'⟩
 · by_cases hji : j=i
   · subst hji
     obtain rfl : x=y:=some.inj (hi.symm.trans hj)
     rw [hkey]
     exact Ne.symm (hother m z hm ((hwait m hw').resolve_right (Ne.symm hjm)))
   · by_cases hmi : m=i
     · subst hmi
       obtain rfl : x=z:=some.inj (hi.symm.trans hm)
       rw [hkey]
       exact hother j y hj ((hwait j hw).resolve_right hji)
     · exact h.apart j m y z hjm hj hm ((hwait j hw).resolve_right hji)
        ((hwait m hw').resolve_right hmi)

lemma Once.finish (hi:requests[i]?=some x) (hw:waiting i)
  (hwait:∀j,waiting' j → waiting j ∧ j≠i) :
  Once key spent waiting' requests (done++[x]) := by
 obtain ⟨k,hkey,hspent,hdone⟩:=h.pending i x hi hw
 refine ⟨fun y hy=>?_, ?_,fun j y hj hw'=>?_, fun j m y z hjm hj hm hw' hw''=>?_⟩
 · rcases mem_append.mp hy with hy | hy
   · exact h.paid y hy
   · rw [mem_singleton.mp hy]
     exact ⟨k,hkey,hspent⟩
 · rw [pairwise_append]
   refine ⟨h.distinct,pairwise_singleton _ _,fun y hy z hz=>?_⟩
   rw [mem_singleton.mp hz,hkey]
   exact hdone y hy
 · obtain ⟨hwj,hji⟩:=hwait j hw'
   obtain ⟨k',hk',hspent',hdone'⟩:=h.pending j y hj hwj
   refine ⟨k',hk',hspent',fun z hz=>?_⟩
   rcases mem_append.mp hz with hz | hz
   · exact hdone' z hz
   · rw [mem_singleton.mp hz,← hk']
     exact h.apart i j x y (Ne.symm hji) hi hj hw hwj
 · exact h.apart j m y z hjm hj hm (hwait j hw').1 (hwait m hw'').1

end EpistemicCompiler.SpentTokens
