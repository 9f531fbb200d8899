import Mathlib.Data.List.Basic

set_option autoImplicit false

/-!
# Updates that touch few keys

An operation rewrites a map at the keys it names, from the values at these keys. So a run depends
only on the order of operations at each key.
-/
namespace EpistemicCompiler.LocalUpdates
open List

variable {κ ν ω:Type}

structure IsLocal (keys:ω → List κ) (apply:ω → (κ → ν) → κ → ν) : Prop where
 frame : ∀op look key,key ∉ keys op → apply op look key=look key
 reads : ∀op look look',(∀key∈keys op,look key=look' key) →
  ∀key∈keys op,apply op look key=apply op look' key

def run (apply:ω → (κ → ν) → κ → ν) (ops:List ω) (look:κ → ν) : κ → ν :=
 ops.foldl (fun look op=>apply op look) look

variable {keys:ω → List κ} {apply:ω → (κ → ν) → κ → ν}

lemma run_cons (op:ω) (ops:List ω) (look:κ → ν) :
  run apply (op::ops) look=run apply ops (apply op look) :=
 rfl

lemma IsLocal.commute (h:IsLocal keys apply) {a b:ω}
  (hdisjoint:∀key∈keys a,key ∉ keys b) (look:κ → ν) :
  apply a (apply b look)=apply b (apply a look) := by
 funext key
 by_cases ha : key∈keys a
 · calc apply a (apply b look) key
     = apply a look key := h.reads a _ _ (fun k hk=>h.frame b look k (hdisjoint k hk)) key ha
    _ = apply b (apply a look) key := (h.frame b _ key (hdisjoint key ha)).symm
 · rw [h.frame a _ key ha]
   by_cases hb : key∈keys b
   · refine h.reads b _ _ (fun k hk=>(h.frame a look k ?_).symm) key hb
     exact fun hka=>hdisjoint k hka hk
   · rw [h.frame b _ key hb,h.frame b _ key hb,h.frame a _ key ha]

lemma IsLocal.run_frame (h:IsLocal keys apply) {ops:List ω} {key:κ}
  (hkey:∀op∈ops,key ∉ keys op) (look:κ → ν) : run apply ops look key=look key := by
 induction ops generalizing look with
 | nil => rfl
 | cons op ops ih =>
   rw [run_cons,ih fun op' hop'=>hkey op' (mem_cons_of_mem op hop')]
   exact h.frame op look key (hkey op mem_cons_self)

lemma IsLocal.run_bubble (h:IsLocal keys apply) {op:ω} {front:List ω}
  (hfront:∀other∈front,∀key∈keys op,key ∉ keys other) (rest:List ω) (look:κ → ν) :
  run apply (front++op::rest) look=run apply (op::(front++rest)) look := by
 induction front generalizing look with
 | nil => rfl
 | cons other front ih =>
   have hother:=h.commute (hfront other mem_cons_self) look
   rw [cons_append,run_cons,ih fun o ho=>hfront o (mem_cons_of_mem other ho)]
   rw [run_cons,hother,cons_append]
   rfl

/-- Two runs of the same operations agree when they agree on the order at each key. -/
lemma IsLocal.run_eq [∀(key:κ) (op:ω),Decidable (key∈keys op)]
  (h:IsLocal keys apply) {ops ops':List ω} (hperm:ops.Perm ops')
  (horder:∀key,ops.filter (key∈keys ·)=ops'.filter (key∈keys ·)) (look:κ → ν) :
  run apply ops look=run apply ops' look := by
 induction ops generalizing ops' look with
 | nil => rw [hperm.nil_eq]
 | cons op ops ih =>
   obtain ⟨front,rest,rfl,hop⟩ :=
    eq_append_cons_of_mem (hperm.subset mem_cons_self)
   -- At a common key the operation comes first, so nothing before it shares a key with it.
   have hfront:∀other∈front,∀key∈keys op,key ∉ keys other := by
    intro other hother key hkey hmem
    have hcomm:other∈front.filter (key∈keys ·) :=
     mem_filter.mpr ⟨hother,decide_eq_true hmem⟩
    have heq:=horder key
    rw [filter_cons_of_pos (by simpa using hkey),filter_append] at heq
    cases hlist : front.filter (key∈keys ·) with
    | nil => rw [hlist] at hcomm; cases hcomm
    | cons first others =>
      rw [hlist,cons_append] at heq
      have hfirst:op∈front.filter (key∈keys ·) := by
       rw [hlist,(cons.inj heq).1]
       exact mem_cons_self
      exact hop (mem_filter.mp hfirst).1
   rw [h.run_bubble hfront rest look,run_cons,run_cons]
   refine ih ((hperm.trans perm_middle).cons_inv) (fun key=>?_) _
   have heq:=horder key
   rw [filter_append] at heq ⊢
   by_cases hkey : key∈keys op
   · have hnone:front.filter (key∈keys ·)=[] := by
      rw [filter_eq_nil_iff]
      intro other hother
      simpa using hfront other hother key hkey
     rw [hnone,filter_cons_of_pos (by simpa using hkey),
      filter_cons_of_pos (by simpa using hkey)] at heq
     rw [hnone]
     exact (cons.inj heq).2
   · rwa [filter_cons_of_neg (by simpa using hkey), filter_cons_of_neg (by simpa using hkey)] at heq

end EpistemicCompiler.LocalUpdates
