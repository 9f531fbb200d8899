import Mathlib.Data.List.Basic
import Mathlib.Tactic.Cases

set_option autoImplicit false

/-!
# Runs of a fallible step function

A step function may reject an event. The trace of a run lists the states it visits,
the first one included, and exists only when every event is accepted.
-/
namespace EpistemicCompiler.FallibleRuns
open List Option Except

section Except

variable {ε α β:Type}

lemma ok_bind (x:α) (f:α → Except ε β) : (Except.ok x >>= f)=f x :=
 rfl

variable {x:Except ε α} {f:α → Except ε β} {l:List α}

lemma bind_eq_ok {b:β} (h:x >>= f=.ok b) : ∃a,x=.ok a ∧ f a=.ok b := by
 cases x with
 | error e => cases h
 | ok a => exact ⟨a,rfl,h⟩

lemma bind_ok_iff {b:β} : (x >>= f)=.ok b ↔ ∃a,x=.ok a ∧ f a=.ok b := by
 constructor
 · exact bind_eq_ok
 · rintro ⟨a,rfl,h⟩
   exact h

lemma check_bind_ok_iff {x:Except ε Unit} {f:Unit → Except ε β} {b:β} :
  (x >>= f)=.ok b ↔ x=.ok () ∧ f ()=.ok b := by
 cases x with
 | error e => exact iff_of_false (fun h=>by cases h) (fun h=>by cases h.1)
 | ok a => exact (and_iff_right rfl).symm

lemma exists_bind_pure_ok_iff {f:α → β} :
  (∃b,(do let a ← x; pure (f a))=Except.ok b) ↔ ∃a,x=.ok a := by
 cases x with
 | error e => exact iff_of_false (fun ⟨_,h⟩=>by cases h) (fun ⟨_,h⟩=>by cases h)
 | ok a => exact iff_of_true ⟨f a,rfl⟩ ⟨a,rfl⟩

lemma exists_ok_of_any {p:α → Bool} (h:x.toOption.any p=true) :
  ∃a,x=.ok a ∧ p a=true := by
 cases x with
 | error e => cases h
 | ok a => exact ⟨a,rfl,h⟩

lemma exists_ok_of_isOk (h:x.isOk=true) : ∃a,x=.ok a := by
 cases x with
 | error e => cases h
 | ok a => exact ⟨a,rfl⟩

lemma mapM_ok (g:α → β) (l:List α)
  (h:∀x∈l,f x=.ok (g x)) : l.mapM f=.ok (l.map g) := by
 induction l with
 | nil => rfl
 | cons x l ih =>
   rw [mapM_cons,h x (by simp),ih (fun y hy=>h y (by simp [hy]))]
   rfl

lemma mapM_forall₂ {r:List β} (h:l.mapM f=.ok r) :
  List.Forall₂ (fun x y=>f x=.ok y) l r := by
 induction l generalizing r with
 | nil =>
   cases h
   exact .nil
 | cons x l ih =>
   rw [mapM_cons] at h
   obtain ⟨y,hy,h⟩:=bind_eq_ok h
   obtain ⟨ys,hys,h⟩:=bind_eq_ok h
   cases h
   exact .cons hy (ih hys)

lemma mem_of_mapM_ok {r:List β} (h:l.mapM f=.ok r) {y:β} (hy:y∈r) :
  ∃x∈l,f x=.ok y := by
 have hall:=mapM_forall₂ h
 clear h
 induction hall with
 | nil => cases hy
 | cons hfirst _ ih =>
   rcases mem_cons.mp hy with rfl | hy
   · exact ⟨_,mem_cons_self,hfirst⟩
   · obtain ⟨x,hx,hfx⟩:=ih hy
     exact ⟨x,mem_cons_of_mem _ hx,hfx⟩

lemma exists_mapM_ok_iff :
  (∃r,l.mapM f=.ok r) ↔ ∀x∈l,∃y,f x=.ok y := by
 induction l with
 | nil => exact iff_of_true ⟨[],rfl⟩ (by simp)
 | cons x l ih =>
   rw [forall_mem_cons,← ih,mapM_cons]
   constructor
   · intro ⟨r,h⟩
     obtain ⟨y,hy,h⟩:=bind_eq_ok h
     obtain ⟨ys,hys,-⟩:=bind_eq_ok h
     exact ⟨⟨y,hy⟩,ys,hys⟩
   · intro ⟨⟨y,hy⟩,ys,hys⟩
     rw [hy,hys]
     exact ⟨y::ys,rfl⟩

lemma mapError_ok {ε':Type} {f:ε → ε'} {a:α} (h:x.mapError f=.ok a) : x=.ok a := by
 cases x with
 | error e => cases h
 | ok b => exact congrArg ok (ok.inj h)

lemma forM_ok {f:α → Except ε Unit} (h:l.forM f=.ok ()) : ∀x∈l,f x=.ok () := by
 induction l with
 | nil => simp
 | cons x l ih =>
   obtain ⟨_,hx,hl⟩:=bind_eq_ok h
   intro y hy
   rcases mem_cons.mp hy with rfl | hy
   · exact hx
   · exact ih hl y hy

lemma forM_ok_iff {f:α → Except ε Unit} : l.forM f=.ok () ↔ ∀x∈l,f x=.ok () := by
 refine ⟨forM_ok,fun h=>?_⟩
 induction l with
 | nil => rfl
 | cons x l ih =>
   have hrest:=ih fun y hy=>h y (mem_cons_of_mem _ hy)
   rw [List.forM,h x List.mem_cons_self]
   exact hrest

lemma filterM_eq_ok_iff {f:α → Except ε Bool} {r:List α} :
  l.filterM f=.ok r ↔
   (∀x∈l,∃b,f x=.ok b) ∧ r=l.filter fun x=>(f x).toOption.getD false := by
 -- The library's loop collects the kept elements in reverse.
 have hloop:∀acc,l.filterAuxM f acc=.ok r.reverse ↔ (∀x∈l,∃b,f x=.ok b) ∧
    r.reverse=(l.filter fun x=>(f x).toOption.getD false).reverse++acc := by
  induction l with
  | nil =>
    intro acc
    simp only [List.filterAuxM,pure,Except.pure,Except.ok.injEq]
    simp [eq_comm]
  | cons x l ih =>
    intro acc
    rw [List.filterAuxM]
    cases hx : f x with
    | error e => simp [bind,Except.bind,hx]
    | ok b =>
      rw [ok_bind,ih]
      cases b <;> simp [hx,Except.toOption]
 have hnil:=hloop []
 rw [List.append_nil,List.reverse_inj] at hnil
 rw [← hnil,List.filterM]
 constructor
 · intro h
   obtain ⟨kept,hkept,h⟩:=bind_eq_ok h
   cases h
   rw [hkept,List.reverse_reverse]
 · intro h
   rw [h,ok_bind,List.reverse_reverse]
   rfl

def Raises (p:ε → Prop) (x:Except ε α) : Prop :=
 ∀e,x=.error e → p e

lemma raises_ok (p:ε → Prop) (a:α) : Raises p (.ok a) := by
 intro e h
 cases h

lemma Raises.bind {p:ε → Prop} (hx:Raises p x)
  (hf:∀a,Raises p (f a)) : Raises p (x >>= f) := by
 intro e h
 cases x with
 | error e' => exact hx e (congrArg error (error.inj h))
 | ok a => exact hf a e h

lemma raises_filterM {p:ε → Prop} {f:α → Except ε Bool} (hf:∀x,Raises p (f x))
  (l:List α) : Raises p (l.filterM f) := by
 have hloop:∀acc,Raises p (l.filterAuxM f acc) := by
  induction l with
  | nil => exact fun acc=>raises_ok p acc
  | cons x l ih =>
    intro acc
    exact (hf x).bind fun b=>ih _
 exact (hloop []).bind fun kept=>raises_ok p _

lemma raises_allM {p:ε → Prop} {f:α → Except ε Bool} (hf:∀x,Raises p (f x))
  (l:List α) : Raises p (l.allM f) := by
 induction l with
 | nil => exact raises_ok p true
 | cons x l ih =>
   refine (hf x).bind fun b=>?_
   cases b with
   | false => exact raises_ok p false
   | true => exact ih

lemma allM_true {f:α → Except ε Bool} (h:l.allM f=.ok true) : ∀x∈l,f x=.ok true := by
 induction l with
 | nil => simp
 | cons x l ih =>
   obtain ⟨b,hx,h⟩:=bind_eq_ok h
   cases b with
   | false => cases h
   | true =>
     intro y hy
     rcases mem_cons.mp hy with rfl | hy
     · exact hx
     · exact ih h y hy

lemma allM_ok {f:α → Except ε Bool} {g:α → Bool} (h:∀x∈l,f x=.ok (g x)) :
  l.allM f=.ok (l.all g) := by
 induction l with
 | nil => rfl
 | cons x l ih =>
   rw [allM,h x (by simp),ok_bind,all_cons]
   cases g x with
   | false => rfl
   | true => exact ih fun y hy=>h y (by simp [hy])

lemma foldlM_invariant {f:β → α → Except ε β} (p:β → Prop)
  (hstep:∀a∈l,∀b b',p b → f b a=.ok b' → p b') {b r:β} (hb:p b)
  (h:l.foldlM f b=.ok r) : p r := by
 induction l generalizing b with
 | nil =>
   cases h
   exact hb
 | cons a l ih =>
   obtain ⟨b',hfirst,h⟩:=bind_eq_ok h
   exact ih (fun x hx=>hstep x (by simp [hx])) (hstep a (by simp) b b' hb hfirst) h

lemma exists_turn_of_foldlM {f:β → α → Except ε β} {b r:β}
  (h:l.foldlM f b=.ok r) : ∀a∈l,∃c c',f c a=.ok c' := by
 induction l generalizing b with
 | nil => simp
 | cons a l ih =>
   obtain ⟨b',hfirst,h⟩:=bind_eq_ok h
   exact forall_mem_cons.mpr ⟨⟨b,b',hfirst⟩,ih h⟩

lemma exists_foldlM {f:β → α → Except ε β} (p:List α → β → Prop)
  (hstep:∀a l b,p (a::l) b → ∃b',f b a=.ok b' ∧ p l b') {b:β}
  (hb:p l b) : ∃r,l.foldlM f b=.ok r ∧ p [] r := by
 induction l generalizing b with
 | nil => exact ⟨b,rfl,hb⟩
 | cons a l ih =>
   obtain ⟨b',hfirst,hb'⟩:=hstep a l b hb
   obtain ⟨r,hr,hp⟩:=ih hb'
   refine ⟨r,?_,hp⟩
   rw [foldlM_cons,hfirst,ok_bind]
   exact hr

end Except

variable {ε σ α:Type}

def trace (step:σ → α → Except ε σ) : σ → List α → Except ε (List σ)
 | s, [] => .ok [s]
 | s, e::es => do
   let s' ← step s e
   let rest ← trace step s' es
   return s::rest

section Trace

variable {step:σ → α → Except ε σ} {s:σ} {es:List α} {ss:List σ}

lemma trace_cons {e:α} (h:trace step s (e::es)=.ok ss) :
  ∃s' rest,step s e=.ok s' ∧ trace step s' es=.ok rest ∧ ss=s::rest := by
 obtain ⟨s',hs',h⟩:=bind_eq_ok h
 obtain ⟨rest,hrest,h⟩:=bind_eq_ok h
 exact ⟨s',rest,hs',hrest,(ok.inj h).symm⟩

variable (h:trace step s es=.ok ss)
include h

lemma trace_head : ss[0]?=some s := by
 cases es with
 | nil =>
   cases h
   rfl
 | cons e es =>
   obtain ⟨s',rest,-,-,rfl⟩:=trace_cons h
   rfl

lemma trace_length : ss.length=es.length+1 := by
 induction es generalizing s ss with
 | nil =>
   cases h
   rfl
 | cons e es ih =>
   obtain ⟨s',rest,-,hrest,rfl⟩:=trace_cons h
   simp [ih hrest]

lemma trace_step {i:ℕ} {t':σ} (hi:ss[i+1]?=some t') :
  ∃t e,ss[i]?=some t ∧ es[i]?=some e ∧ step t e=.ok t' := by
 induction es generalizing s ss i with
 | nil =>
   cases h
   simp at hi
 | cons e es ih =>
   obtain ⟨s',rest,hs',hrest,rfl⟩:=trace_cons h
   rw [getElem?_cons_succ] at hi
   cases i with
   | zero =>
     rw [trace_head hrest,some.injEq] at hi
     exact ⟨s,e,rfl,rfl,hi ▸ hs'⟩
   | succ i =>
     obtain ⟨t,e',ht,he',hstep⟩:=ih hrest hi
     exact ⟨t,e',by simpa using ht,by simpa using he',hstep⟩

/-- A run that ends inside `P` and starts outside of it has a last step into `P`. -/
lemma trace_lastEntry (P:σ → Prop) (h0:¬ P s) {n:ℕ} {t:σ} (hn:ss[n]?=some t)
  (ht:P t) :
  ∃k u e u',ss[k]?=some u ∧ es[k]?=some e ∧ ss[k+1]?=some u' ∧ step u e=.ok u' ∧
    k<n ∧ ¬ P u ∧ P u' ∧ ∀j v,k<j → j ≤ n → ss[j]?=some v → P v := by
 induction n generalizing t with
 | zero =>
   rw [trace_head h,some.injEq] at hn
   exact absurd (hn ▸ ht) h0
 | succ n ih =>
   obtain ⟨u,e,hu,he,hs⟩:=trace_step h hn
   by_cases hPu : P u
   · obtain ⟨k,w,e',w',hw,he',hw',hs',hk,hPw,hPw',hall⟩:=ih hu hPu
     refine ⟨k,w,e',w',hw,he',hw',hs',by omega,hPw,hPw',fun j v hkj hj hv=>?_⟩
     rcases Nat.lt_or_eq_of_le hj with hlt | rfl
     · exact hall j v hkj (by omega) hv
     · rw [hn,some.injEq] at hv
       exact hv ▸ ht
   · refine ⟨n,u,e,t,hu,he,hn,hs,by omega,hPu,ht,fun j v hnj hj hv=>?_⟩
     obtain rfl : j=n+1 := by omega
     rw [hn,some.injEq] at hv
     exact hv ▸ ht

end Trace

end EpistemicCompiler.FallibleRuns
