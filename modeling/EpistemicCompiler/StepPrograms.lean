import Mathlib.Data.List.Basic

set_option autoImplicit false

/-!
# Programs that can stop between two steps

A `StepProgram` is a sequence of atomic steps on a shared state. A process that dies leaves the
state after some step behind, so a program is specified by an invariant of every state it visits and
a postcondition of the state it ends in.
-/
namespace EpistemicCompiler.StepPrograms
open List

/-- Each step changes the state and chooses the rest from the state it found. -/
inductive StepProgram (σ ε α:Type) where
 | done (result:Except ε α)
 | step (act:σ → σ) (next:σ → StepProgram σ ε α)

variable {σ ε δ α β:Type}

namespace StepProgram

def bind : StepProgram σ ε α → (α → StepProgram σ ε β) → StepProgram σ ε β
 | .done (.ok a), f => f a
 | .done (.error e), _ => .done (.error e)
 | .step act next, f => .step act fun s=>(next s).bind f

instance : Monad (StepProgram σ ε) where
 pure a := .done (.ok a)
 bind := bind

def throw (e:ε) : StepProgram σ ε α := .done (.error e)

def atomic (f:σ → Except ε α×σ) : StepProgram σ ε α :=
 .step (fun s=>(f s).2) fun s=>.done (f s).1

def write (f:σ → σ) : StepProgram σ ε Unit := atomic fun s=>(.ok (),f s)

def read (f:σ → α) : StepProgram σ ε α := atomic fun s=>(.ok (f s),s)

def attempt : StepProgram σ ε α → StepProgram σ δ (Except ε α)
 | .done r => .done (.ok r)
 | .step act next => .step act fun s=>(next s).attempt

def run : StepProgram σ ε α → σ → Except ε α×σ
 | .done r, s => (r,s)
 | .step act next, s => (next s).run (act s)

def advance : ℕ → StepProgram σ ε α → σ → StepProgram σ ε α×σ
 | n+1, .step act next, s => advance n (next s) (act s)
 | _, p, s => (p,s)

def states : StepProgram σ ε α → σ → List σ
 | .done _, s => [s]
 | .step act next, s => s::(next s).states (act s)

end StepProgram

open StepProgram

section

/-- Every state after a step satisfies the invariant, and the end satisfies the postcondition. -/
def Safe (I:σ → Prop) (Q:Except ε α → σ → Prop) : StepProgram σ ε α → σ → Prop
 | .done r, s => Q r s
 | .step act next, s => I (act s) ∧ Safe I Q (next s) (act s)

variable {I J:σ → Prop} {Q R:Except ε α → σ → Prop} {p:StepProgram σ ε α} {s:σ}

lemma Safe.run_post (h:Safe I Q p s) : Q (p.run s).1 (p.run s).2 := by
 induction p generalizing s with
 | done r => exact h
 | step act next ih => exact ih s h.2

lemma Safe.states_invariant (h:Safe I Q p s) (hs:I s) : ∀t∈p.states s,I t := by
 induction p generalizing s with
 | done r => simpa [StepProgram.states] using hs
 | step act next ih =>
   intro t ht
   rcases mem_cons.mp ht with rfl | ht
   · exact hs
   · exact ih s h.2 h.1 t ht

lemma Safe.mono (h:Safe I Q p s) (hI:∀t,I t → J t) (hQ:∀r t,Q r t → R r t) :
  Safe J R p s := by
 induction p generalizing s with
 | done r => exact hQ r s h
 | step act next ih => exact ⟨hI _ h.1,ih s h.2⟩

lemma Safe.post (h:Safe I Q p s) (hQ:∀r t,Q r t → R r t) : Safe I R p s :=
 h.mono (fun _ ht=>ht) hQ

/-- What the rest of a program has to establish after a first part has ended. -/
def Continues (I:σ → Prop) (R:Except ε β → σ → Prop) (f:α → StepProgram σ ε β) :
    Except ε α → σ → Prop
 | .ok a, t => Safe I R (f a) t
 | .error e, t => R (.error e) t

lemma Safe.bind {R:Except ε β → σ → Prop} {f:α → StepProgram σ ε β}
  (h:Safe I (Continues I R f) p s) : Safe I R (p >>= f) s := by
 induction p generalizing s with
 | done r =>
   cases r with
   | ok a => exact h
   | error e => exact h
 | step act next ih => exact ⟨h.1,ih s h.2⟩

lemma Safe.attempt {R:Except δ (Except ε α) → σ → Prop}
  (h:Safe I (fun r t=>R (.ok r) t) p s) : Safe I R p.attempt s := by
 induction p generalizing s with
 | done r => exact h
 | step act next ih => exact ⟨h.1,ih s h.2⟩

lemma Safe.atomic {f:σ → Except ε α×σ} (hI:I (f s).2) (hQ:Q (f s).1 (f s).2) :
  Safe I Q (StepProgram.atomic f) s := ⟨hI,hQ⟩

lemma Safe.write {Q:Except ε Unit → σ → Prop} {f:σ → σ} (hI:I (f s))
  (hQ:Q (.ok ()) (f s)) : Safe I Q (StepProgram.write f) s := ⟨hI,hQ⟩

lemma Safe.read {f:σ → α} (hI:I s) (hQ:Q (.ok (f s)) s) :
  Safe I Q (StepProgram.read f) s := ⟨hI,hQ⟩

end

section

def Visits (T:σ → Prop) (p:StepProgram σ ε α) (s:σ) : Prop := ∃t∈p.states s,T t

variable {T:σ → Prop} {p:StepProgram σ ε α} {f:α → StepProgram σ ε β} {s s':σ} {a:α}

lemma run_bind (h:p.run s=(.ok a,s')) : (p >>= f).run s=(f a).run s' := by
 induction p generalizing s with
 | done r =>
   obtain ⟨rfl,rfl⟩:=Prod.mk.inj h
   rfl
 | step act next ih => exact ih s h

lemma self_mem_states : s∈p.states s := by
 cases p <;> simp [StepProgram.states]

lemma Visits.last (h:T (p.run s).2) : Visits T p s := by
 induction p generalizing s with
 | done r => exact ⟨s,self_mem_states,h⟩
 | step act next ih =>
   obtain ⟨t,ht,hT⟩:=ih s h
   exact ⟨t,mem_cons_of_mem _ ht,hT⟩

lemma Visits.left (h:Visits T p s) : Visits T (p >>= f) s := by
 obtain ⟨t,ht,hT⟩:=h
 refine ⟨t,?_,hT⟩
 induction p generalizing s with
 | done r =>
   obtain rfl : t=s := by simpa [StepProgram.states] using ht
   exact self_mem_states
 | step act next ih =>
   rcases mem_cons.mp ht with rfl | ht
   · exact self_mem_states
   · exact mem_cons_of_mem _ (ih s ht)

lemma Visits.right (h:p.run s=(.ok a,s')) (hf:Visits T (f a) s') :
  Visits T (p >>= f) s := by
 obtain ⟨t,ht,hT⟩:=hf
 refine ⟨t,?_,hT⟩
 induction p generalizing s with
 | done r =>
   obtain ⟨rfl,rfl⟩:=Prod.mk.inj h
   exact ht
 | step act next ih => exact mem_cons_of_mem _ (ih s h)

lemma Visits.attempt (h:Visits T p s) : Visits T (p.attempt : StepProgram σ δ _) s := by
 obtain ⟨t,ht,hT⟩:=h
 refine ⟨t,?_,hT⟩
 induction p generalizing s with
 | done r => exact ht
 | step act next ih =>
   rcases mem_cons.mp ht with rfl | ht
   · exact self_mem_states
   · exact mem_cons_of_mem _ (ih s ht)

end

end EpistemicCompiler.StepPrograms
