import EpistemicCompiler.StepPrograms

set_option autoImplicit false

/-!
# Programs that share their state

Other programs act on the state between two steps of a program. What a program may do is described
by a protocol: in each phase it may make certain changes, and a change leads to the next phase.
-/
namespace EpistemicCompiler.SharedPrograms
open StepPrograms StepPrograms.StepProgram List Function

variable {σ ε δ α β τ φ:Type}

section

def Preserves (view:σ → τ) : StepProgram σ ε α → Prop
 | .done _ => True
 | .step act next => ∀s,view (act s)=view s ∧ Preserves view (next s)

variable {view:σ → τ} {p:StepProgram σ ε α} {f:α → StepProgram σ ε β}

lemma Preserves.pure (a:α) : Preserves view (Pure.pure a : StepProgram σ ε α) := trivial

lemma Preserves.throw (e:ε) : Preserves view (StepProgram.throw e : StepProgram σ ε α) :=
 trivial

lemma Preserves.bind (h:Preserves view p) (hf:∀a,Preserves view (f a)) :
  Preserves view (p >>= f) := by
 induction p with
 | done r =>
   cases r with
   | ok a => exact hf a
   | error e => trivial
 | step act next ih => exact fun s=>⟨(h s).1,ih s (h s).2⟩

lemma Preserves.attempt (h:Preserves view p) :
  Preserves view (p.attempt : StepProgram σ δ (Except ε α)) := by
 induction p with
 | done r => trivial
 | step act next ih => exact fun s=>⟨(h s).1,ih s (h s).2⟩

lemma Preserves.atomic {f:σ → Except ε α×σ} (h:∀s,view (f s).2=view s) :
  Preserves view (StepProgram.atomic f) :=
 fun s=>⟨h s,trivial⟩

lemma Preserves.write {f:σ → σ} (h:∀s,view (f s)=view s) :
  Preserves view (StepProgram.write f : StepProgram σ ε Unit) :=
 fun s=>⟨h s,trivial⟩

lemma Preserves.read (f:σ → α) : Preserves view (StepProgram.read f : StepProgram σ ε α) :=
 fun _=>⟨rfl,trivial⟩

lemma Preserves.coarsen {τ':Type} {view':σ → τ'} (h:Preserves view p)
  (hview:∀s s',view s'=view s → view' s'=view' s) : Preserves view' p := by
 induction p with
 | done r => trivial
 | step act next ih => exact fun s=>⟨hview _ _ (h s).1,ih s (h s).2⟩

lemma Preserves.ite {c:Prop} [Decidable c] {q:StepProgram σ ε α} (hp:Preserves view p)
  (hq:Preserves view q) : Preserves view (if c then p else q) := by
 split
 · exact hp
 · exact hq

lemma Preserves.forM {g:α → StepProgram σ ε PUnit} (xs:List α)
  (h:∀x,Preserves view (g x)) : Preserves view (xs.forM g) := by
 induction xs with
 | nil => trivial
 | cons x xs ih => exact .bind (h x) fun _=>ih

end

section

/-- The program changes nothing that `view` sees. If it is total, it does not fail either. -/
def Still (view:σ → τ) (total:Bool) : StepProgram σ ε α → Prop
 | .done r => total=true → ∃a,r=.ok a
 | .step act next => ∀s,view (act s)=view s ∧ Still view total (next s)

variable {view:σ → τ} {total:Bool} {p:StepProgram σ ε α} {f:α → StepProgram σ ε β}

lemma Still.pure (a:α) : Still view total (Pure.pure a : StepProgram σ ε α) := fun _=>⟨a,rfl⟩

lemma Still.throw (e:ε) : Still view false (StepProgram.throw e : StepProgram σ ε α) := nofun

lemma Still.bind (h:Still view total p) (hf:∀a,Still view total (f a)) :
  Still view total (p >>= f) := by
 induction p with
 | done r =>
   cases r with
   | ok a => exact hf a
   | error e => exact fun htotal=>nomatch (h htotal).choose_spec
 | step act next ih => exact fun s=>⟨(h s).1,ih s (h s).2⟩

lemma Still.attempt (h:Still view false p) :
  Still view total (p.attempt : StepProgram σ δ (Except ε α)) := by
 induction p with
 | done r => exact fun _=>⟨r,rfl⟩
 | step act next ih => exact fun s=>⟨(h s).1,ih s (h s).2⟩

lemma Still.read (f:σ → α) : Still view total (StepProgram.read f : StepProgram σ ε α) :=
 fun _=>⟨rfl,fun _=>⟨_,rfl⟩⟩

lemma Still.ite {c:Prop} [Decidable c] {q:StepProgram σ ε α} (hp:Still view total p)
  (hq:Still view total q) : Still view total (if c then p else q) := by
 split
 · exact hp
 · exact hq

lemma Still.preserves (h:Still view total p) : Preserves view p := by
 induction p with
 | done r => trivial
 | step act next ih => exact fun s=>⟨(h s).1,ih s (h s).2⟩

lemma Still.safe {s t:σ} (h:Still view total p) (ht:view t=view s) :
  Safe (fun t=>view t=view s)
   (fun r t=>view t=view s ∧ (total=true → ∃a,r=.ok a)) p t := by
 induction p generalizing t with
 | done r => exact ⟨ht,h⟩
 | step act next ih => exact ⟨(h t).1.trans ht,ih t (h t).2 ((h t).1.trans ht)⟩

end

section

/-- In states that satisfy the guard the program does not change what `view` sees. -/
def Keeps (guard:σ → Prop) (view:σ → τ) : StepProgram σ ε α → Prop
 | .done _ => True
 | .step act next => ∀s,guard s → view (act s)=view s ∧ Keeps guard view (next s)

variable {guard:σ → Prop} {view:σ → τ} {p:StepProgram σ ε α}

lemma Preserves.keeps (h:Preserves view p) : Keeps guard view p := by
 induction p with
 | done r => trivial
 | step act next ih => exact fun s _=>⟨(h s).1,ih s (h s).2⟩

end

section

/-- From a phase the program makes only moves of the protocol, whatever happens to the state
between its steps, and ends with a result and a phase as `Q` says. -/
def Follows (moves:φ → σ → σ → φ → Prop) (Q:Except ε α → φ → Prop) :
    StepProgram σ ε α → φ → Prop
 | .done r, phase => Q r phase
 | .step act next, phase =>
   ∀s,∃phase',moves phase s (act s) phase' ∧ Follows moves Q (next s) phase'

variable {moves:φ → σ → σ → φ → Prop} {Q R:Except ε α → φ → Prop} {p:StepProgram σ ε α}
 {phase:φ}

lemma Follows.post (h:Follows moves Q p phase) (hQ:∀r ph,Q r ph → R r ph) :
  Follows moves R p phase := by
 induction p generalizing phase with
 | done r => exact hQ r phase h
 | step act next ih =>
   intro s
   obtain ⟨phase',hmove,hrest⟩:=h s
   exact ⟨phase',hmove,ih s hrest⟩

lemma Follows.weaken {moves':φ → σ → σ → φ → Prop} (h:Follows moves Q p phase)
  (hmoves:∀ph s s' ph',moves ph s s' ph' → moves' ph s s' ph') : Follows moves' Q p phase := by
 induction p generalizing phase with
 | done r => exact h
 | step act next ih =>
   intro s
   obtain ⟨phase',hmove,hrest⟩:=h s
   exact ⟨phase',hmoves _ _ _ _ hmove,ih s hrest⟩

def Resumes (moves:φ → σ → σ → φ → Prop) (R:Except ε β → φ → Prop)
    (f:α → StepProgram σ ε β) : Except ε α → φ → Prop
 | .ok a, phase => Follows moves R (f a) phase
 | .error e, phase => R (.error e) phase

lemma Follows.bind {R:Except ε β → φ → Prop} {f:α → StepProgram σ ε β}
  (h:Follows moves (Resumes moves R f) p phase) : Follows moves R (p >>= f) phase := by
 induction p generalizing phase with
 | done r =>
   cases r with
   | ok a => exact h
   | error e => exact h
 | step act next ih =>
   intro s
   obtain ⟨phase',hmove,hrest⟩:=h s
   exact ⟨phase',hmove,ih s hrest⟩

lemma Follows.attempt {R:Except δ (Except ε α) → φ → Prop}
  (h:Follows moves (fun r ph=>R (.ok r) ph) p phase) : Follows moves R p.attempt phase := by
 induction p generalizing phase with
 | done r => exact h
 | step act next ih =>
   intro s
   obtain ⟨phase',hmove,hrest⟩:=h s
   exact ⟨phase',hmove,ih s hrest⟩

lemma Follows.atomic {f:σ → Except ε α×σ}
  (h:∀s,∃phase',moves phase s (f s).2 phase' ∧ Q (f s).1 phase') :
  Follows moves Q (StepProgram.atomic f) phase :=
 h

lemma Follows.write {Q:Except ε Unit → φ → Prop} {f:σ → σ} {phase':φ}
  (hmove:∀s,moves phase s (f s) phase') (hQ:Q (.ok ()) phase') :
  Follows moves Q (StepProgram.write f) phase :=
 fun s=>⟨phase',hmove s,hQ⟩

lemma Preserves.follows {view:σ → τ} (h:Preserves view p)
  (hstay:∀s s',view s'=view s → moves phase s s' phase) (hQ:∀r,Q r phase) :
  Follows moves Q p phase := by
 induction p with
 | done r => exact hQ r
 | step act next ih => exact fun s=>⟨phase,hstay _ _ (h s).1,ih s (h s).2⟩

lemma Follows.preserves {view:σ → τ} (h:Follows moves Q p phase)
  (hmoves:∀ph s s' ph',moves ph s s' ph' → view s'=view s) : Preserves view p := by
 induction p generalizing phase with
 | done r => trivial
 | step act next ih =>
   intro s
   obtain ⟨phase',hmove,hrest⟩:=h s
   exact ⟨hmoves _ _ _ _ hmove,ih s hrest⟩

end

section

/-- The program alone changes what `view` sees. Every view it leaves satisfies `I`, and the last one
satisfies `Q` with the result. -/
def Alone (view:σ → τ) (I:τ → Prop) (Q:Except ε α → τ → Prop) :
    StepProgram σ ε α → τ → Prop
 | .done r, v => Q r v
 | .step act next, v => ∀s,view s=v →
   I (view (act s)) ∧ Alone view I Q (next s) (view (act s))

variable {view:σ → τ} {I:τ → Prop} {Q R:Except ε α → τ → Prop} {p:StepProgram σ ε α}
 {v:τ}

lemma Alone.mono {J:τ → Prop} (h:Alone view I Q p v) (hI:∀v,I v → J v)
  (hQ:∀r v,Q r v → R r v) : Alone view J R p v := by
 induction p generalizing v with
 | done r => exact hQ r v h
 | step act next ih => exact fun s hs=>⟨hI _ (h s hs).1,ih s (h s hs).2⟩

lemma Alone.trivial (p:StepProgram σ ε α) (v:τ) :
  Alone view (fun _=>True) (fun _ _=>True) p v := by
 induction p generalizing v with
 | done r => exact True.intro
 | step act next ih => exact fun s _=>⟨True.intro,ih s _⟩

lemma Alone.bind {R:Except ε β → τ → Prop} {f:α → StepProgram σ ε β}
  (h:Alone view I Q p v) (hok:∀a v,Q (.ok a) v → Alone view I R (f a) v)
  (herror:∀e v,Q (.error e) v → R (.error e) v) : Alone view I R (p >>= f) v := by
 induction p generalizing v with
 | done r =>
   cases r with
   | ok a => exact hok a v h
   | error e => exact herror e v h
 | step act next ih => exact fun s hs=>⟨(h s hs).1,ih s (h s hs).2⟩

lemma Alone.write {Q:Except ε Unit → τ → Prop} {f:σ → σ} {v':τ}
  (hf:∀s,view s=v → view (f s)=v') (hI:I v') (hQ:Q (.ok ()) v') :
  Alone view I Q (StepProgram.write f) v := by
 intro s hs
 rw [hf s hs]
 exact ⟨hI,hQ⟩

lemma Follows.alone {moves:φ → σ → σ → φ → Prop} {Q:Except ε α → φ → Prop} {phase:φ}
  {Inv:φ → τ → Prop}
  (hInv:∀ph s s' ph',Inv ph (view s) → moves ph s s' ph' → Inv ph' (view s'))
  (h:Follows moves Q p phase) (hv:Inv phase v) :
  Alone view (fun v=>∃ph,Inv ph v) (fun r v=>∃ph,Q r ph ∧ Inv ph v) p v := by
 induction p generalizing phase v with
 | done r => exact ⟨phase,h,hv⟩
 | step act next ih =>
   rintro s rfl
   obtain ⟨phase',hmove,hrest⟩:=h s
   have hnext:=hInv phase s (act s) phase' hv hmove
   exact ⟨⟨phase',hnext⟩,ih s hrest hnext⟩

end

section

/-- Every program of a pool, each with its own tag, follows the protocol of its tag from the phase
in which it stands. -/
def Standing (moves:τ → φ → σ → σ → φ → Prop) (phase:ℕ → φ)
    (pool:List (τ×StepProgram σ ε α)) : Prop :=
 ∀i tag p,pool[i]?=some (tag,p) → Follows (moves tag) (fun _ _=>True) p (phase i)

variable {moves:τ → φ → σ → σ → φ → Prop} {phase:ℕ → φ}
 {pool:List (τ×StepProgram σ ε α)} {tag:τ}

lemma standing_nil :
  Standing moves phase ([] : List (τ×StepProgram σ ε α)) := by
 intro i tag p hi
 cases hi

lemma Standing.spawn (h:Standing moves phase pool) {p:StepProgram σ ε α} {start:φ}
  (hp:Follows (moves tag) (fun _ _=>True) p start) :
  Standing moves (Function.update phase pool.length start) (pool++[(tag,p)]) := by
 intro i tag' p' hi
 rcases Nat.lt_trichotomy i pool.length with hlt | heq | hgt
 · rw [getElem?_append_left hlt] at hi
   rw [update_of_ne (Nat.ne_of_lt hlt)]
   exact h i tag' p' hi
 · subst heq
   rw [getElem?_concat_length] at hi
   cases hi
   rw [update_self]
   exact hp
 · rw [getElem?_eq_none (by simp; omega)] at hi
   cases hi

lemma Standing.step (h:Standing moves phase pool) {i:ℕ} {act:σ → σ}
  {next:σ → StepProgram σ ε α} (hi:pool[i]?=some (tag,.step act next)) (s:σ) :
  ∃phase',moves tag (phase i) s (act s) phase' ∧
    Standing moves (Function.update phase i phase') (pool.set i (tag,next s)) := by
 obtain ⟨phase',hmove,hrest⟩:=h i tag _ hi s
 refine ⟨phase',hmove,?_⟩
 intro k tag' p' hk
 by_cases hik : k=i
 · subst hik
   have hlt:k<pool.length:=(List.getElem?_eq_some_iff.mp hi).1
   rw [getElem?_set_self hlt] at hk
   cases hk
   rw [update_self]
   exact hrest
 · rw [getElem?_set_ne (Ne.symm hik)] at hk
   rw [update_of_ne hik]
   exact h k tag' p' hk

end

end EpistemicCompiler.SharedPrograms
