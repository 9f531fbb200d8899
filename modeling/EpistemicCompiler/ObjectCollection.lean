import EpistemicCompiler.ContentRecords
import EpistemicCompiler.SharedPrograms

set_option autoImplicit false

/-!
# Collection of stored objects

One digest of a project is followed. Calls on it hold its lock. `markUnreachable` and
`sweepQuarantine` take no lock, so their steps fall anywhere between the steps of the calls.
-/
namespace EpistemicCompiler.ObjectCollection
open StepPrograms StepPrograms.StepProgram SharedPrograms List
open ContentRecords (CasErrorCode)

variable {β:Type}

section Model

structure World (β:Type) where
 object : Option β
 quarantine : String → Option β
 forbidden : Bool

abbrev Program (β α:Type) := StepProgram (World β) CasErrorCode α

inductive Linked where
 | linked
 | taken
 | missing

def isFile : Program β Bool := .read fun w=>w.object.isSome

def isGcForbidden : Program β Bool := .read World.forbidden

def link (date:String) : Program β Linked := .atomic fun w=>
 match w.object, w.quarantine date with
 | none, _ => (.ok .missing,w)
 | some _, some _ => (.ok .taken,w)
 | some blob, none =>
   (.ok .linked,{ w with quarantine:=Function.update w.quarantine date (some blob) })

def unlink : Program β Bool := .atomic fun w=>(.ok w.object.isSome,{ w with object:=none })

/-- Where files cannot be linked they are copied, with the same three outcomes. -/
def moveToQuarantine (date:String) : Program β Unit := do
 match ← link date with
 | .missing => return ()
 | .linked =>
   let _ ← unlink
   return ()
 | .taken =>
   if !(← unlink) then
    throw (.other "ENOENT")

/-- `decrypt` parses a blob, unwraps its key and decrypts it; `bytes` stand for the digest. -/
structure Env (β:Type) where
 decrypt : β → Except CasErrorCode (List UInt8)
 bytes : List UInt8

variable (env:Env β)

def verify (blob:β) : Except CasErrorCode (List UInt8) := do
 let plaintext ← env.decrypt blob
 if plaintext=env.bytes then
  return plaintext
 else .error .corrupt

def readVerified (date:String) : Program β (Option (List UInt8)) := do
 if !(← isFile) then
  return none
 match ← (.read World.object : Program β (Option β)) with
 | none => return none
 | some blob =>
   match verify env blob with
   | .ok plaintext => return some plaintext
   | .error .corrupt | .error .truncated =>
     moveToQuarantine date
     return none
   | .error code => throw code

def getLocked (date:String) : Program β (List UInt8) := do
 match ← readVerified env date with
 | some plaintext => return plaintext
 | none =>
   if ← isFile then
    moveToQuarantine date
   throw .notFound

/-- `true` where the staged file was installed, `false` where there was an object already. -/
def exclusiveInstall (staged:β) : Program β Bool := .atomic fun w=>
 match w.object with
 | some _ => (.ok false,w)
 | none => (.ok true,{ w with object:=some staged })

inductive Call (β:Type) where
 | put (staged:β) (sink:Except CasErrorCode Unit) (securityCritical:Bool) (date:String)
 | get (date:String)

/-- A verified object that is there is reused; only its record may be missing. -/
def reuse (sink:Except CasErrorCode Unit) (date:String)
    (otherwise:Program β (List UInt8)) : Program β (List UInt8) := do
 if (← readVerified env date).isSome then
  .done (sink.map fun _=>env.bytes)
 else otherwise

def putLocked (staged:β) (sink:Except CasErrorCode Unit) (securityCritical:Bool)
    (date:String) : Program β (List UInt8) :=
 reuse env sink date do
  let _ ← .done (verify env staged)
  if ← exclusiveInstall staged then
   .done sink
   if securityCritical then
    let _ ← getLocked env date
   return env.bytes
  else reuse env sink date do
   moveToQuarantine date
   throw .corrupt

def Call.program : Call β → Program β (List UInt8)
 | .put staged sink securityCritical date => putLocked env staged sink securityCritical date
 | .get date => getLocked env date

/-- `reachable` says whether the digest is in the set that is passed. -/
def markUnreachableObjects (reachable:Bool) (date:String) : Program β Unit := do
 if !(← isFile) then
  return ()
 if reachable then
  return ()
 if ← isGcForbidden then
  return ()
 moveToQuarantine date

def sweepQuarantineObjects (folders:List String) : Program β Unit :=
 folders.forM fun date=>do
  if !(← (.read fun w=>(w.quarantine date).isSome : Program β Bool)) then
   return ()
  if ← isGcForbidden then
   return ()
  .write fun w=>{ w with quarantine:=Function.update w.quarantine date none }

inductive Task where
 | mark (reachable:Bool) (date:String)
 | sweep (folders:List String)

def Task.program : Task → Program β Unit
 | .mark reachable date => markUnreachableObjects reachable date
 | .sweep folders => sweepQuarantineObjects folders

def Task.spares : Task → Bool
 | .mark reachable _ => reachable
 | .sweep _ => true

/-- `returned` begins with the call that returned last. -/
structure State (β:Type) where
 world : World β
 running : Option (Call β×Program β (List UInt8))
 tasks : List (Task×Program β Unit)
 returned : List (Call β×Except CasErrorCode (List UInt8))

inductive Move (β:Type) where
 | enter (call:Call β)
 | proceed
 | leave
 | start (task:Task)
 | collect (i:ℕ)
 | occupy (forbidden:Bool)

def step (s:State β) : Move β → Option (State β)
 | .enter call =>
   match s.running with
   | some _ => none
   | none => some { s with running:=some (call,call.program env) }
 | .proceed =>
   match s.running with
   | some (call,.step act next) =>
     some { s with world:=act s.world, running:=some (call,next s.world) }
   | _ => none
 | .leave =>
   match s.running with
   | some (call,.done r) => some { s with running:=none, returned:=(call,r)::s.returned }
   | _ => none
 | .start task => some { s with tasks:=s.tasks++[(task,task.program)] }
 | .collect i =>
   match s.tasks[i]? with
   | some (task,.step act next) =>
     some { s with world:=act s.world, tasks:=s.tasks.set i (task,next s.world) }
   | _ => none
 | .occupy forbidden => some { s with world:={ s.world with forbidden } }

def run (kept:State β → Bool) : List (Move β) → State β → Option (State β)
 | [], s => some s
 | move::moves, s => do
   let s ← step env s move
   if kept s then run kept moves s else none

/-- No collection is under way whose set lacks the digest. -/
def State.quiet (s:State β) : Bool :=
 s.tasks.all fun task=>task.1.spares || match task.2 with
  | .done _ => true
  | .step _ _ => false

/-- The digest is protected: `isGcForbidden` says so, or every collection under way knows it. -/
def State.kept (s:State β) : Bool :=
 s.world.forbidden || s.quiet

def State.initial (world:World β) : State β := ⟨world,none,[],[]⟩

end Model

section Objects

variable {env:Env β} {blob:β} {plaintext:List UInt8} {date:String}

def Good (env:Env β) (object:Option β) : Prop :=
 ∃blob plaintext,object=some blob ∧ verify env blob=.ok plaintext

lemma readVerified_verified (h:verify env blob=.ok plaintext) :
  Alone World.object (·=some blob) (fun r v=>r=.ok (some plaintext) ∧ v=some blob)
   (readVerified env date) (some blob) := by
 intro w hw
 refine ⟨hw,?_⟩
 change Alone _ _ _ (if (!w.object.isSome)=true then _ else _) _
 rw [hw]
 intro w hw
 refine ⟨hw,?_⟩
 change Alone _ _ _ (match w.object with | none => _ | some blob => _) _
 rw [hw]
 dsimp only
 rw [h]
 exact ⟨rfl,rfl⟩

def Found (env:Env β) (r:Except CasErrorCode (Option (List UInt8))) (object:Option β) : Prop :=
 ∀plaintext,r=.ok (some plaintext) → Good env object

lemma readVerified_alone (v:Option β) :
  Alone World.object (fun _=>True) (Found env) (readVerified env date) v := by
 have hmove:Alone World.object (fun _=>True) (Found env)
   (moveToQuarantine date >>= fun _=>pure none) v := by
  apply (Alone.trivial (moveToQuarantine date) v).bind
  · rintro _ _ - _ ⟨⟩
  · rintro _ _ - _ ⟨⟩
 intro w hw
 refine ⟨trivial,?_⟩
 change Alone _ _ _ (if (!w.object.isSome)=true then _ else _) w.object
 rw [hw]
 split
 · rintro _ ⟨⟩
 intro w hw
 refine ⟨trivial,?_⟩
 change Alone _ _ _ (match w.object with | none => _ | some blob => _) w.object
 rw [hw]
 cases v with
 | none => rintro _ ⟨⟩
 | some blob =>
   dsimp only
   split
   · rename_i plaintext hverified
     rintro _ -
     exact ⟨blob,plaintext,rfl,hverified⟩
   · exact hmove
   · exact hmove
   · rintro _ ⟨⟩

lemma getLocked_verified (h:verify env blob=.ok plaintext) :
  Alone World.object (·=some blob) (fun r v=>r=.ok plaintext ∧ v=some blob)
   (getLocked env date) (some blob) := by
 apply (readVerified_verified h).bind
 · rintro _ _ ⟨⟨⟩,rfl⟩
   exact ⟨rfl,rfl⟩
 · rintro _ _ ⟨⟨⟩,_⟩

def Stored (env:Env β) (r:Except CasErrorCode (List UInt8)) (object:Option β) : Prop :=
 ∀a,r=.ok a → Good env object

lemma reuse_alone {sink:Except CasErrorCode Unit} {q:Program β (List UInt8)}
  (hq:∀v,Alone World.object (fun _=>True) (Stored env) q v) (v:Option β) :
  Alone World.object (fun _=>True) (Stored env) (reuse env sink date q) v := by
 apply (readVerified_alone v).bind
 · rintro (_ | plaintext) v hfound
   · exact hq v
   · exact fun _ _=>hfound plaintext rfl
 · rintro _ _ - _ ⟨⟩

lemma exclusiveInstall_alone (staged:β) (v:Option β) :
  Alone World.object (fun _=>True) (fun r v=>r=.ok false ∨ r=.ok true ∧ v=some staged)
   (exclusiveInstall staged) v := by
 intro w hw
 refine ⟨trivial,?_⟩
 cases hthere : w.object with
 | some old => exact .inl (by simp only [hthere])
 | none => exact .inr (by simp only [hthere,and_self])

lemma putLocked_alone {staged:β} {sink:Except CasErrorCode Unit} {securityCritical:Bool}
  (v:Option β) : Alone World.object (fun _=>True) (Stored env)
   (putLocked env staged sink securityCritical date) v := by
 apply reuse_alone
 intro v
 cases hstaged : verify env staged with
 | error e => rintro _ ⟨⟩
 | ok plaintext =>
   apply (exclusiveInstall_alone staged v).bind
   · rintro installed v (⟨⟨⟩⟩ | ⟨⟨⟩,rfl⟩)
     · apply reuse_alone fun v=>?_
       apply (Alone.trivial (moveToQuarantine date) v).bind
       · rintro _ _ - _ ⟨⟩
       · rintro _ _ - _ ⟨⟩
     · have hgood:Good env (some staged):=⟨staged,plaintext,rfl,hstaged⟩
       cases sink with
       | error e => rintro _ ⟨⟩
       | ok _ =>
         cases securityCritical with
         | false => exact fun _ _=>hgood
         | true =>
           apply ((getLocked_verified hstaged).mono (fun _ _=>trivial) fun _ _ h=>h).bind
           · rintro _ _ ⟨-,rfl⟩ _ _
             exact hgood
           · rintro _ _ ⟨⟨⟩,_⟩
   · rintro _ _ (⟨⟨⟩⟩ | ⟨⟨⟩,_⟩)

end Objects

section Runs

variable {env:Env β} {s t:State β} {move:Move β}

lemma sweep_preserves (folders:List String) :
  Preserves World.object (sweepQuarantineObjects folders:Program β Unit) := by
 apply Preserves.forM folders fun date=>?_
 apply Preserves.bind (Preserves.read _) fun _=>Preserves.ite (Preserves.pure ()) ?_
 apply Preserves.bind (Preserves.read _) fun _=>Preserves.ite (Preserves.pure ()) ?_
 exact Preserves.write fun _=>rfl

lemma Task.preserves {task:Task} (h:task.spares=true) :
  Preserves World.object (task.program : Program β Unit) := by
 cases task with
 | sweep folders => exact sweep_preserves folders
 | mark reachable date =>
   obtain rfl : reachable=true:=h
   exact .bind (.read _) fun _=>
    .ite (.pure ()) (.pure ())

lemma Task.keeps_forbidden (task:Task) :
  Keeps (·.forbidden=true) World.object (task.program : Program β Unit) := by
 cases task with
 | sweep folders => exact (sweep_preserves folders).keeps
 | mark reachable date =>
   intro w _
   refine ⟨rfl,?_⟩
   change Keeps _ _ (if (!w.object.isSome)=true then _ else _)
   split
   · trivial
   cases reachable with
   | true => trivial
   | false =>
     intro w hw
     refine ⟨rfl,?_⟩
     change Keeps _ _ (if w.forbidden=true then _ else _)
     rw [if_pos hw]
     trivial

/-- Collections that know the digest leave it alone, whenever they began. -/
def Traced (s:State β) : Prop :=
 ∀task p,(task,p)∈s.tasks → task.spares=true → Preserves World.object p

lemma Traced.step (h:Traced s) (hstep:step env s move=some t) : Traced t := by
 cases move with
 | start task =>
   cases hstep
   intro task' p hp hspare
   rcases mem_append.mp hp with hp | hp
   · exact h task' p hp hspare
   · obtain ⟨rfl,rfl⟩ : task'=task ∧ p=task.program := by simpa using hp
     exact Task.preserves hspare
 | collect i =>
   simp only [ObjectCollection.step] at hstep
   split at hstep
   · rename_i task act next hi
     cases hstep
     intro task' p hp hspare
     rcases mem_or_eq_of_mem_set hp with hp | ⟨⟨⟩⟩
     · exact h task' p hp hspare
     · exact (h task _ (mem_of_getElem? hi) hspare s.world).2
   · cases hstep
 | _ =>
   simp only [ObjectCollection.step] at hstep
   first
    | cases hstep
      exact h
    | split at hstep <;> cases hstep
      exact h

lemma Traced.run {kept:State β → Bool} {moves:List (Move β)} (h:Traced s)
  (hrun:run env kept moves s=some t) : Traced t := by
 induction moves generalizing s with
 | nil =>
   cases hrun
   exact h
 | cons move moves ih =>
   obtain ⟨s',hstep,hrest⟩:=Option.bind_eq_some_iff.mp hrun
   split at hrest
   · exact ih (h.step hstep) hrest
   · cases hrest

/-- No one but the running call acts on the object. What it leaves satisfies `I`, and the calls that
have returned since `base` satisfy `Q`. -/
structure Inv (I:Option β → Prop)
   (Q:Call β → Except CasErrorCode (List UInt8) → Option β → Prop)
   (base:List (Call β×Except CasErrorCode (List UInt8))) (s:State β) : Prop where
 kept : s.kept=true
 traced : Traced s
 tasks : ∀task p,(task,p)∈s.tasks → Keeps (·.forbidden=true) World.object p
 running : ∀call p,s.running=some (call,p) → Alone World.object I (Q call) p s.world.object
 holds : I s.world.object
 returned : ∃new,s.returned=new++base ∧ ∀call r,(call,r)∈new → ∃v,I v ∧ Q call r v

variable {I:Option β → Prop} {Q:Call β → Except CasErrorCode (List UInt8) → Option β → Prop}
 {base:List (Call β×Except CasErrorCode (List UInt8))}

lemma Traced.preserves_of_quiet {task:Task} {p:Program β Unit} (h:Traced s) (hquiet:s.quiet=true)
  (hmem:(task,p)∈s.tasks) : Preserves World.object p := by
 rcases Bool.or_eq_true_iff.mp (all_eq_true.mp hquiet _ hmem) with hspare | hdone
 · exact h task p hmem hspare
 · cases p with
   | done r => trivial
   | step act next => cases hdone

variable (hfresh:∀call v,I v → Alone World.object I (Q call) (call.program env) v)
 (h:Inv I Q base s)
include hfresh h

lemma Inv.step (hstep:step env s move=some t) (hkept:t.kept=true) : Inv I Q base t := by
 have htraced:=h.traced.step hstep
 cases move with
 | enter call =>
   simp only [ObjectCollection.step] at hstep
   split at hstep <;> cases hstep
   refine ⟨hkept,htraced,h.tasks,?_,h.holds,h.returned⟩
   rintro _ _ ⟨⟩
   exact hfresh call _ h.holds
 | proceed =>
   simp only [ObjectCollection.step] at hstep
   split at hstep <;> cases hstep
   rename_i call act next hrunning
   obtain ⟨hI,hnext⟩:=h.running call _ hrunning s.world rfl
   refine ⟨hkept,htraced,h.tasks,?_,hI,h.returned⟩
   rintro _ _ ⟨⟩
   exact hnext
 | leave =>
   simp only [ObjectCollection.step] at hstep
   split at hstep <;> cases hstep
   rename_i call r hrunning
   obtain ⟨new,hnew,hQ⟩:=h.returned
   refine ⟨hkept,htraced,h.tasks,by rintro _ _ ⟨⟩,h.holds,(call,r)::new,by rw [hnew]; rfl,?_⟩
   intro call' r' hmem
   rcases mem_cons.mp hmem with ⟨⟨⟩⟩ | hmem
   · exact ⟨s.world.object,h.holds,h.running call _ hrunning⟩
   · exact hQ call' r' hmem
 | start task =>
   cases hstep
   refine ⟨hkept,htraced,?_,h.running,h.holds,h.returned⟩
   intro task' p hp
   rcases mem_append.mp hp with hp | hp
   · exact h.tasks task' p hp
   · obtain ⟨rfl,rfl⟩ : task'=task ∧ p=task.program := by simpa using hp
     exact task'.keeps_forbidden
 | collect i =>
   simp only [ObjectCollection.step] at hstep
   split at hstep <;> cases hstep
   rename_i task act next hi
   have hmem:=mem_of_getElem? hi
   obtain ⟨hobj,hnext⟩ : (act s.world).object=s.world.object ∧
     Keeps (·.forbidden=true) World.object (next s.world) := by
    rcases Bool.or_eq_true_iff.mp h.kept with hforbidden | hquiet
    · exact h.tasks task _ hmem s.world hforbidden
    · obtain ⟨hobj,hnext⟩:=h.traced.preserves_of_quiet hquiet hmem s.world
      exact ⟨hobj,hnext.keeps⟩
   refine ⟨hkept,htraced,?_,by rw [hobj]; exact h.running,by rw [hobj]; exact h.holds,h.returned⟩
   intro task' p hp
   rcases mem_or_eq_of_mem_set hp with hp | ⟨⟨⟩⟩
   · exact h.tasks task' p hp
   · exact hnext
 | occupy forbidden =>
   cases hstep
   exact ⟨hkept,htraced,h.tasks,h.running,h.holds,h.returned⟩

lemma Inv.run {moves:List (Move β)} (hrun:run env State.kept moves s=some t) :
  Inv I Q base t := by
 induction moves generalizing s with
 | nil =>
   cases hrun
   exact h
 | cons move moves ih =>
   obtain ⟨s',hstep,hrest⟩:=Option.bind_eq_some_iff.mp hrun
   split at hrest
   · rename_i hkept
     exact ih (h.step hfresh hstep hkept) hrest
   · cases hrest

end Runs

section Outcomes

variable {env:Env β}

def Leaves (env:Env β) : Call β → Except CasErrorCode (List UInt8) → Option β → Prop
 | .put _ _ _ _, r, object => Stored env r object
 | .get _, _, _ => True

def Answers (env:Env β) : Call β → Except CasErrorCode (List UInt8) → Option β → Prop
 | .put _ _ _ _, _, _ => True
 | .get _, r, _ => r=.ok env.bytes

lemma program_leaves (call:Call β) (v:Option β) :
  Alone World.object (fun _=>True) (Leaves env call) (call.program env) v := by
 cases call with
 | get date => exact (Alone.trivial _ v).mono (fun _ h=>h) fun _ _ _=>trivial
 | put staged sink securityCritical date => exact putLocked_alone v

lemma verify_ok {blob:β} {plaintext:List UInt8} (h:verify env blob=.ok plaintext) :
  plaintext=env.bytes := by
 unfold verify at h
 cases hdecrypt : env.decrypt blob with
 | error e =>
   rw [hdecrypt] at h
   cases h
 | ok found =>
   rw [hdecrypt] at h
   change (if found=env.bytes then Except.ok found else _)=_ at h
   split at h <;> cases h
   assumption

lemma program_answers {blob:β} (h:verify env blob=.ok env.bytes) (call:Call β)
  (v:Option β) (hv:v=some blob) :
  Alone World.object (·=some blob) (Answers env call) (call.program env) v := by
 subst hv
 cases call with
 | get date => exact (getLocked_verified h).mono (fun _ h=>h) fun _ _ h=>h.1
 | put staged sink securityCritical date =>
   apply (readVerified_verified h).bind
   · rintro _ _ ⟨⟨⟩,rfl⟩
     exact trivial
   · rintro _ _ ⟨⟨⟩,_⟩

def sampleEnv : Env (List UInt8) := ⟨.ok,[1]⟩

def samplePut : Call (List UInt8) := .put [1] (.ok ()) true "2026-01-02"

def sampleWorld : World (List UInt8) := ⟨some [1],fun _=>none,false⟩

/-- A collection has asked about an object. A put reuses it and returns, and the collection takes it
away although it is forbidden by then. -/
theorem reused_object_collected :
  ∃s₁ s₂,run sampleEnv (fun _=>true) [.start (.mark false "2026-01-02"),.collect 0,.collect 0,
    .enter samplePut,.proceed,.proceed,.occupy true,.leave] (.initial sampleWorld)=some s₁ ∧
   s₁.returned=[(samplePut,.ok [1])] ∧
   run sampleEnv State.kept [.collect 0,.collect 0,.enter (.get "2026-01-02"),.proceed,.proceed,
    .leave] s₁=some s₂ ∧
   s₂.returned=[(.get "2026-01-02",.error .notFound),(samplePut,.ok [1])] :=
 ⟨_,_,rfl,rfl,rfl,rfl⟩

/-- A put returns its object to stay where no collection without the digest is under way when it
starts, and the digest is protected from then on. -/
theorem stored_object_readable (env:Env β) (world:World β)
  (before during after:List (Move β)) (s₀ s s₁ s₂:State β) (staged:β)
  (sink:Except CasErrorCode Unit) (securityCritical:Bool) (date:String) (a:List UInt8)
  (hbefore:run env (fun _=>true) before (.initial world)=some s₀)
  (hidle:s₀.running=none) (hquiet:s₀.quiet=true)
  (hduring:run env State.kept during s₀=some s) (hleave:step env s .leave=some s₁)
  (hput:s₁.returned.head?=some (.put staged sink securityCritical date,.ok a))
  (hafter:run env State.kept after s₁=some s₂) :
  ∀new,s₂.returned=new++s₁.returned → ∀date r,(.get date,r)∈new → r=.ok env.bytes := by
 have htraced:Traced s₀:=.run (by rintro _ _ ⟨⟩) hbefore
 have hinv:Inv (fun _=>True) (Leaves env) s₀.returned s₀ := by
  refine ⟨?_,htraced,?_,?_,trivial,[],rfl,by simp⟩
  · rw [State.kept,hquiet,Bool.or_true]
  · exact fun task p hmem=>(htraced.preserves_of_quiet hquiet hmem).keeps
  · rw [hidle]
    rintro _ _ ⟨⟩
 have hs:=hinv.run (fun call v _=>program_leaves call v) hduring
 simp only [step] at hleave
 split at hleave <;> cases hleave
 rename_i call r hrunning
 cases hput
 obtain ⟨blob,plaintext,hobject,hverify⟩:=hs.running _ _ hrunning a rfl
 obtain rfl:=verify_ok hverify
 obtain ⟨new',hnew',hanswers⟩:=(Inv.run (s:=⟨s.world,none,s.tasks,_::s.returned⟩)
  (program_answers hverify) ⟨hs.kept,hs.traced,hs.tasks,by rintro _ _ ⟨⟩,hobject,[],rfl,
  by simp⟩ hafter).returned
 intro new hnew date' r' hmem
 obtain rfl : new=new':=append_cancel_right (hnew.symm.trans hnew')
 obtain ⟨_,_,hanswer⟩:=hanswers _ _ hmem
 exact hanswer

theorem stored_object_readable_sample :
  ∃s₁ s₂,run sampleEnv State.kept [.enter samplePut,.proceed,.proceed,.leave]
    (.initial ⟨some [1],fun _=>none,true⟩)=some s₁ ∧
   run sampleEnv State.kept [.start (.mark false "2026-01-02"),.collect 0,.collect 0,
    .enter (.get "2026-01-02"),.proceed,.proceed,.leave] s₁=some s₂ ∧
   ∃r,s₂.returned=(.get "2026-01-02",r)::s₁.returned ∧ r=.ok [1] := by
 refine ⟨_,_,rfl,rfl,_,rfl,?_⟩
 exact stored_object_readable sampleEnv ⟨some [1],fun _=>none,true⟩ []
  [.enter samplePut,.proceed,.proceed] [.start (.mark false "2026-01-02"),.collect 0,.collect 0,
   .enter (.get "2026-01-02"),.proceed,.proceed,.leave] _ _ _ _ [1] (.ok ()) true "2026-01-02" [1]
  rfl rfl rfl rfl rfl rfl rfl [(.get "2026-01-02",_)] rfl "2026-01-02" _
  (mem_singleton_self _)

end Outcomes

end EpistemicCompiler.ObjectCollection
