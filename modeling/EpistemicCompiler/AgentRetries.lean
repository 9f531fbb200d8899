import EpistemicCompiler.AgentRepair

set_option autoImplicit false

/-!
# The attempts of agent nodes

A failed job gives its node another attempt while there are attempts left. An envelope that does not
validate gives one without that test.
-/
namespace EpistemicCompiler.AgentJobs
open ProfileCatalog DagEngine Relation List Option

variable {κ:Type} {k:κ} {action:Action κ}

section

variable {scope:JobScope κ} {s t:JobStore κ} {record spawned:NodeRecord κ}

/-- The limit in the retry policy of every catalog node; the job functions compare with the literal
3. -/
def maxAttempts : ℕ := 3

def attempt (s:JobStore κ) (k:κ) : ℕ :=
 (currentRecord s k).attempt

def Within (s:JobStore κ) : Prop :=
 ∀k,attempt s k ≤ maxAttempts

lemma Within.settled (h:Within s) (hsettled:Settled s t) : Within t := by
 intro k
 have hk:=h k
 have hlater:=hsettled.attempts k
 unfold attempt at hk ⊢
 unfold maxAttempts at hk ⊢
 omega

lemma Within.restarted (h:Within s) {n:ℕ}
  (hn:n=if (currentRecord s k).attempt=0 then 1 else (currentRecord s k).attempt) :
  n ≤ maxAttempts := by
 have hk:=h k
 unfold attempt at hk
 unfold maxAttempts at hk ⊢
 split at hn <;> omega

variable [DecidableEq κ]

lemma Within.persistNode (h:Within s) (hattempt:record.attempt ≤ maxAttempts) :
  Within (persistNode s record) := by
 intro k
 unfold attempt
 rw [currentRecord_persistNode]
 split
 · exact hattempt
 · exact h k

structure WithinTurn (result:JobStore κ×Outcome κ) : Prop where
 records : Within result.1
 waiting : ∀spawned envelope,result.2=.waiting (.accept spawned envelope) →
  spawned.attempt ≤ maxAttempts

lemma within_enqueues : Enqueues Within (fun (_:JobStore κ) _=>True) WithinTurn where
 settled hu hsettled := hu.settled hsettled
 ready _ _ := trivial
 stay hu hdone := ⟨hu,fun _ _ hcall=>by cases hdone _ hcall⟩
 spawn hu _ _ hspawn :=
  ⟨hu.persistNode (hu.restarted (reduceNode_spawn_attempt hspawn)),nofun⟩

end

section

variable [DecidableEq κ] {scope:JobScope κ} {s t:JobRun κ} {calls:List (Call κ)}
 {result:JobStore κ×Outcome κ}

def StepWith (scope:JobScope κ) (rule:JobRun κ → Action κ → Prop) (s t:JobRun κ) : Prop :=
 ∃action,rule s action ∧ perform scope s action=some t

/-- An envelope that does not validate comes back only while the node has attempts left. -/
def InvalidInTime (s:JobRun κ) : Action κ → Prop
 | .report nodeId _ _ envelope => envelope.valid=true ∨ attempt s.store nodeId < maxAttempts
 | .enqueue | .failure _ _ | .persisted _ _ _ _ | .rejected _ _ | .resumed _ => True

structure WithinRun (s:JobRun κ) : Prop where
 records : Within s.store
 calls : ∀spawned envelope,.accept spawned envelope∈s.calls → spawned.attempt ≤ maxAttempts

lemma WithinRun.upholds (h:WithinRun s) (hrule:InvalidInTime s action) :
  Upholds scope s action Within (fun _ _=>True) WithinTurn where
 toEnqueues := within_enqueues
 report _ _ hagain := by
  have hspawned:=h.records.restarted hagain.attempt
  refine ⟨h.records.persistNode hspawned,?_⟩
  rintro _ _ ⟨⟩
  exact hspawned
 retry {k _ _ envelope _ _} hact _ hagain _ _ hnext hinv := by
  rw [hact] at hrule
  have hleft:attempt s.store k < maxAttempts:=hrule.resolve_left (by simp [hinv])
  have hattempt:=hagain.attempt
  apply (h.records.persistNode (h.records.restarted hattempt)).persistNode
  unfold attempt at hleft
  unfold maxAttempts at hleft ⊢
  split at hattempt <;> omega
 failure {k _ _} _ _ _ hattempt := by
  have hk:=h.records k
  apply h.records.persistNode
  unfold attempt maxAttempts at *
  omega
 accept hcall _ hattempt := h.records.persistNode (hattempt ▸ h.calls _ _ hcall)
 predicate p hu k := by
  unfold attempt
  rw [currentRecord_setPredicate]
  exact hu k
 queued _ := trivial
 job _ _ := ⟨h.records,trivial⟩

lemma WithinRun.step (h:WithinRun s) (hstep:StepWith scope InvalidInTime s t) :
  WithinRun t := by
 obtain ⟨action,hrule,hperform⟩:=hstep
 obtain ⟨calls,result,hturn,hstore,hcalls⟩:=exists_turn hperform
 have hwith:=(h.upholds hrule).turn h.records hturn
 refine ⟨hstore ▸ hwith.records,fun spawned envelope hcall=>?_⟩
 cases hcalls _ hcall with
 | inl hold => exact h.calls spawned envelope hold
 | inr hnew => exact hwith.waiting spawned envelope hnew

lemma WithinRun.reachable (h:WithinRun s)
  (hrun:ReflTransGen (StepWith scope InvalidInTime) s t) : WithinRun t := by
 induction hrun with
 | refl => exact h
 | tail _ hstep ih => exact ih.step hstep

end

section

variable {scope:JobScope κ} {s t:JobStore κ}

def Concerns (k:κ) : Call κ → Prop
 | .enqueue _ rest => ∃spec∈rest,spec.id=k
 | .accept spawned _ => spawned.nodeId=k
 | .resume => False

structure PassesBy (k:κ) (s:JobStore κ) (result:JobStore κ×Outcome κ) : Prop where
 record : currentRecord result.1 k=currentRecord s k
 waiting : ∀call,result.2=.waiting call → ¬ Concerns k call

structure Spent (k:κ) (s:JobStore κ) : Prop where
 failed : status s k=.failed
 attempts : maxAttempts ≤ attempt s k

lemma Spent.not_idle (h:Spent k s) : status s k≠.pending ∧ status s k≠.retrying := by
 rw [h.failed]
 decide

lemma Spent.of_record (h:Spent k s) (hrecord:currentRecord t k=currentRecord s k) :
  Spent k t := by
 refine ⟨?_,?_⟩
 · exact (congrArg NodeRecord.status hrecord).trans h.failed
 · unfold attempt
   rw [hrecord]
   exact h.attempts

variable [DecidableEq κ]

lemma currentRecord_persistNode_of_ne {record:NodeRecord κ} (h:record.nodeId≠k) :
  currentRecord (persistNode s record) k=currentRecord s k := by
 rw [currentRecord_persistNode,if_neg (Ne.symm h)]

lemma passesBy_enqueues (h:status s k≠.pending ∧ status s k≠.retrying) :
  Enqueues (fun u=>currentRecord u k=currentRecord s k)
   (fun _ specs=>∀spec∈specs,spec.id≠k) (PassesBy k s) where
 settled {u _} hu hsettled := by
  have hstatus:status u k=status s k:=congrArg NodeRecord.status hu
  cases hsettled.records k with
  | inl hsame => exact hsame.trans hu
  | inr hpasses => exact (hpasses.2.idle.elim (hstatus ▸ h.1) (hstatus ▸ h.2)).elim
 ready {u _} hu hready spec hspec hid := by
  have hidle:=Ready.status ((readyNodes_ok hready).2 spec hspec)
  rw [hid,show status u k=status s k from congrArg NodeRecord.status hu] at hidle
  exact hidle.elim h.1 h.2
 stay hu hdone := ⟨hu,fun call hcall=>by rw [hdone call hcall]; exact id⟩
 spawn {_ _ spec _ _} hu hspecs hsub hspawn := by
  have hother:=hspecs spec (hsub.subset mem_cons_self)
  refine ⟨(currentRecord_persistNode_of_ne ((grows_spawn hspawn).1 ▸ hother)).trans hu,?_⟩
  rintro _ ⟨⟩ ⟨later,hlater,hid⟩
  exact hspecs later (hsub.subset (mem_cons_of_mem _ hlater)) hid

/-- An active node: spawned, or waiting for its artifact to arrive or to be validated. -/
def Active (s:JobStore κ) (k:κ) : Prop :=
 status s k=.spawned ∨ status s k=.waitingArtifact ∨ status s k=.validating

variable (scope) in
lemma spent_failCompletedSpawnJob (hactive:Active s k) (hlast:maxAttempts ≤ attempt s k) :
  Spent k (failCompletedSpawnJob scope s k).1 ∧
   ∀call,(failCompletedSpawnJob scope s k).2=.waiting call → ¬ Concerns k call := by
 have hlast:3 ≤ (currentRecord s k).attempt:=hlast
 have hleft:¬ (currentRecord s k).attempt<3 := by omega
 obtain ⟨record,hrecord,hid,hstatus,hattempt⟩ : ∃record : NodeRecord κ,
   failedRecord (currentRecord s k)=.ok (some record) ∧ record.nodeId=k ∧
    record.status=.failed ∧ record.attempt=(currentRecord s k).attempt := by
  unfold Active status at hactive
  unfold failedRecord
  rcases hactive with h | h | h <;>
   simp [h,hleft,reduceNode,transitions,DagEngine.next,nextAttempt,Except.map,currentRecord_id]
 have hspent:Spent k (persistNode s record) := by
  refine ⟨?_,?_⟩
  · unfold status
    rw [currentRecord_persistNode,if_pos hid.symm]
    exact hstatus
  · unfold attempt
    rw [currentRecord_persistNode,if_pos hid.symm,hattempt]
    exact hlast
 unfold AgentJobs.failCompletedSpawnJob
 rw [hrecord]
 have hpasses:PassesBy k (persistNode s record)
   (enqueueReadyAgentWork scope (persistNode s record)) :=
  (passesBy_enqueues hspent.not_idle).enqueueReadyAgentWork rfl
 exact ⟨hspent.of_record hpasses.record,hpasses.waiting⟩

variable {run:JobRun κ} {calls:List (Call κ)} {result:JobStore κ×Outcome κ}

def NotReported (k:κ) (_:JobRun κ) : Action κ → Prop
 | .report nodeId _ _ _ => nodeId≠k
 | .enqueue | .failure _ _ | .persisted _ _ _ _ | .rejected _ _ | .resumed _ => True

structure SpentRun (k:κ) (s:JobRun κ) : Prop where
 spent : Spent k s.store
 calls : ∀call∈s.calls,¬ Concerns k call

lemma SpentRun.upholds (h:SpentRun k run) (hrule:NotReported k run action) :
  Upholds scope run action (fun u=>currentRecord u k=currentRecord run.store k)
   (fun _ specs=>∀spec∈specs,spec.id≠k) (PassesBy k run.store) where
 toEnqueues := passesBy_enqueues h.spent.not_idle
 report hact _ hagain := by
  rw [hact] at hrule
  refine ⟨currentRecord_persistNode_of_ne (hagain.id ▸ hrule),?_⟩
  rintro _ ⟨⟩ hsame
  exact hrule (hagain.id.symm.trans hsame)
 retry hact _ hagain hid _ _ _ := by
  rw [hact] at hrule
  rw [currentRecord_persistNode_of_ne (hid ▸ hrule),
   currentRecord_persistNode_of_ne (hagain.id ▸ hrule)]
 failure {k' _ _} _ _ hid hresult := by
  apply currentRecord_persistNode_of_ne
  rw [hid]
  rintro rfl
  have hatt:=h.spent.attempts
  unfold attempt maxAttempts at hatt
  rcases hresult with ⟨-,-,hleft⟩ | ⟨-,-,-,hopen⟩
  · omega
  · exact hopen h.spent.failed
 accept hcall hid _ := by
  have hother:_≠k:=h.calls _ hcall
  exact currentRecord_persistNode_of_ne (hid ▸ hother)
 predicate p hu := (currentRecord_setPredicate p k).trans hu
 queued hcall spec hspec hid := h.calls _ hcall ⟨spec,hspec,hid⟩
 job _ hrest := ⟨rfl,hrest⟩

lemma SpentRun.step {t:JobRun κ} (h:SpentRun k run)
  (hstep:StepWith scope (NotReported k) run t) : SpentRun k t := by
 obtain ⟨action,hrule,hperform⟩:=hstep
 obtain ⟨calls,result,hturn,hstore,hcalls⟩:=exists_turn hperform
 have hpasses:=(h.upholds hrule).turn rfl hturn
 refine ⟨hstore ▸ h.spent.of_record hpasses.record,fun call hcall=>?_⟩
 cases hcalls call hcall with
 | inl hold => exact h.calls call hold
 | inr hnew => exact hpasses.waiting call hnew

lemma SpentRun.reachable {t:JobRun κ} (h:SpentRun k run)
  (hrun:ReflTransGen (StepWith scope (NotReported k)) run t) : SpentRun k t := by
 induction hrun with
 | refl => exact h
 | tail _ hstep ih => exact ih.step hstep

end

section

variable [DecidableEq κ] {scope:JobScope κ}

/-- While envelopes that do not validate come back only from nodes with attempts left, no attempt
exceeds the retry policy, and the failure of a last attempt ends its node for good. -/
theorem retries_bounded {first s:JobRun κ} (hcalls:first.calls=[])
  (hfirst:∀k,attempt first.store k ≤ maxAttempts)
  (hrun:ReflTransGen (StepWith scope InvalidInTime) first s) :
  (∀k,attempt s.store k ≤ maxAttempts) ∧
   ∀k a t,perform scope s (.failure k a)=some t → Active s.store k →
     maxAttempts ≤ attempt s.store k → status t.store k=.failed ∧
      ((∀call∈s.calls,¬ Concerns k call) → ∀u,
        ReflTransGen (StepWith scope (NotReported k)) t u → status u.store k=.failed) := by
 have hwithin:WithinRun first := by
  refine ⟨hfirst,?_⟩
  intro spawned envelope hcall
  rw [hcalls] at hcall
  cases hcall
 refine ⟨(hwithin.reachable hrun).records,?_⟩
 intro k a t hperform hactive hlast
 obtain ⟨hspent,hwaiting⟩:=spent_failCompletedSpawnJob scope hactive hlast
 obtain ⟨calls,result,hturn,ht⟩:=turn_of_perform hperform
 cases hturn
 rw [ht]
 refine ⟨?_,?_⟩
 · rw [finish_store]
   exact hspent.failed
 · intro hothers u hu
   have hstart :
     SpentRun k (.finish s.calls s.failures (failCompletedSpawnJob scope s.store k)) := by
    refine ⟨?_,?_⟩
    · rw [finish_store]
      exact hspent
    · intro call hcall
      cases mem_finish hcall with
      | inl hold => exact hothers call hold
      | inr hnew => exact hwaiting call hnew
   exact (hstart.reachable hu).spent.failed

lemma reachableWith_of_performAll {rule:JobRun κ → Action κ → Prop} {s t:JobRun κ}
  {actions:List (Action κ)} (hrule:∀action∈actions,∀s,rule s action)
  (h:performAll scope s actions=some t) : ReflTransGen (StepWith scope rule) s t := by
 induction actions generalizing s with
 | nil =>
   cases h
   exact .refl
 | cons action actions ih =>
   obtain ⟨u,hu,h⟩:=bind_eq_some_iff.mp h
   refine .head ⟨action,hrule action mem_cons_self s,hu⟩ (ih ?_ h)
   exact fun later hlater=>hrule later (mem_cons_of_mem _ hlater)

def failTwice : List (Action NodeKey) :=
 [.enqueue,.persisted 0 "request" "1" "",.failure .investigator 1,
  .persisted 0 "request" "2" "",.failure .investigator 2,.persisted 0 "request" "3" ""]

theorem retries_bounded_fast :
  ∃s t,ReflTransGen (StepWith sampleScope InvalidInTime) fastStart s ∧
    attempt s.store .investigator=maxAttempts ∧
    perform sampleScope s (.failure .investigator 3)=some t ∧
    status t.store .investigator=.failed := by
 obtain ⟨s,hs,hspawned,hattempt,hsome⟩ : ∃s∈performAll sampleScope fastStart failTwice,
   status s.store .investigator=.spawned ∧ attempt s.store .investigator=maxAttempts ∧
    (perform sampleScope s (.failure .investigator 3)).isSome=true := by
  decide +kernel
 obtain ⟨t,ht⟩:=isSome_iff_exists.mp hsome
 have hrun:ReflTransGen (StepWith sampleScope InvalidInTime) fastStart s := by
  apply reachableWith_of_performAll _ hs
  simp [failTwice,InvalidInTime]
 have hfirst:∀k,attempt fastStart.store k ≤ maxAttempts := by
  intro k
  cases k <;> decide
 have hbounded:=retries_bounded rfl hfirst hrun
 exact ⟨s,t,hrun,hattempt,ht,
  (hbounded.2 .investigator 3 t ht (.inl hspawned) hattempt.ge).1⟩

def invalidThrice : List (Action NodeKey) :=
 [.enqueue,
  .persisted 0 "request" "1" "",
  .report .investigator 1 "agent" ⟨false,.investigationReport,false,⟨[],[]⟩⟩,.resumed 0,
  .persisted 0 "request" "2" "",
  .report .investigator 2 "agent" ⟨false,.investigationReport,false,⟨[],[]⟩⟩,.resumed 0,
  .persisted 0 "request" "3" "",
  .report .investigator 3 "agent" ⟨false,.investigationReport,false,⟨[],[]⟩⟩,.resumed 0]

theorem invalid_envelopes_exceed_maxAttempts :
  ∃s,ReflTransGen (Step sampleScope) fastStart s ∧
    status s.store .investigator=.spawned ∧
    maxAttempts<attempt s.store .investigator := by
 obtain ⟨s,hs,h⟩ : ∃s∈performAll sampleScope fastStart invalidThrice,
   status s.store .investigator=.spawned ∧ maxAttempts<attempt s.store .investigator := by
  decide +kernel
 exact ⟨s,reachable_of_performAll hs,h⟩

end

end EpistemicCompiler.AgentJobs
