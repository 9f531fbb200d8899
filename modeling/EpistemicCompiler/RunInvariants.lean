import Mathlib.Data.List.Chain
import EpistemicCompiler.RunHistory

set_option autoImplicit false

/-!
# What holds after every accepted event

The events of a run are folded into its projection and into the list of transitions they recorded.
The invariant of whole runs is read off what one accepted event establishes.
-/
namespace EpistemicCompiler.RunInvariants
open RunStates RunEventRegistry ArtifactRoles RunReducer RunHistory FallibleRuns List Option

variable (fresh:CreateRunInput) (projection:RunProjection)

def reduceEvents (inputs:List RunInput) :
    Except ReduceError (RunProjection×List RunTransitionEvent) :=
 inputs.foldlM (fun run input=>do
  let (projection,transition) ← reduceRun run.1 input.1 input.2
  return (projection,run.2++[transition])) (createRunProjection fresh,[])

def boundRoles : List String :=
 (projection.artifactRoles.filter (·.objectDigests≠[])).map (·.role)

lemma mem_boundRoles (role:String) :
  role∈boundRoles projection ↔ ∃digest,RolesBind projection.artifactRoles role digest := by
 simp only [boundRoles,RolesBind,List.mem_map,List.mem_filter,decide_eq_true_eq]
 constructor
 · rintro ⟨r,⟨hr,hbound⟩,hrole⟩
   obtain ⟨digest,hdigest⟩:=exists_mem_of_ne_nil _ hbound
   exact ⟨digest,r,hr,hrole,hdigest⟩
 · rintro ⟨digest,r,hr,hrole,hdigest⟩
   exact ⟨r,⟨hr,List.ne_nil_of_mem hdigest⟩,hrole⟩

lemma base_subset_guards {state:RunState} {eventType:RunEventType} {c:RunEventContract}
  (h:getRunEventContract state eventType=some c) {g:RunGuardId}
  (hg:g∈baseEdgeGuards) : g∈c.guardIds := by
 obtain ⟨hmem,-,-⟩:=(getRunEventContract_eq_some _ _ _).mp h
 rw [mem_runEventRegistry] at hmem
 obtain ⟨source,target,-,rfl⟩ | ⟨source,-,rfl | rfl⟩ | rfl | rfl:=hmem
 · exact (mem_sortGuards _ _).mpr (mem_append_left _ hg)
 · exact (mem_sortGuards _ _).mpr (mem_append_left _ hg)
 · exact (mem_sortGuards _ _).mpr (mem_append_left _ hg)
 · exact (mem_sortGuards _ _).mpr hg
 · exact (mem_sortGuards _ _).mpr (mem_append_left _ hg)

/-- The global events name their target themselves; an `ENTER_` event is compared with it. -/
lemma targetStateOf_eq {state:RunState} {event:RunDomainEvent} {c:RunEventContract}
  (h:getRunEventContract state event.eventType=some c)
  (henter:∀entered payload,event.body=.enterState entered payload →
   payload.target=c.targetState) : targetStateOf event=c.targetState := by
 rw [getRunEventContract_eq] at h
 unfold targetStateOf
 unfold RunDomainEvent.eventType at h
 cases hbody : event.body with
 | enterState entered payload => exact henter entered payload hbody
 | userCancellationRequested | cancellationSettled | cancellationOutcomeUnknown
 | unrecoverablePlatformFailure =>
   rw [hbody] at h
   obtain ⟨-,⟨⟩⟩:=ite_none_right_eq_some.mp h
   rfl

lemma terminal_targets : ∀s∈terminalRunStates,
  settledTargets s=[] ∧ s≠.cancellationPending := by
 decide

section

variable {p p':RunProjection} {event:RunDomainEvent} {artifacts:VerifiedArtifactSet}
 {transition:RunTransitionEvent}

/-- The roles of the artifact set were checked against the state that the event enters. -/
lemma reduceRun_roles (h:reduceRun p event artifacts=.ok (p',transition)) :
  artifactRolesSatisfyState (presentRolesOf artifacts) p'.state=true := by
 obtain ⟨c,hc,hguards,h⟩:=reduceRun_ok h
 obtain ⟨henter,fields,h⟩:=applyEvent_ok h
 obtain ⟨roles,-,rfl,-⟩:=commitTransition_ok h
 have hguard:=hguards .requiredArtifactRolesPresent (base_subset_guards hc (by decide))
 rw [evaluateGuard,targetStateOf_eq hc henter] at hguard
 change artifactRolesSatisfyState (presentRolesOf artifacts) c.targetState=true
 by_contra hroles
 rw [if_neg hroles] at hguard
 cases hguard

lemma mem_boundRoles_reduceRun (h:reduceRun p event artifacts=.ok (p',transition))
  (role:String) : role∈boundRoles p' ↔ role∈presentRolesOf artifacts := by
 obtain ⟨c,-,-,h⟩:=reduceRun_ok h
 obtain ⟨-,fields,h⟩:=applyEvent_ok h
 obtain ⟨roles,hroles,rfl,-⟩:=commitTransition_ok h
 rw [mem_boundRoles]
 simp only [nextProjection,projectionArtifactRoles_bind hroles,presentRolesOf,List.mem_map]
 constructor
 · rintro ⟨digest,hbind⟩
   exact ⟨⟨role,digest⟩,hbind,rfl⟩
 · rintro ⟨binding,hbind,rfl⟩
   exact ⟨binding.objectDigest,hbind⟩

lemma succeeded_requires_result : ∀set∈legalRoleSets .succeeded,
  "successful-run-result"∈set := by
 decide

lemma successfulRunResultDigest_isSome
  (h:artifactRolesSatisfyState (presentRolesOf artifacts) .succeeded=true) :
  (successfulRunResultDigest artifacts).isSome=true := by
 obtain ⟨set,hset,hall⟩:=any_eq_true.mp h
 have hrole:=all_eq_true.mp hall _ (succeeded_requires_result set hset)
 obtain ⟨binding,hbind,hrole⟩:=mem_map.mp (of_decide_eq_true hrole)
 rw [successfulRunResultDigest,isSome_map,find?_isSome]
 exact ⟨binding,hbind,decide_eq_true hrole⟩

variable (h:reduceRun p event artifacts=.ok (p',transition))
include h

lemma reduceRun_terminalResult :
  p'.terminalResultObjectDigest.isSome=true ↔ p'.state=.succeeded := by
 have hroles:=reduceRun_roles h
 obtain ⟨c,-,-,h⟩:=reduceRun_ok h
 obtain ⟨-,fields,h⟩:=applyEvent_ok h
 obtain ⟨roles,-,rfl,-⟩:=commitTransition_ok h
 simp only [nextProjection] at hroles ⊢
 by_cases hsucc : c.targetState=.succeeded
 · rw [hsucc] at hroles
   simp [hsucc,successfulRunResultDigest_isSome hroles]
 · simp [hsucc]

lemma reduceRun_transition :
  p'.stateVersion=p.stateVersion+1 ∧ transition.previousState=p.state ∧
   transition.nextState=p'.state := by
 obtain ⟨c,-,-,h⟩:=reduceRun_ok h
 obtain ⟨-,fields,h⟩:=applyEvent_ok h
 obtain ⟨roles,-,rfl,rfl⟩:=commitTransition_ok h
 exact ⟨rfl,rfl,rfl⟩

lemma reduceRun_not_terminal : p.state ∉ terminalRunStates := by
 intro hterm
 obtain ⟨hnone,hpending⟩:=terminal_targets _ hterm
 have hstep:reduceStep p (event,artifacts)=.ok p' := by
  simp only [reduceStep,h]
  rfl
 obtain ⟨c,hc,-⟩:=reduceStep_contract hstep
 rw [getRunEventContract_eq] at hc
 rcases contractFor_target hc with htarget | ⟨htype,-⟩
 · rw [hnone] at htarget
   cases htarget
 · rw [htype] at hc
   exact hpending (ite_none_right_eq_some.mp hc).1

end

structure RunInvariant (accepted:ℕ) (run:RunProjection×List RunTransitionEvent) :
  Prop where
 version : run.1.stateVersion=accepted
 recorded : run.2.length=accepted
 chained : run.2.IsChain fun earlier later=>later.previousState=earlier.nextState
 current : ∀last∈run.2.getLast?,last.nextState=run.1.state
 roles : artifactRolesSatisfyState (boundRoles run.1) run.1.state=true
 result : run.1.terminalResultObjectDigest.isSome=true ↔ run.1.state=.succeeded

lemma created_roles : legalRoleSets .created=[["task-envelope"]] := by
 decide

lemma runInvariant_fresh : RunInvariant 0 (createRunProjection fresh,[]) := by
 refine ⟨rfl,rfl,.nil,by simp,?_,by simp [createRunProjection]⟩
 simp [artifactRolesSatisfyState,createRunProjection,created_roles,boundRoles]

lemma RunInvariant.step {n:ℕ} {p p':RunProjection} {ts:List RunTransitionEvent}
  {event:RunDomainEvent} {artifacts:VerifiedArtifactSet} {t:RunTransitionEvent}
  (hinv:RunInvariant n (p,ts)) (h:reduceRun p event artifacts=.ok (p',t)) :
  RunInvariant (n+1) (p',ts++[t]) := by
 obtain ⟨hversion,hprev,hnext⟩:=reduceRun_transition h
 refine ⟨?_,?_,?_,?_,?_,reduceRun_terminalResult h⟩
 · rw [hversion,hinv.version]
 · simpa using hinv.recorded
 · rw [isChain_append]
   refine ⟨hinv.chained,.singleton t,fun last hlast first hfirst=>?_⟩
   obtain rfl : t=first := by simpa using hfirst
   rw [hprev,hinv.current last hlast]
 · simpa using hnext
 · simp only [artifactRolesSatisfyState,mem_boundRoles_reduceRun h]
   exact reduceRun_roles h

lemma foldlM_runInvariant {n:ℕ} {run run':RunProjection×List RunTransitionEvent}
  {inputs:List RunInput} (hinv:RunInvariant n run)
  (h:inputs.foldlM (fun run input=>do
   let (projection,transition) ← reduceRun run.1 input.1 input.2
   return (projection,run.2++[transition])) run=.ok run') :
  RunInvariant (n+inputs.length) run' := by
 induction inputs generalizing n run with
 | nil =>
   cases h
   exact hinv
 | cons input inputs ih =>
   obtain ⟨next,hnext,h⟩:=bind_eq_ok h
   obtain ⟨⟨p',t⟩,hstep,hnext⟩:=bind_eq_ok hnext
   cases hnext
   have hrest:=ih (hinv.step hstep) h
   rwa [Nat.add_assoc,Nat.add_comm 1] at hrest

/-- The version counts the events, the transitions form one chain, the bound roles are legal for
the state, a result is present exactly on success, and a terminal state accepts nothing. -/
theorem accepted_events_invariant (inputs:List RunInput) (projection:RunProjection)
  (transitions:List RunTransitionEvent)
  (h:reduceEvents fresh inputs=.ok (projection,transitions)) :
  projection.stateVersion=inputs.length ∧
  transitions.length=inputs.length ∧
  (transitions.IsChain fun earlier later=>later.previousState=earlier.nextState) ∧
  artifactRolesSatisfyState (boundRoles projection) projection.state=true ∧
  (projection.terminalResultObjectDigest.isSome=true ↔ projection.state=.succeeded) ∧
  (projection.state∈terminalRunStates →
   ∀event artifacts next,reduceRun projection event artifacts≠.ok next) := by
 have hinv:=foldlM_runInvariant (runInvariant_fresh fresh) h
 rw [Nat.zero_add] at hinv
 refine ⟨hinv.version,hinv.recorded,hinv.chained,hinv.roles,hinv.result,?_⟩
 intro hterminal event artifacts next hnext
 exact reduceRun_not_terminal hnext hterminal

theorem accepted_events_invariant_applied :
  ∃projection transitions,
    reduceEvents sampleFresh (enterInputs appliedPath)=.ok (projection,transitions) ∧
    projection.state=.succeeded ∧ projection.stateVersion=14 ∧
    projection.terminalResultObjectDigest.isSome=true ∧
    ∀event artifacts next,reduceRun projection event artifacts≠.ok next := by
 have hstate:(reduceEvents sampleFresh (enterInputs appliedPath)).toOption.map (·.1.state) =
   some .succeeded := by
  decide +kernel
 cases hrun : reduceEvents sampleFresh (enterInputs appliedPath) with
 | error e =>
   rw [hrun] at hstate
   cases hstate
 | ok run =>
   rw [hrun] at hstate
   have hsucceeded:run.1.state=.succeeded:=some.inj hstate
   obtain ⟨hversion,-,-,-,hresult,hterminal⟩ :=
    accepted_events_invariant sampleFresh (enterInputs appliedPath) run.1 run.2 hrun
   exact ⟨run.1,run.2,rfl,hsucceeded,hversion,hresult.mpr hsucceeded,
    hterminal (hsucceeded ▸ by decide)⟩

end EpistemicCompiler.RunInvariants
