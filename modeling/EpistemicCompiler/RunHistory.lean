import EpistemicCompiler.RunReducer

set_option autoImplicit false

/-!
# Histories of accepted run events

A history is the list of projections that `reduceRun` produces from a fresh run. Facts about all
histories reduce to facts about the edges of the state graph that enter a set of states.
-/
namespace EpistemicCompiler.RunHistory
open RunStates RunEventRegistry RunReducer FallibleRuns List Option

variable (fresh:CreateRunInput) {p:RunProjection}

abbrev RunInput := RunDomainEvent×VerifiedArtifactSet

variable (inputs:List RunInput) {x:RunInput}

def reduceStep (projection:RunProjection) (input:RunInput) :
    Except ReduceError RunProjection :=
 (reduceRun projection input.1 input.2).map Prod.fst

def runHistory : Except ReduceError (List RunProjection) :=
 trace reduceStep (createRunProjection fresh) inputs

def globalTargets (state:RunState) : List RunState :=
 if state∈interruptibleNonterminalStates then [.cancellationPending,.failed] else []

/-- The successors of a state but for the one that an unknown cancellation outcome adds. -/
def settledTargets (state:RunState) : List RunState :=
 phaseTargets state++globalTargets state ++
  if state=.cancellationPending then [.cancelled] else []

lemma reduceStep_ok {p':RunProjection} (h:reduceStep p x=.ok p') :
  ∃transition,reduceRun p x.1 x.2=.ok (p',transition) := by
 unfold reduceStep at h
 cases hr : reduceRun p x.1 x.2 with
 | error e =>
   rw [hr] at h
   cases h
 | ok r =>
   rw [hr] at h
   obtain rfl : r.1=p':=Except.ok.inj h
   exact ⟨r.2,rfl⟩

lemma reduceStep_contract {p':RunProjection} (h:reduceStep p x=.ok p') :
  ∃c,getRunEventContract p.state x.1.eventType=some c ∧ p'.state=c.targetState := by
 obtain ⟨_,h⟩:=reduceStep_ok h
 obtain ⟨contract,hcontract,-,h⟩:=reduceRun_ok h
 obtain ⟨-,fields,h⟩:=applyEvent_ok h
 obtain ⟨roles,-,rfl,-⟩:=commitTransition_ok h
 exact ⟨contract,hcontract,rfl⟩

lemma contractFor_target {state:RunState} {eventType:RunEventType} {c:RunEventContract}
  (h:contractFor state eventType=some c) :
  c.targetState∈settledTargets state ∨
   (eventType=.cancellationOutcomeUnknown ∧ c.targetState=.cloudOutcomeUnknown) := by
 cases eventType with
 | enter target =>
   obtain ⟨ht,⟨⟩⟩:=ite_none_right_eq_some.mp h
   exact .inl (by simp [settledTargets,phaseContract,ht])
 | userCancellationRequested =>
   obtain ⟨hs,⟨⟩⟩:=ite_none_right_eq_some.mp h
   exact .inl (by simp [settledTargets,globalTargets,cancellationContract,hs])
 | unrecoverablePlatformFailure =>
   obtain ⟨hs,⟨⟩⟩:=ite_none_right_eq_some.mp h
   exact .inl (by simp [settledTargets,globalTargets,failureContract,hs])
 | cancellationSettled =>
   obtain ⟨rfl,⟨⟩⟩:=ite_none_right_eq_some.mp h
   exact .inl (by simp [settledTargets,cancellationSettledContract])
 | cancellationOutcomeUnknown =>
   obtain ⟨rfl,⟨⟩⟩:=ite_none_right_eq_some.mp h
   exact .inr ⟨rfl,rfl⟩

lemma reduceStep_edge {p':RunProjection} (h:reduceStep p x=.ok p') :
  p'.state∈settledTargets p.state ∨
   (x.1.eventType=.cancellationOutcomeUnknown ∧ p'.state=.cloudOutcomeUnknown) := by
 obtain ⟨c,hc,ht⟩:=reduceStep_contract h
 rw [getRunEventContract_eq] at hc
 rw [ht]
 exact contractFor_target hc

def sampleDigest : ObjectDigest :=
 ⟨"sha256:0000000000000000000000000000000000000000000000000000000000000000",by decide⟩

def sampleFresh : CreateRunInput :=
 ⟨"project","run_1","workspace","2026-01-01T00:00:00.000Z",sampleDigest⟩

def sampleInput (version:ℕ) (actorType:RunActorType) (body:RunEventBody) : RunInput :=
 let event : RunDomainEvent :=
  { eventId:="event", projectId:="project", runId:="run_1",
    expectedStateVersion:=version, actorType:=actorType, actorId:="actor",
    causationId:=none, correlationId:=none, occurredAt:="2026-01-01T00:00:00.000Z",
    body:=body }
 (event,
  { bindings:=((ArtifactRoles.legalRoleSets (targetStateOf event)).headD []).map
      (⟨·,sampleDigest⟩),
    signaturesValid:=true, satisfiedGuards:=runGuardIds })

def enterInputs (targets:List RunState) : List RunInput :=
 targets.mapIdx fun version target=>
  sampleInput version .control (.enterState target ⟨target,"REASON",[],[],none⟩)

def historyStates : Option (List RunState) :=
 (runHistory fresh inputs).toOption.map (·.map (·.state))

lemma exists_history {fresh:CreateRunInput} {inputs:List RunInput} {ss:List RunState}
  (h:historyStates fresh inputs=some ss) {n:ℕ} {state:RunState} (hn:ss[n]?=some state) :
  ∃ps p,runHistory fresh inputs=.ok ps ∧ ps.map (·.state)=ss ∧ ps[n]?=some p ∧
    p.state=state := by
 unfold historyStates at h
 cases hr : runHistory fresh inputs with
 | error e =>
   rw [hr] at h
   cases h
 | ok ps =>
   rw [hr] at h
   obtain rfl:=some.inj h
   rw [getElem?_map] at hn
   obtain ⟨p,hp,hstate⟩:=map_eq_some_iff.mp hn
   exact ⟨ps,p,rfl,rfl,hp,hstate⟩

/-- The registry is replaced by its tables, so that a history can be evaluated. -/
lemma reduceRun_lookup : reduceRun=reduceRunWith contractFor := by
 have hlook:getRunEventContract=contractFor :=
  funext fun s=>funext fun e=>getRunEventContract_eq s e
 unfold reduceRun
 rw [hlook]

lemma historyStates_eq :
  historyStates fresh inputs =
   (trace (fun p (x:RunInput)=>(reduceRunWith contractFor p x.1 x.2).map Prod.fst)
    (createRunProjection fresh) inputs).toOption.map (·.map (·.state)) := by
 unfold historyStates runHistory reduceStep
 rw [reduceRun_lookup]

def acceptedStates : List RunState := [
 .noChangeFinalizing,.awaitingApplyApproval,.applyPreparing,.applying,.applyReconciling,
 .succeeded]

def applyStates : List RunState := [.applyPreparing,.applying,.applyReconciling]

def candidateStates : List RunState := [
 .profileSelected,.profileRunning,.acceptanceCheck,.cloudPrepared,.cloudDispatching,
 .cloudInFlight,.waitingProvider,.cloudOutcomeUnknown,.solutionReceived,.solutionValidating,
 .materializing,.repairPreparing,.waitingRepairContextCapacity,.waitingRepairOutputCapacity]

lemma acceptedStates_entry : ∀s∈runStates,∀t∈settledTargets s,
  t∈acceptedStates → s∈acceptedStates ∨ s=.verifiedAccepted := by
 decide

lemma applyStates_entry : ∀s∈runStates,∀t∈settledTargets s,
  t∈applyStates → s∈applyStates ∨ t=.applyPreparing := by
 decide

lemma succeeded_entry : ∀s∈runStates,.succeeded∈settledTargets s →
  s=.noChangeFinalizing ∨ s=.applyReconciling := by
 decide

lemma cloudDispatching_entry : ∀s∈runStates,.cloudDispatching∈settledTargets s →
  s=.cloudPrepared := by
 decide

lemma acceptedStates_closed : ∀s∈acceptedStates,
  s≠.verifiedAccepted ∧ s ∉ candidateStates := by
 decide

lemma mem_sortGuards (g:RunGuardId) (guards:List RunGuardId) :
  g∈sortGuards guards ↔ g∈guards := by
 simp [sortGuards]

lemma mem_additionalGuards {source target:RunState} {guards:List RunGuardId}
  {g:RunGuardId} (h:(true,guards)∈guardCategories source target) (hg:g∈guards) :
  g∈additionalGuards source target := by
 simp only [additionalGuards,mem_flatMap,mem_filter]
 exact ⟨(true,guards),⟨h,rfl⟩,hg⟩

/-- Whatever state it leaves, an edge into `applyPreparing` requires a consumed approval and a
current snapshot root. -/
lemma applyPreparing_guards {state:RunState} {eventType:RunEventType} {c:RunEventContract}
  (h:getRunEventContract state eventType=some c) (ht:c.targetState=.applyPreparing) :
  .approvalValidAndConsumed∈c.guardIds ∧ .snapshotRootCurrent∈c.guardIds := by
 obtain ⟨hmem,-,-⟩:=(getRunEventContract_eq_some _ _ _).mp h
 rw [mem_runEventRegistry] at hmem
 obtain ⟨source,target,-,rfl⟩ | ⟨source,-,rfl | rfl⟩ | rfl | rfl:=hmem
 · obtain rfl : target=.applyPreparing:=ht
   have hrow:(true,[.snapshotRootCurrent,.approvalValidAndConsumed]) ∈
     guardCategories source .applyPreparing := by
    simp [guardCategories]
   simp only [phaseContract,mem_sortGuards,mem_append]
   exact ⟨.inr (mem_additionalGuards hrow (by simp)),.inr (mem_additionalGuards hrow (by simp))⟩
 all_goals cases ht

section

variable {fresh:CreateRunInput} {inputs:List RunInput} {ps:List RunProjection}

lemma acceptance_before (h:runHistory fresh inputs=.ok ps) {n:ℕ} (hn:ps[n]?=some p)
  (hp:p.state∈acceptedStates) :
  ∃k accepted,k<n ∧ ps[k]?=some accepted ∧ accepted.state=.verifiedAccepted ∧
    ∀j q,k<j → j ≤ n → ps[j]?=some q → q.state∈acceptedStates := by
 obtain ⟨k,u,e,u',hu,-,-,hstep,hk,hout,hin,hafter⟩ :=
  trace_lastEntry h (fun q=>q.state∈acceptedStates) (by simp [createRunProjection,
   acceptedStates]) hn hp
 refine ⟨k,u,hk,hu,?_,hafter⟩
 rcases reduceStep_edge hstep with hedge | ⟨-,hcloud⟩
 · exact (acceptedStates_entry _ (mem_runStates _) _ hedge hin).resolve_left hout
 · exact absurd (hcloud ▸ hin) (by decide)

lemma applyPreparing_before (h:runHistory fresh inputs=.ok ps) {n:ℕ} (hn:ps[n]?=some p)
  (hp:p.state∈applyStates) :
  ∃j q x c q',ps[j]?=some q ∧ inputs[j]?=some x ∧ ps[j+1]?=some q' ∧
    getRunEventContract q.state x.1.eventType=some c ∧ q'.state=.applyPreparing ∧
    .approvalValidAndConsumed∈c.guardIds ∧ .snapshotRootCurrent∈c.guardIds ∧
    ∀i r,j < i → i ≤ n → ps[i]?=some r → r.state∈applyStates := by
 obtain ⟨j,q,x,q',hq,hx,hq',hstep,-,hout,hin,hafter⟩ :=
  trace_lastEntry h (fun q=>q.state∈applyStates) (by simp [createRunProjection,
   applyStates]) hn hp
 obtain ⟨c,hc,ht⟩:=reduceStep_contract hstep
 have hpreparing:q'.state=.applyPreparing := by
  rcases reduceStep_edge hstep with hedge | ⟨-,hcloud⟩
  · exact (applyStates_entry _ (mem_runStates _) _ hedge hin).resolve_left hout
  · exact absurd (hcloud ▸ hin) (by decide)
 obtain ⟨happroval,hroot⟩:=applyPreparing_guards hc (ht ▸ hpreparing)
 exact ⟨j,q,x,c,q',hq,hx,hq',hc,hpreparing,happroval,hroot,hafter⟩

end

/-- A run that succeeds was accepted; after its last acceptance no candidate could change, and
unless it needed no change it was then applied under a consumed approval of the current root. -/
theorem success_binds_approval (ps:List RunProjection) (h:runHistory fresh inputs=.ok ps) :
  (∀last,ps[inputs.length]?=some last → last.state=.succeeded →
   ∃k accepted,ps[k]?=some accepted ∧ accepted.state=.verifiedAccepted ∧
     (∀j p,k<j → ps[j]?=some p →
      p.state≠.verifiedAccepted ∧ p.state ∉ candidateStates) ∧
     ((∃p,ps[inputs.length - 1]?=some p ∧ p.state=.noChangeFinalizing) ∨
       ∃j p x c p',k ≤ j ∧ ps[j]?=some p ∧ inputs[j]?=some x ∧ ps[j+1]?=some p' ∧
         getRunEventContract p.state x.1.eventType=some c ∧ p'.state=.applyPreparing ∧
         .approvalValidAndConsumed∈c.guardIds ∧ .snapshotRootCurrent∈c.guardIds)) ∧
  (∀j p,ps[j]?=some p → p.state=.cloudDispatching →
   ∃i q,j=i+1 ∧ ps[i]?=some q ∧ q.state=.cloudPrepared) := by
 constructor
 · intro last hlast hsucceeded
   obtain ⟨k,accepted,hk,haccepted,hstate,hafter⟩ :=
    acceptance_before h hlast (by rw [hsucceeded]; decide)
   refine ⟨k,accepted,haccepted,hstate,fun j p hkj hp=>?_, ?_⟩
   · have hj:=(List.getElem?_eq_some_iff.mp hp).1
     rw [trace_length h] at hj
     exact acceptedStates_closed _ (hafter j p hkj (by omega) hp)
   -- The last step leaves one of the two states that lead to success.
   obtain ⟨m,hm⟩ : ∃m,inputs.length=m+1:=⟨inputs.length - 1,by omega⟩
   rw [hm] at hlast
   obtain ⟨p,x,hp,hx,hstep⟩:=trace_step h hlast
   have hfrom:p.state=.noChangeFinalizing ∨ p.state=.applyReconciling := by
    rcases reduceStep_edge hstep with hedge | ⟨-,hcloud⟩
    · exact succeeded_entry _ (mem_runStates _) (hsucceeded ▸ hedge)
    · rw [hsucceeded] at hcloud
      cases hcloud
   rcases hfrom with hfrom | hfrom
   · exact .inl ⟨p,by rwa [hm],hfrom⟩
   · obtain ⟨j,q,y,c,q',hq,hy,hq',hc,hpreparing,happroval,hroot,happly⟩ :=
      applyPreparing_before h hp (by rw [hfrom]; decide)
     refine .inr ⟨j,q,y,c,q',?_,hq,hy,hq',hc,hpreparing,happroval,hroot⟩
     by_contra hlt
     have hmem:=happly k accepted (by omega) (by omega) haccepted
     exact absurd (hstate ▸ hmem) (by decide)
 · intro j p hp hdispatching
   cases j with
   | zero =>
     rw [trace_head h,some.injEq] at hp
     rw [← hp] at hdispatching
     cases hdispatching
   | succ i =>
     obtain ⟨q,x,hq,-,hstep⟩:=trace_step h hp
     refine ⟨i,q,rfl,hq,?_⟩
     rcases reduceStep_edge hstep with hedge | ⟨-,hcloud⟩
     · exact cloudDispatching_entry _ (mem_runStates _) (hdispatching ▸ hedge)
     · rw [hdispatching] at hcloud
       cases hcloud

def appliedPath : List RunState := [
 .snapshotRequested,.snapshotUploading,.snapshotValidating,.snapshotReady,
 .instructionsResolving,.awaitingRequirementsInput,.profileRunning,.acceptanceCheck,
 .verifiedAccepted,.awaitingApplyApproval,.applyPreparing,.applying,.applyReconciling,
 .succeeded]

theorem success_binds_approval_applied :
  ∃(ps:List RunProjection) (last:RunProjection),
    runHistory sampleFresh (enterInputs appliedPath)=.ok ps ∧
    ps[(enterInputs appliedPath).length]?=some last ∧ last.state=.succeeded ∧
    ∃(k:ℕ) (accepted:RunProjection),ps[k]?=some accepted ∧
      accepted.state=.verifiedAccepted := by
 have hstates:historyStates sampleFresh (enterInputs appliedPath) =
   some (.created::appliedPath) := by
  rw [historyStates_eq]
  decide
 obtain ⟨ps,last,hps,-,hlast,hstate⟩:=exists_history hstates
  (n := (enterInputs appliedPath).length) rfl
 obtain ⟨k,accepted,hk,haccepted,-⟩ :=
  (success_binds_approval _ _ ps hps).1 last hlast hstate
 exact ⟨ps,last,hps,hlast,hstate,k,accepted,hk,haccepted⟩

def providerStates : List RunState := [
 .cloudInFlight,.waitingProvider,.cloudOutcomeUnknown,.contextRequested,.solutionReceived]

lemma providerStates_entry : ∀s∈runStates,∀t∈settledTargets s,
  t∈providerStates → s∈providerStates ∨ s=.cloudDispatching := by
 decide

def cloudOutcomeUnknownInput (version:ℕ) : RunInput :=
 sampleInput version .control (.cancellationOutcomeUnknown sampleDigest)

/-- A run cancelled right after its creation whose cancellation outcome is reported unknown. -/
def undispatchedInputs : List RunInput := [
 sampleInput 0 .user .userCancellationRequested,
 cloudOutcomeUnknownInput 1,
 sampleInput 2 .control
  (.enterState .solutionReceived ⟨.solutionReceived,"REASON",[],[],none⟩)]

theorem solution_without_dispatch :
  ∃(ps:List RunProjection) (p:RunProjection),
    runHistory sampleFresh undispatchedInputs=.ok ps ∧ ps[3]?=some p ∧
    p.state=.solutionReceived ∧
    ∀(j:ℕ) (q:RunProjection),ps[j]?=some q → q.state≠.cloudDispatching := by
 have hstates:historyStates sampleFresh undispatchedInputs =
   some [.created,.cancellationPending,.cloudOutcomeUnknown,.solutionReceived] := by
  rw [historyStates_eq]
  decide
 obtain ⟨ps,p,hps,hmap,hp,hstate⟩:=exists_history hstates (n:=3) rfl
 refine ⟨ps,p,hps,hp,hstate,fun j q hq=>?_⟩
 have hmem:q.state∈ps.map (·.state):=mem_map_of_mem (mem_of_getElem? hq)
 rw [hmap] at hmem
 intro hdispatching
 exact absurd (hdispatching ▸ hmem) (by decide)

/-- A cloud result follows a dispatch as long as every unknown cancellation outcome does. -/
theorem cloud_result_after_dispatch (ps:List RunProjection) (h:runHistory fresh inputs=.ok ps)
  (hunknown:∀(i:ℕ) (x:RunInput),inputs[i]?=some x →
   x.1.eventType=.cancellationOutcomeUnknown →
   ∃(j:ℕ) (q:RunProjection),j ≤ i ∧ ps[j]?=some q ∧ q.state=.cloudDispatching) (i:ℕ)
  (p:RunProjection) (hi:ps[i]?=some p)
  (hp:p.state=.solutionReceived ∨ p.state=.contextRequested) :
  ∃(j:ℕ) (q:RunProjection),j < i ∧ ps[j]?=some q ∧ q.state=.cloudDispatching := by
 have hprovider:p.state∈providerStates := by
  rcases hp with hp | hp <;> rw [hp] <;> decide
 obtain ⟨k,u,x,u',hu,hx,-,hstep,hk,hout,hin,-⟩ :=
  trace_lastEntry h (fun q=>q.state∈providerStates) (by simp [createRunProjection,
   providerStates]) hi hprovider
 rcases reduceStep_edge hstep with hedge | ⟨htype,-⟩
 · exact ⟨k,u,hk,hu, (providerStates_entry _ (mem_runStates _) _ hedge hin).resolve_left hout⟩
 · obtain ⟨j,q,hj,hq,hdispatching⟩:=hunknown k x hx htype
   exact ⟨j,q,by omega,hq,hdispatching⟩

def dispatchedPath : List RunState := [
 .snapshotRequested,.snapshotUploading,.snapshotValidating,.snapshotReady,
 .instructionsResolving,.awaitingRequirementsInput,.profileRunning,.pausedNoProgress,
 .repairPreparing,.egressScanning,.cloudPrepared,.cloudDispatching,.solutionReceived]

theorem cloud_result_after_dispatch_path :
  ∃(ps:List RunProjection) (p:RunProjection),
    runHistory sampleFresh (enterInputs dispatchedPath)=.ok ps ∧ ps[13]?=some p ∧
    p.state=.solutionReceived ∧
    ∃(j:ℕ) (q:RunProjection),j<13 ∧ ps[j]?=some q ∧ q.state=.cloudDispatching := by
 have hstates:historyStates sampleFresh (enterInputs dispatchedPath) =
   some (.created::dispatchedPath) := by
  rw [historyStates_eq]
  decide
 obtain ⟨ps,p,hps,-,hp,hstate⟩:=exists_history hstates (n:=13) rfl
 refine ⟨ps,p,hps,hp,hstate,?_⟩
 refine cloud_result_after_dispatch _ _ ps hps ?_ 13 p hp (.inl hstate)
 intro i x hx htype
 have hmem:x.1.eventType∈(enterInputs dispatchedPath).map (·.1.eventType) :=
  mem_map_of_mem (mem_of_getElem? hx)
 exact absurd (htype ▸ hmem) (by decide)

/-- Stretches of a run, each with the one state that leads into it. -/
def phaseGates : List (RunState×List RunState) := [
 (.baselinePlanning,[.awaitingBaselineCommandApproval,.baselineVerifying,
  .waitingBaselineEnvironment,.baselineSealed]),
 (.preflightRunning,[.preflightComplete,.preflightSaturatedWithUnknowns,.preflightResourceLimited,
  .waitingPreflightResource,.contracted,.profileSelected]),
 (.egressScanning,[.awaitingEgressApproval,.cloudPrepared,.cloudDispatching,.cloudInFlight,
  .waitingProvider]),
 (.solutionReceived,[.solutionValidating,.solutionProtocolRejected,.awaitingNewCloudCallApproval,
  .noChangeVerifying,.materializing]),
 (.awaitingApplyApproval,[.applyPreparing,.applying,.applyReconciling])]

lemma phaseGates_entry : ∀gated∈phaseGates,∀s∈runStates,∀t∈settledTargets s,
  t∈gated.2 → s∈gated.2 ∨ s=gated.1 := by
 decide

/-- In particular nothing is dispatched to the cloud that was not scanned since it was compiled. -/
theorem phase_entered_by_gate (ps:List RunProjection) (h:runHistory fresh inputs=.ok ps)
  (gate:RunState) (phase:List RunState) (hgate:(gate,phase)∈phaseGates) (n:ℕ)
  (p:RunProjection) (hn:ps[n]?=some p) (hp:p.state∈phase) :
  ∃k entry,k<n ∧ ps[k]?=some entry ∧ entry.state=gate ∧
   ∀j q,k<j → j ≤ n → ps[j]?=some q → q.state∈phase := by
 have hfree:∀gated∈phaseGates,RunState.created ∉ gated.2 ∧ .cloudOutcomeUnknown ∉ gated.2 := by
  decide
 obtain ⟨k,u,e,u',hu,-,-,hstep,hk,hout,hin,hafter⟩ :=
  trace_lastEntry h (·.state∈phase) (hfree _ hgate).1 hn hp
 refine ⟨k,u,hk,hu,?_,hafter⟩
 rcases reduceStep_edge hstep with hedge | ⟨-,hcloud⟩
 · exact (phaseGates_entry _ hgate _ (mem_runStates _) _ hedge hin).resolve_left hout
 · exact absurd (hcloud ▸ hin) (hfree _ hgate).2

theorem phase_entered_by_gate_path : ∃ps : List RunProjection,
  runHistory sampleFresh (enterInputs dispatchedPath)=.ok ps ∧
  ∃k entry,k<12 ∧ ps[k]?=some entry ∧ entry.state=.egressScanning := by
 have hstates:historyStates sampleFresh (enterInputs dispatchedPath) =
   some (.created::dispatchedPath) := by
  rw [historyStates_eq]
  decide
 obtain ⟨ps,p,hps,-,hp,hstate⟩:=exists_history hstates (n:=12) rfl
 obtain ⟨k,entry,hk,hentry,hgate,-⟩:=phase_entered_by_gate _ _ ps hps _ _
  (.tail _ (.tail _ (.head _))) 12 p hp (by rw [hstate]; decide)
 exact ⟨ps,hps,k,entry,hk,hentry,hgate⟩

end EpistemicCompiler.RunHistory
