import Mathlib.Data.List.Sort
import EpistemicCompiler.FallibleRuns
import EpistemicCompiler.RunStates

set_option autoImplicit false

/-!
# The run-event registry

One contract for each phase edge and for each global event, keyed by source state and event type.
Building the registry fails on a duplicate key and on an `ENTER_` event without its target.
-/
namespace EpistemicCompiler.RunEventRegistry
open RunStates FallibleRuns List Option

inductive RunEventType where
 | enter (target:RunState)
 | userCancellationRequested | cancellationSettled | cancellationOutcomeUnknown
 | unrecoverablePlatformFailure
 deriving DecidableEq

variable (source state:RunState) (eventType:RunEventType)

def runEventTypes : List RunEventType :=
 enterTargetStates.map .enter++[.userCancellationRequested,.cancellationSettled,
  .cancellationOutcomeUnknown,.unrecoverablePlatformFailure]

inductive RunActorType where
 | user | broker | control | verifier
 deriving DecidableEq

structure RunEventContract where
 sourceState : RunState
 eventType : RunEventType
 targetState : RunState
 allowedActorTypes : List RunActorType
 guardIds : List RunGuardId

variable (registry:List RunEventContract) (c:RunEventContract)

def guardOrder (g:RunGuardId) : ℕ := runGuardIds.idxOf g

def sortGuards (guards:List RunGuardId) : List RunGuardId :=
 guards.eraseDups.insertionSort (fun left right=>guardOrder left ≤ guardOrder right)

def commandExecutionTargets : List RunState := [.baselineVerifying,.verifying]

def capacityWaitStates : List RunState := [
 .waitingInitialContextCapacity,.waitingDeltaContextCapacity,.waitingRepairContextCapacity,
 .waitingInitialOutputCapacity,.waitingDeltaOutputCapacity,.waitingRepairOutputCapacity]

def capacityResume : RunState → Option RunState
 | .waitingInitialContextCapacity => some .contextCompiling
 | .waitingDeltaContextCapacity => some .contextDeltaCompiling
 | .waitingRepairContextCapacity => some .repairPreparing
 | .waitingInitialOutputCapacity => some .contextCompiling
 | .waitingDeltaOutputCapacity => some .contextDeltaCompiling
 | .waitingRepairOutputCapacity => some .repairPreparing
 | .waitingPreflightResource => some .preflightRunning
 | _ => none

def userInputWaitStates : List RunState := [
 .awaitingRequirementsInput,.awaitingCloudInput,.awaitingVerificationInput]

def compilerEgressStates : List RunState := [
 .contextCompiling,.contextDeltaCompiling,.repairPreparing,.egressScanning]

/-- The tests of the matrix in source order, each with the guards it pushes. -/
def guardCategories (target:RunState) : List (Bool×List RunGuardId) := [
 (target∈commandExecutionTargets,[.approvalValidAndConsumed]),
 (target=.cloudPrepared,[.approvalValidAndConsumed]),
 ((source=.waitingProvider ∧ target=.cloudPrepared) ∨ source=.cloudOutcomeUnknown ∨
   ((source=.cloudDispatching ∨ source=.cloudInFlight) ∧ target=.cloudOutcomeUnknown),
   [.cloudRecoveryDecisionValid]),
 (source∈compilerEgressStates ∧ target∈capacityWaitStates,[.capacityFailureValid]),
 (capacityResume source=some target,[.capacityConstraintCleared]),
 (source=.waitingCloudEligibility ∧ target=.egressScanning,[.cloudEligibilitySatisfied]),
 (source∈userInputWaitStates,[.inputRevisionCommitted]),
 (source=.pausedNoProgress,[.noProgressCleared]),
 (source=.verifying ∧ target=.verifiedAccepted,[.verdictAcceptedChangeset]),
 (source=.noChangeVerifying ∧ target=.verifiedAccepted,[.verdictAcceptedNoChange]),
 (source=.verifiedAccepted ∧ target=.awaitingApplyApproval,[.verdictAcceptedChangeset]),
 (source=.verifiedAccepted ∧ target=.noChangeFinalizing,[.verdictAcceptedNoChange]),
 ((source=.verifiedRejected ∨ source=.verifiedInconclusive) ∧ target=.repairPreparing,
   [.repairEligible]),
 (target=.pausedNoProgress,[.noProgressPolicySatisfied]),
 (target=.applyPreparing,[.snapshotRootCurrent,.approvalValidAndConsumed]),
 ((source=.applyPreparing ∧ target=.applying) ∨
   (source=.applying ∧ target=.applyReconciling),[.applyJournalValid]),
 (source=.applyReconciling ∧ target=.succeeded,[.applyReceiptCommitted]),
 (source=.applyReconciling ∧ target=.awaitingApplyApproval,[.applyReceiptRolledBack]),
 (source=.applyReconciling ∧ target=.stale,[.applyReceiptStale]),
 (source=.applyReconciling ∧ target=.applyManualRecoveryRequired,
  [.applyReceiptManualRecoveryRequired]),
 (source=.noChangeFinalizing ∧ target=.succeeded,
  [.noChangeReceiptValid,.snapshotRootCurrent]),
 (target=.contracted,[.taskContractValid]),
 (source=.contracted ∧ target=.profileSelected,[.taskContractValid]),
 (source=.profileSelected ∧ target=.profileRunning,[.profileDagBound]),
 (source=.acceptanceCheck ∧ target=.verifiedAccepted,[.acceptanceLedgerClosed])]

def additionalGuards (target:RunState) : List RunGuardId :=
 ((guardCategories source target).filter (·.1)).flatMap (·.2)

inductive RegistryError where
 | notAnEnterTarget (source target:RunState)
 | duplicateKey (source:RunState) (eventType:RunEventType)
 | enterTargetMismatch (eventType:RunEventType) (target:RunState)

def phaseContract (target:RunState) : RunEventContract :=
 { sourceState:=source
   eventType:=.enter target
   targetState:=target
   allowedActorTypes:=[.control]
   guardIds:=sortGuards (baseEdgeGuards++additionalGuards source target) }

def buildPhaseContracts : Except RegistryError (List RunEventContract) := do
 let rows ← phaseTransitions.mapM fun (source,targets)=>
  targets.mapM fun target=>
   if target∈enterTargetStates then .ok (phaseContract source target)
   else .error (.notAnEnterTarget source target)
 return rows.flatten

def cancellationContract : RunEventContract :=
 { sourceState:=source
   eventType:=.userCancellationRequested
   targetState:=.cancellationPending
   allowedActorTypes:=[.user]
   guardIds:=sortGuards (baseEdgeGuards++[.cancellationInterruptible]) }

def failureContract : RunEventContract :=
 { sourceState:=source
   eventType:=.unrecoverablePlatformFailure
   targetState:=.failed
   allowedActorTypes:=[.control,.broker]
   guardIds:=sortGuards (baseEdgeGuards++[.failureUnrecoverable]) }

def cancellationSettledContract : RunEventContract :=
 { sourceState:=.cancellationPending
   eventType:=.cancellationSettled
   targetState:=.cancelled
   allowedActorTypes:=[.control,.broker]
   guardIds:=sortGuards baseEdgeGuards }

def cancellationUnknownContract : RunEventContract :=
 { sourceState:=.cancellationPending
   eventType:=.cancellationOutcomeUnknown
   targetState:=.cloudOutcomeUnknown
   allowedActorTypes:=[.control,.broker]
   guardIds:=sortGuards (baseEdgeGuards++[.cloudRecoveryDecisionValid]) }

def buildGlobalContracts : List RunEventContract :=
 interruptibleNonterminalStates.flatMap
  (fun source=>[cancellationContract source,failureContract source]) ++
 [cancellationSettledContract,cancellationUnknownContract]

/-- The source joins both parts into one string, with a zero character between them. -/
def registryKey : RunState×RunEventType :=
 (c.sourceState,c.eventType)

def insertContract : Except RegistryError (List RunEventContract) :=
 if registry.any (fun r=>registryKey r=registryKey c) then
  .error (.duplicateKey c.sourceState c.eventType)
 else
  match c.eventType with
  | .enter suffix =>
    if suffix=c.targetState then .ok (registry++[c])
    else .error (.enterTargetMismatch c.eventType c.targetState)
  | _ => .ok (registry++[c])

def buildRunEventRegistry : Except RegistryError (List RunEventContract) := do
 let phase ← buildPhaseContracts
 (phase++buildGlobalContracts).foldlM insertContract []

/-- Loading the module fails when the builder throws; `buildRunEventRegistry_eq` shows
that it does not. -/
def runEventRegistry : List RunEventContract :=
 buildRunEventRegistry.toOption.getD []

def getRunEventContract : Option RunEventContract :=
 runEventRegistry.find? (fun r=>registryKey r=(state,eventType))

def phaseContracts : List RunEventContract :=
 phaseTransitions.flatMap fun row=>row.2.map (phaseContract row.1)

def EnterMatches : Prop :=
 ∀suffix,c.eventType=.enter suffix → suffix=c.targetState

lemma phaseTargets_enter :
  ∀row∈phaseTransitions,∀target∈row.2,target∈enterTargetStates := by
 decide

lemma buildPhaseContracts_eq : buildPhaseContracts=.ok phaseContracts := by
 unfold buildPhaseContracts
 rw [mapM_ok (fun row=>row.2.map (phaseContract row.1))]
 · rfl
 · intro row hrow
   refine mapM_ok _ _ fun target ht=>?_
   rw [if_pos (phaseTargets_enter row hrow target ht)]

lemma insertContract_eq (hnew:∀r∈registry,registryKey r≠registryKey c)
  (hc:EnterMatches c) : insertContract registry c=.ok (registry++[c]) := by
 have hany:registry.any (fun r=>registryKey r=registryKey c)=false := by
  simpa using hnew
 unfold insertContract
 rw [hany]
 cases he : c.eventType with
 | enter suffix => simp [hc suffix he]
 | _ => simp

lemma foldlM_insertContract (cs:List RunEventContract)
  (hkeys:((registry++cs).map registryKey).Nodup) (hcs:∀c∈cs,EnterMatches c) :
  cs.foldlM insertContract registry=.ok (registry++cs) := by
 induction cs generalizing registry with
 | nil => simp [pure,Except.pure]
 | cons c cs ih =>
   have hnew:∀r∈registry,registryKey r≠registryKey c := by
    rw [map_append,nodup_append] at hkeys
    exact fun r hr=>hkeys.2.2 _ (mem_map_of_mem hr) _ (by simp)
   rw [foldlM_cons,insertContract_eq registry c hnew (hcs c (by simp))]
   change foldlM insertContract (registry++[c]) cs=_
   rw [ih (registry++[c]) (by simpa using hkeys) (fun d hd=>hcs d (by simp [hd]))]
   simp

lemma phaseSources_nodup : (phaseTransitions.map Prod.fst).Nodup := by
 decide

lemma phaseTargets_nodup : ∀row∈phaseTransitions,row.2.Nodup := by
 decide

lemma interruptibleNonterminalStates_nodup : interruptibleNonterminalStates.Nodup := by
 decide

lemma phaseKeys_nodup : (phaseContracts.map registryKey).Nodup := by
 rw [phaseContracts,map_flatMap,nodup_flatMap]
 constructor
 · intro row hrow
   rw [List.map_map]
   refine (phaseTargets_nodup row hrow).map fun t t' h=>?_
   simpa [registryKey,phaseContract] using h
 · refine (pairwise_map.mp phaseSources_nodup).imp fun {row row'} hne key hkey hkey'=>?_
   simp only [List.map_map,List.mem_map,Function.comp_apply,registryKey,
    phaseContract] at hkey hkey'
   obtain ⟨_,_,rfl⟩:=hkey
   obtain ⟨_,_,h⟩:=hkey'
   exact hne (Prod.ext_iff.mp h).1.symm

lemma globalKeys_nodup : (buildGlobalContracts.map registryKey).Nodup := by
 rw [buildGlobalContracts,map_append,nodup_append,map_flatMap, nodup_flatMap]
 refine ⟨⟨fun s _=>?_, ?_⟩,?_,?_⟩
 · simp [registryKey,cancellationContract,failureContract]
 · refine interruptibleNonterminalStates_nodup.imp fun {s s'} hne=>?_
   simp [Function.onFun,List.Disjoint,registryKey,cancellationContract,failureContract,hne]
 · simp [registryKey,cancellationSettledContract,cancellationUnknownContract]
 · simp only [registryKey,cancellationContract,failureContract,cancellationSettledContract,
    cancellationUnknownContract,mem_flatMap,map_cons,map_nil,mem_cons,
    not_mem_nil,or_false]
   rintro _ ⟨s,-,rfl | rfl⟩ _ (rfl | rfl) <;> simp

lemma registryKeys_nodup :
  ((phaseContracts++buildGlobalContracts).map registryKey).Nodup := by
 rw [map_append,nodup_append]
 refine ⟨phaseKeys_nodup,globalKeys_nodup,?_⟩
 intro key hkey key' hkey'
 simp only [phaseContracts,buildGlobalContracts,map_flatMap,mem_flatMap,
  List.map_append,List.mem_append,List.mem_map] at hkey hkey'
 obtain ⟨row,-,c,⟨t,-,rfl⟩,rfl⟩:=hkey
 rintro rfl
 simp [registryKey,phaseContract,cancellationContract,failureContract,
  cancellationSettledContract,cancellationUnknownContract] at hkey'

lemma contracts_enterMatches :
  ∀c∈phaseContracts++buildGlobalContracts,EnterMatches c := by
 intro c hc suffix he
 simp only [phaseContracts,buildGlobalContracts,mem_append,mem_flatMap,
  List.mem_map,List.mem_cons,List.not_mem_nil,or_false] at hc
 obtain ⟨row,-,t,-,rfl⟩ | ⟨s,-,rfl | rfl⟩ | rfl | rfl:=hc
 · exact (RunEventType.enter.inj he).symm
 all_goals cases he

lemma buildRunEventRegistry_eq :
  buildRunEventRegistry=.ok (phaseContracts++buildGlobalContracts) := by
 have h:=foldlM_insertContract [] (phaseContracts++buildGlobalContracts)
  (by rw [nil_append]; exact registryKeys_nodup) contracts_enterMatches
 rw [buildRunEventRegistry,buildPhaseContracts_eq,ok_bind]
 exact h

lemma runEventRegistry_eq : runEventRegistry=phaseContracts++buildGlobalContracts := by
 rw [runEventRegistry,buildRunEventRegistry_eq]
 rfl

lemma mem_phaseTargets (target:RunState) :
  target∈phaseTargets source ↔ ∃row∈phaseTransitions,row.1=source ∧ target∈row.2 := by
 simp [phaseTargets]

lemma mem_runEventRegistry :
  c∈runEventRegistry ↔
    (∃source,∃target∈phaseTargets source,c=phaseContract source target) ∨
    (∃source∈interruptibleNonterminalStates,
     c=cancellationContract source ∨ c=failureContract source) ∨
    c=cancellationSettledContract ∨ c=cancellationUnknownContract := by
 simp only [runEventRegistry_eq,phaseContracts,buildGlobalContracts,mem_append,
  List.mem_flatMap,List.mem_map,List.mem_cons,List.not_mem_nil,or_false,mem_phaseTargets]
 refine or_congr ⟨?_,?_⟩ Iff.rfl
 · rintro ⟨row,hrow,target,ht,rfl⟩
   exact ⟨row.1,target,⟨row,hrow,rfl,ht⟩,rfl⟩
 · rintro ⟨_,target,⟨row,hrow,rfl,ht⟩,rfl⟩
   exact ⟨row,hrow,target,ht,rfl⟩

lemma getRunEventContract_eq_some :
  getRunEventContract state eventType=some c ↔
   c∈runEventRegistry ∧ c.sourceState=state ∧ c.eventType=eventType := by
 have hkeys:(runEventRegistry.map registryKey).Nodup := by
  rw [runEventRegistry_eq]
  exact registryKeys_nodup
 unfold getRunEventContract
 constructor
 · intro h
   refine ⟨mem_of_find?_eq_some h,?_⟩
   have hkey:=find?_some h
   simpa [registryKey] using hkey
 · rintro ⟨hmem,rfl,rfl⟩
   obtain ⟨d,hd⟩ : ∃d,runEventRegistry.find?
     (fun r=>registryKey r=(c.sourceState,c.eventType))=some d := by
    rw [← isSome_iff_exists,find?_isSome]
    exact ⟨c,hmem,by simp [registryKey]⟩
   have hkey:registryKey d=registryKey c := by simpa [registryKey] using find?_some hd
   rw [hd,inj_on_of_nodup_map hkeys (mem_of_find?_eq_some hd) hmem hkey]

/-- The contract of an event, read off the tables without building the registry. -/
def contractFor : RunEventType → Option RunEventContract
 | .enter target => if target∈phaseTargets state then some (phaseContract state target) else none
 | .userCancellationRequested =>
   if state∈interruptibleNonterminalStates then some (cancellationContract state) else none
 | .unrecoverablePlatformFailure =>
   if state∈interruptibleNonterminalStates then some (failureContract state) else none
 | .cancellationSettled =>
   if state=.cancellationPending then some cancellationSettledContract else none
 | .cancellationOutcomeUnknown =>
   if state=.cancellationPending then some cancellationUnknownContract else none

lemma contractFor_eq_some :
  contractFor state eventType=some c ↔
   c∈runEventRegistry ∧ c.sourceState=state ∧ c.eventType=eventType := by
 rw [mem_runEventRegistry]
 constructor
 · intro h
   cases eventType with
   | enter target =>
     obtain ⟨ht,⟨⟩⟩:=ite_none_right_eq_some.mp h
     exact ⟨.inl ⟨state,target,ht,rfl⟩,rfl,rfl⟩
   | userCancellationRequested =>
     obtain ⟨hs,⟨⟩⟩:=ite_none_right_eq_some.mp h
     exact ⟨.inr (.inl ⟨state,hs,.inl rfl⟩),rfl,rfl⟩
   | unrecoverablePlatformFailure =>
     obtain ⟨hs,⟨⟩⟩:=ite_none_right_eq_some.mp h
     exact ⟨.inr (.inl ⟨state,hs,.inr rfl⟩),rfl,rfl⟩
   | cancellationSettled =>
     obtain ⟨rfl,⟨⟩⟩:=ite_none_right_eq_some.mp h
     exact ⟨.inr (.inr (.inl rfl)),rfl,rfl⟩
   | cancellationOutcomeUnknown =>
     obtain ⟨rfl,⟨⟩⟩:=ite_none_right_eq_some.mp h
     exact ⟨.inr (.inr (.inr rfl)),rfl,rfl⟩
 · rintro ⟨⟨source,target,ht,rfl⟩ | ⟨source,hs,rfl | rfl⟩ | rfl | rfl,rfl,rfl⟩
   · exact if_pos ht
   · exact if_pos hs
   · exact if_pos hs
   · rfl
   · rfl

lemma getRunEventContract_eq :
  getRunEventContract state eventType=contractFor state eventType := by
 ext c
 rw [getRunEventContract_eq_some,contractFor_eq_some]

end EpistemicCompiler.RunEventRegistry
