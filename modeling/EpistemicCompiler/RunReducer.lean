import EpistemicCompiler.ArtifactRoles
import EpistemicCompiler.RunEventRegistry

set_option autoImplicit false

/-!
# The run reducer

`reduceRun` folds one domain event into a run projection. Identifiers and timestamps are
strings; a payload is one that passed its schema, so digests carry their format.
-/
namespace EpistemicCompiler.RunReducer
open RunStates RunEventRegistry ArtifactRoles FallibleRuns List Except

def isLowerHex (c:Char) : Bool :=
 ('0' ≤ c ∧ c ≤ '9') ∨ ('a' ≤ c ∧ c ≤ 'f')

def isDigest (text:String) : Bool :=
 let chars:=text.toList
 chars.take 7 = "sha256:".toList ∧ (chars.drop 7).length=64 ∧ (chars.drop 7).all isLowerHex

structure ObjectDigest where
 text : String
 isDigest_text : isDigest text
 deriving DecidableEq

structure EnterStatePayload where
 target : RunState
 reasonCode : String
 inputArtifactObjectDigests : List ObjectDigest
 outputArtifactObjectDigests : List ObjectDigest
 operationId : Option String

inductive ProviderOutcome where
 | notDispatched | cancelled | completedDiscarded | unknown

def ProviderOutcome.text : ProviderOutcome → String
 | .notDispatched => "NOT_DISPATCHED"
 | .cancelled => "CANCELLED"
 | .completedDiscarded => "COMPLETED_DISCARDED"
 | .unknown => "UNKNOWN"

/-- The type of an event together with its payload. The type of an `ENTER_` event and the
target inside its payload are two separate inputs. -/
inductive RunEventBody where
 | enterState (entered:RunState) (payload:EnterStatePayload)
 | userCancellationRequested
 | cancellationSettled (cancellationReceiptObjectDigest:ObjectDigest)
   (providerOutcome:ProviderOutcome)
 | cancellationOutcomeUnknown (cancellationReceiptObjectDigest:ObjectDigest)
 | unrecoverablePlatformFailure (failureArtifactObjectDigest:ObjectDigest)
   (recoveryAttemptObjectDigests:List ObjectDigest)

structure RunDomainEvent where
 eventId : String
 projectId : String
 runId : String
 expectedStateVersion : ℕ
 actorType : RunActorType
 actorId : String
 causationId : Option String
 correlationId : Option String
 occurredAt : String
 body : RunEventBody

def RunDomainEvent.eventType (event:RunDomainEvent) : RunEventType :=
 match event.body with
 | .enterState entered _ => .enter entered
 | .userCancellationRequested => .userCancellationRequested
 | .cancellationSettled .. => .cancellationSettled
 | .cancellationOutcomeUnknown .. => .cancellationOutcomeUnknown
 | .unrecoverablePlatformFailure .. => .unrecoverablePlatformFailure

structure VerifiedArtifactBinding where
 role : String
 objectDigest : ObjectDigest

structure VerifiedArtifactSet where
 bindings : List VerifiedArtifactBinding
 signaturesValid : Bool
 satisfiedGuards : List RunGuardId

structure ArtifactRoleProjection where
 role : String
 cardinality : ArtifactCardinality
 objectDigests : List ObjectDigest

structure RunProjection where
 projectId : String
 runId : String
 workspaceId : String
 snapshotId : Option String
 state : RunState
 stateVersion : ℕ
 artifactRoles : List ArtifactRoleProjection
 activeOperationId : Option String
 terminalResultObjectDigest : Option ObjectDigest
 updatedAt : String

structure RunTransitionEvent where
 eventId : String
 eventType : RunEventType
 projectId : String
 runId : String
 sequence : ℕ
 previousState : RunState
 nextState : RunState
 actorType : RunActorType
 actorId : String
 causationId : Option String
 correlationId : Option String
 inputArtifactObjectDigests : List ObjectDigest
 outputArtifactObjectDigests : List ObjectDigest
 reasonCode : String
 occurredAt : String

inductive ReduceError where
 | unhandledUnion (eventType:RunEventType)
 | illegalTransition (sourceState:RunState) (eventType:RunEventType)
 | guardFailed (guardId:RunGuardId)
 | unknownArtifactRole (role:String)

variable (projection:RunProjection) (event:RunDomainEvent) (contract:RunEventContract)
 (artifacts:VerifiedArtifactSet)

def asRunEventType (eventType:RunEventType) : Except ReduceError RunEventType :=
 if eventType∈runEventTypes then .ok eventType else .error (.unhandledUnion eventType)

def presentRolesOf : List String :=
 artifacts.bindings.map (·.role)

def artifactRolesSatisfyState (presentRoles:List String) (state:RunState) : Bool :=
 (legalRoleSets state).any fun set=>set.all (·∈presentRoles)

def addBinding (grouped:List (String×List ObjectDigest)) (binding:VerifiedArtifactBinding) :
    List (String×List ObjectDigest) :=
 match grouped with
 | [] => [(binding.role,[binding.objectDigest])]
 | (role,digests)::rest =>
   if role=binding.role then (role,digests++[binding.objectDigest])::rest
   else (role,digests)::addBinding rest binding

def groupBindings (bindings:List VerifiedArtifactBinding) : List (String×List ObjectDigest) :=
 bindings.foldl addBinding []

def projectRole (entry:String×List ObjectDigest) :
    Except ReduceError ArtifactRoleProjection :=
 match artifactRoleRegistry.find? (·.role=entry.1) with
 | none => .error (.unknownArtifactRole entry.1)
 | some registered => .ok ⟨entry.1,registered.cardinality,entry.2⟩

def projectionArtifactRoles : Except ReduceError (List ArtifactRoleProjection) :=
 ((groupBindings artifacts.bindings).insertionSort (fun l r=>l.1 ≤ r.1)).mapM projectRole

def successfulRunResultDigest : Option ObjectDigest :=
 (artifacts.bindings.find? (·.role = "successful-run-result")).map (·.objectDigest)

def requireFact (guardId:RunGuardId) (artifacts:VerifiedArtifactSet) :
    Except ReduceError Unit :=
 if guardId∈artifacts.satisfiedGuards then .ok () else .error (.guardFailed guardId)

def targetStateOf : RunState :=
 match event.body with
 | .enterState _ payload => payload.target
 | .userCancellationRequested => .cancellationPending
 | .cancellationSettled .. => .cancelled
 | .cancellationOutcomeUnknown .. => .cloudOutcomeUnknown
 | .unrecoverablePlatformFailure .. => .failed

def evaluateGuard (guardId:RunGuardId) (projection:RunProjection) (event:RunDomainEvent)
    (artifacts:VerifiedArtifactSet) : Except ReduceError Unit :=
 match guardId with
 | .sourceStateVersionMatches =>
   if event.expectedStateVersion=projection.stateVersion then .ok ()
   else .error (.guardFailed guardId)
 | .requiredArtifactRolesPresent =>
   if artifactRolesSatisfyState (presentRolesOf artifacts) (targetStateOf event) then .ok ()
   else .error (.guardFailed guardId)
 | .artifactSignaturesValid =>
   if artifacts.signaturesValid then .ok () else .error (.guardFailed guardId)
 | .cancellationInterruptible =>
   if projection.state∈interruptibleNonterminalStates then .ok ()
   else .error (.guardFailed guardId)
 | .failureUnrecoverable =>
   if event.eventType=.unrecoverablePlatformFailure then .ok ()
   else .error (.guardFailed guardId)
 | _ => requireFact guardId artifacts

def safeIntegerMax : ℕ := 9007199254740991

structure TransitionFields where
 inputArtifactObjectDigests : List ObjectDigest
 outputArtifactObjectDigests : List ObjectDigest
 reasonCode : String
 activeOperationId : Option String

def transitionEvent (fields:TransitionFields) : RunTransitionEvent :=
 { eventId:=event.eventId
   eventType:=event.eventType
   projectId:=event.projectId
   runId:=event.runId
   sequence:=projection.stateVersion+1
   previousState:=projection.state
   nextState:=contract.targetState
   actorType:=event.actorType
   actorId:=event.actorId
   causationId:=event.causationId
   correlationId:=event.correlationId
   inputArtifactObjectDigests:=fields.inputArtifactObjectDigests
   outputArtifactObjectDigests:=fields.outputArtifactObjectDigests
   reasonCode:=fields.reasonCode
   occurredAt:=event.occurredAt }

def nextProjection (fields:TransitionFields) (roles:List ArtifactRoleProjection) : RunProjection :=
 { projectId:=projection.projectId
   runId:=projection.runId
   workspaceId:=projection.workspaceId
   snapshotId:=projection.snapshotId
   state:=contract.targetState
   stateVersion:=projection.stateVersion+1
   artifactRoles:=roles
   activeOperationId:=fields.activeOperationId
   terminalResultObjectDigest :=
    if contract.targetState=.succeeded then successfulRunResultDigest artifacts else none
   updatedAt:=event.occurredAt }

def commitTransition (fields:TransitionFields) :
    Except ReduceError (RunProjection×RunTransitionEvent) :=
 if projection.stateVersion+1 > safeIntegerMax then
  .error (.illegalTransition projection.state event.eventType)
 else do
  let roles ← projectionArtifactRoles artifacts
  return (nextProjection projection event contract artifacts fields roles,
   transitionEvent projection event contract fields)

def applyEnterState (payload:EnterStatePayload) :
    Except ReduceError (RunProjection×RunTransitionEvent) :=
 if payload.target≠contract.targetState then
  .error (.illegalTransition projection.state event.eventType)
 else commitTransition projection event contract artifacts
  ⟨payload.inputArtifactObjectDigests,payload.outputArtifactObjectDigests,
   payload.reasonCode,payload.operationId⟩

def applyCancellationRequested : Except ReduceError (RunProjection×RunTransitionEvent) :=
 commitTransition projection event contract artifacts
  ⟨[],[],"USER_CANCELLATION_REQUESTED",none⟩

def applyCancellationSettled (receipt:ObjectDigest) (outcome:ProviderOutcome) :
    Except ReduceError (RunProjection×RunTransitionEvent) :=
 commitTransition projection event contract artifacts ⟨[],[receipt],outcome.text,none⟩

def applyCancellationUnknown (receipt:ObjectDigest) :
    Except ReduceError (RunProjection×RunTransitionEvent) :=
 commitTransition projection event contract artifacts
  ⟨[],[receipt],ProviderOutcome.unknown.text,none⟩

def applyPlatformFailure (failure:ObjectDigest) (attempts:List ObjectDigest) :
    Except ReduceError (RunProjection×RunTransitionEvent) :=
 commitTransition projection event contract artifacts
  ⟨attempts,[failure],"UNRECOVERABLE_PLATFORM_FAILURE",none⟩

def applyEvent : Except ReduceError (RunProjection×RunTransitionEvent) :=
 match event.body with
 | .enterState _ payload => applyEnterState projection event contract artifacts payload
 | .userCancellationRequested =>
   applyCancellationRequested projection event contract artifacts
 | .cancellationSettled receipt outcome =>
   applyCancellationSettled projection event contract artifacts receipt outcome
 | .cancellationOutcomeUnknown receipt =>
   applyCancellationUnknown projection event contract artifacts receipt
 | .unrecoverablePlatformFailure failure attempts =>
   applyPlatformFailure projection event contract artifacts failure attempts

def reduceRunWith (lookup:RunState → RunEventType → Option RunEventContract)
    (projection:RunProjection) (event:RunDomainEvent) (artifacts:VerifiedArtifactSet) :
    Except ReduceError (RunProjection×RunTransitionEvent) := do
 let eventType ← asRunEventType event.eventType
 match lookup projection.state eventType with
 | none => .error (.illegalTransition projection.state eventType)
 | some contract =>
   if event.actorType ∉ contract.allowedActorTypes then
    .error (.illegalTransition projection.state eventType)
   else do
    contract.guardIds.forM (evaluateGuard · projection event artifacts)
    applyEvent projection event contract artifacts

def reduceRun : Except ReduceError (RunProjection×RunTransitionEvent) :=
 reduceRunWith getRunEventContract projection event artifacts

structure CreateRunInput where
 projectId : String
 runId : String
 workspaceId : String
 occurredAt : String
 taskEnvelopeDigest : ObjectDigest

def createRunProjection (input:CreateRunInput) : RunProjection :=
 { projectId:=input.projectId
   runId:=input.runId
   workspaceId:=input.workspaceId
   snapshotId:=none
   state:=.created
   stateVersion:=0
   artifactRoles:=[⟨"task-envelope",.exactlyOne,[input.taskEnvelopeDigest]⟩]
   activeOperationId:=none
   terminalResultObjectDigest:=none
   updatedAt:=input.occurredAt }

def GroupBinds (grouped:List (String×List ObjectDigest)) (role:String)
    (digest:ObjectDigest) : Prop :=
 ∃entry∈grouped,entry.1=role ∧ digest∈entry.2

lemma groupBinds_addBinding (grouped:List (String×List ObjectDigest))
  (binding:VerifiedArtifactBinding) (role:String) (digest:ObjectDigest) :
  GroupBinds (addBinding grouped binding) role digest ↔
   GroupBinds grouped role digest ∨ (binding.role=role ∧ binding.objectDigest=digest) := by
 induction grouped with
 | nil => simp [GroupBinds,addBinding,eq_comm]
 | cons entry rest ih =>
   unfold addBinding
   split
   · rename_i hrole
     simp only [GroupBinds,mem_cons,exists_eq_or_imp,mem_append,not_mem_nil, or_false,and_or_left]
     rw [← hrole,or_right_comm,@eq_comm _ digest]
   · simp only [GroupBinds,mem_cons,exists_eq_or_imp] at ih ⊢
     rw [ih,or_assoc]

lemma groupBinds_groupBindings (bindings:List VerifiedArtifactBinding) (role:String)
  (digest:ObjectDigest) :
  GroupBinds (groupBindings bindings) role digest ↔ ⟨role,digest⟩∈bindings := by
 have hfold:∀grouped,GroupBinds (bindings.foldl addBinding grouped) role digest ↔
   GroupBinds grouped role digest ∨ ⟨role,digest⟩∈bindings := by
  induction bindings with
  | nil => simp
  | cons binding bindings ih =>
    intro grouped
    have heq:(⟨role,digest⟩ : VerifiedArtifactBinding)=binding ↔
      binding.role=role ∧ binding.objectDigest=digest := by
     rw [VerifiedArtifactBinding.mk.injEq,eq_comm,@eq_comm _ digest]
    rw [foldl_cons,ih,groupBinds_addBinding,mem_cons,heq,or_assoc]
 rw [groupBindings,hfold]
 simp [GroupBinds]

def RolesBind (roles:List ArtifactRoleProjection) (role:String) (digest:ObjectDigest) :
    Prop :=
 ∃r∈roles,r.role=role ∧ digest∈r.objectDigests

lemma rolesBind_mapM {entries:List (String×List ObjectDigest)}
  {roles:List ArtifactRoleProjection} (h:entries.mapM projectRole=.ok roles) (role:String)
  (digest:ObjectDigest) : RolesBind roles role digest ↔ GroupBinds entries role digest := by
 have hall:=mapM_forall₂ h
 clear h
 induction hall with
 | nil => simp [RolesBind,GroupBinds]
 | cons hentry _ ih =>
   unfold projectRole at hentry
   split at hentry <;> cases hentry
   simp only [RolesBind,GroupBinds,mem_cons,exists_eq_or_imp] at ih ⊢
   exact or_congr Iff.rfl ih

lemma projectionArtifactRoles_bind {artifacts:VerifiedArtifactSet}
  {roles:List ArtifactRoleProjection} (h:projectionArtifactRoles artifacts=.ok roles)
  (role:String) (digest:ObjectDigest) :
  RolesBind roles role digest ↔ ⟨role,digest⟩∈artifacts.bindings := by
 rw [rolesBind_mapM h,← groupBinds_groupBindings]
 simp only [GroupBinds,mem_insertionSort]

section

variable {projection projection':RunProjection} {event:RunDomainEvent}
 {artifacts:VerifiedArtifactSet} {transition:RunTransitionEvent} {contract:RunEventContract}

lemma commitTransition_ok {fields:TransitionFields}
  (h:commitTransition projection event contract artifacts fields=.ok (projection',transition)) :
  ∃roles,projectionArtifactRoles artifacts=.ok roles ∧
    projection'=nextProjection projection event contract artifacts fields roles ∧
    transition=transitionEvent projection event contract fields := by
 unfold commitTransition at h
 split at h
 on_goal 1 => cases h
 obtain ⟨roles,hroles,h⟩:=bind_eq_ok h
 have hpair:=Prod.ext_iff.mp (ok.inj h)
 exact ⟨roles,hroles,hpair.1.symm,hpair.2.symm⟩

lemma applyEvent_ok
  (h:applyEvent projection event contract artifacts=.ok (projection',transition)) :
  (∀entered payload,event.body=.enterState entered payload →
   payload.target=contract.targetState) ∧
  ∃fields,commitTransition projection event contract artifacts fields =
    .ok (projection',transition) := by
 unfold applyEvent at h
 split at h
 case h_1 entered payload hbody =>
  unfold applyEnterState at h
  split at h
  · cases h
  · rename_i htarget
    refine ⟨fun _ _ h'=>?_, _,h⟩
    rw [hbody] at h'
    cases h'
    exact not_not.mp htarget
 all_goals exact ⟨fun _ _ h'=>by simp_all, _,h⟩

lemma reduceRun_ok (h:reduceRun projection event artifacts=.ok (projection',transition)) :
  ∃contract,getRunEventContract projection.state event.eventType=some contract ∧
    (∀g∈contract.guardIds,evaluateGuard g projection event artifacts=.ok ()) ∧
    applyEvent projection event contract artifacts=.ok (projection',transition) := by
 obtain ⟨eventType,htype,h⟩:=bind_eq_ok h
 unfold asRunEventType at htype
 split at htype
 on_goal 2 => cases htype
 cases htype
 split at h
 on_goal 1 => cases h
 rename_i contract hcontract
 split at h
 on_goal 1 => cases h
 obtain ⟨_,hguard,h⟩:=bind_eq_ok h
 exact ⟨contract,hcontract,forM_ok hguard,h⟩

end

section

def RunProjection.withIdentity (r p:RunProjection) : RunProjection :=
 { r with
   projectId:=p.projectId
   runId:=p.runId
   workspaceId:=p.workspaceId
   snapshotId:=p.snapshotId }

variable {p q:RunProjection} (hstate:p.state=q.state)
 (hversion:p.stateVersion=q.stateVersion) (event:RunDomainEvent)
 (artifacts:VerifiedArtifactSet) (contract:RunEventContract)

include hstate hversion

lemma commitTransition_congr (fields:TransitionFields) :
  commitTransition p event contract artifacts fields =
   (commitTransition q event contract artifacts fields).map
    fun r=>(r.1.withIdentity p,r.2) := by
 unfold commitTransition
 rw [hversion,hstate]
 split
 · rfl
 · cases projectionArtifactRoles artifacts with
   | error e => rfl
   | ok roles =>
     simp only [ok_bind,nextProjection,transitionEvent,hversion,hstate]
     rfl

lemma applyEvent_congr :
  applyEvent p event contract artifacts =
   (applyEvent q event contract artifacts).map fun r=>(r.1.withIdentity p,r.2) := by
 unfold applyEvent
 split
 · unfold applyEnterState
   rw [hstate]
   split
   · rfl
   · exact commitTransition_congr hstate hversion ..
 all_goals exact commitTransition_congr hstate hversion ..

lemma reduceRunWith_congr (lookup:RunState → RunEventType → Option RunEventContract) :
  reduceRunWith lookup p event artifacts =
   (reduceRunWith lookup q event artifacts).map fun r=>(r.1.withIdentity p,r.2) := by
 have hguard:(fun g=>evaluateGuard g p event artifacts) =
   fun g=>evaluateGuard g q event artifacts := by
  funext g
  cases g <;> simp only [evaluateGuard,hstate,hversion]
 unfold reduceRunWith
 rw [hstate]
 cases asRunEventType event.eventType with
 | error e => rfl
 | ok eventType =>
   simp only [ok_bind]
   cases lookup q.state eventType with
   | none => rfl
   | some contract =>
     simp only
     split
     · rfl
     · rw [hguard,applyEvent_congr hstate hversion]
       cases List.forM contract.guardIds fun g=>evaluateGuard g q event artifacts with
       | error e => rfl
       | ok _ => rfl

lemma reduceRun_congr :
  reduceRun p event artifacts =
   (reduceRun q event artifacts).map fun r=>(r.1.withIdentity p,r.2) :=
 reduceRunWith_congr hstate hversion event artifacts getRunEventContract

end

end EpistemicCompiler.RunReducer
