import EpistemicCompiler.AgentRepair

set_option autoImplicit false

/-!
# The integration check of a change manifest

A node is recorded as accepted before its change manifest is checked, where the report of a job is
taken up as where `driveMultiAgentRun` drives the graph itself. A call may fail wherever it waits,
and where the event of an acceptance is written.
-/
namespace EpistemicCompiler.IntegrationGates
open ProfileCatalog DagEngine AgentJobs List

structure ChangeShard where
 files : List String
 sharedResources : List String
 generatedOutputs : List String

structure IntegrationInput where
 manifest : ChangeManifest
 fileContents : List (String×String)
 shards : Option (List ChangeShard)

structure IntegrationCheck where
 ok : Bool
 outOfScope : List String
 conflictMarkers : List String
 sharedResourceCollision : Bool

def pathsOutsideScope (changedPaths allowedPaths:List String) : List String :=
 if allowedPaths.length=0 then []
 else changedPaths.filter fun path=>!allowedPaths.any fun allowed=>
  path=allowed || (allowed ++ "/").toList.isPrefixOf path.toList

def detectConflictMarkers (contents:List (String×String)) : List String :=
 (contents.filter fun entry=>entry.2.toList.tails.any fun rest=>
  "<<<<<<<".toList.isPrefixOf rest || ">>>>>>>".toList.isPrefixOf rest).map (·.1)

def collides : List String → List String → Bool
 | _, [] => false
 | seen, resource::rest => resource∈seen || collides (resource::seen) rest

def shardsShareResources (shards:List ChangeShard) : Bool :=
 collides [] (shards.flatMap fun shard=>
  shard.files++shard.sharedResources++shard.generatedOutputs)

def checkIntegration (input:IntegrationInput) : IntegrationCheck :=
 let outOfScope:=pathsOutsideScope input.manifest.changedPaths input.manifest.allowedPaths
 let conflictMarkers:=detectConflictMarkers input.fileContents
 let sharedResourceCollision:=input.shards.elim false shardsShareResources
 ⟨outOfScope.length=0 && conflictMarkers.length=0 && !sharedResourceCollision,
  outOfScope,conflictMarkers,sharedResourceCollision⟩

inductive AgentJobResult where
 | ok (detail:String)
 | failed (reason:String)

section Model

variable {κ:Type}

/-- The record that the store has of a node once its change manifest is accepted, and the check of
the manifest, if the call did not fail before it. -/
structure Acceptance (κ:Type) where
 record : NodeRecord κ
 manifest : ChangeManifest
 check : Option IntegrationCheck

def Acceptance.passed (a:Acceptance κ) : Bool :=
 a.check.any (·.ok)

/-- Where `driveMultiAgentRun` stands: the waves after this one, the nodes of this wave after the
one that is spawned, and whether the wave has progressed. -/
structure Frame (κ:Type) where
 waves : ℕ
 rest : List (WorkflowNode κ)
 progressed : Bool
 spawned : NodeRecord κ

/-- What `spawnRoleNode` waits for. It stops the runtime however it ends: with an envelope or none,
with a manifest that is checked next, or with an error. -/
inductive Wait (κ:Type) where
 | spawn
 | consume
 | persist (envelope:Envelope)
 | stop (envelope:Option Envelope)
 | check (record:NodeRecord κ) (manifest:ChangeManifest)
 | abort (error:JobError κ)

inductive Driven (κ:Type) where
 | spawning (frame:Frame κ)
 | answered (result:AgentJobResult)
 | thrown (error:JobError κ)

inductive Next (κ:Type) where
 | waits (frame:Frame κ) (wait:Wait κ)
 | drives (driven:Driven κ)

/-- An acceptance is listed when its handling is at an end. -/
structure ResultRun (κ:Type) where
 jobs : JobRun κ
 drivers : List (Frame κ×Wait κ)
 answers : List AgentJobResult
 acceptances : List (Acceptance κ)

inductive Reply where
 | spawned (agentId:String)
 | consumed (envelope:Option Envelope)
 | stored (digest:String) (unlogged:Option String)
 | stopped
 | fault (reason:String)

inductive Event (κ:Type) where
 | job (action:Action κ)
 | unlogged (index:ℕ) (digest reason:String)
 | drive
 | reply (index:ℕ) (reply:Reply)

variable [DecidableEq κ]

def driveNodes (waves:ℕ) (again:JobStore κ → JobStore κ×Driven κ) (s:JobStore κ)
    (progressed:Bool) : List (WorkflowNode κ) → JobStore κ×Driven κ
 | [] => if progressed then again s else (s,.answered (.failed "no-progress"))
 | spec::rest =>
   if spec.operation.isSome then
    driveNodes waves again (persistNode s ⟨spec.id,.accepted,1,none⟩) true rest
   else
    match spec.role with
    | none => driveNodes waves again s progressed rest
    | some role =>
      match prepareRoleSpawn s spec.id role with
      | .ok (s,spawned) => (s,.spawning ⟨waves,rest,progressed,spawned⟩)
      | .error e => (s,.thrown e)

def driveWaves : ℕ → JobStore κ → JobStore κ×Driven κ
 | 0, s => (s,.answered (.ok "saturated"))
 | waves+1, s =>
   match skippedDisabledNodes (loadCursor s) with
   | .error e => (s,.thrown (.dag e))
   | .ok skipped =>
     let current:=s
     let s:=skipped.foldl
      (fun s k=>persistNode s ⟨k,.accepted,(currentRecord current k).attempt,none⟩) s
     match readyNodes (loadCursor s) with
     | .error e => (s,.thrown (.dag e))
     | .ok [] => (s,.answered (.ok ("waves:"++toString (31-waves))))
     | .ok ready => driveNodes waves (driveWaves waves) s false ready

def driveMultiAgentRun (scope:JobScope κ) (s:JobStore κ) : JobStore κ×Driven κ :=
 driveWaves 32 (ensureAnalystNode scope s)

def persistReduced (s:JobStore κ) (current:NodeRecord κ) (event:AgentNodeEventType)
    (agentId:Option String) : Except (DagError κ) (JobStore κ) :=
 (reduceNode current event agentId).map (persistNode s)

def persistAccepted (s:JobStore κ) (spawned:NodeRecord κ) : Except (DagError κ) (JobStore κ) :=
 persistReduced s { spawned with status:=.validating } .artifactAccepted spawned.agentId

/-- A manifest is recorded as accepted, and the event of this is lost. -/
def unchecked (s:JobStore κ) (spawned:NodeRecord κ) (envelope:Envelope) :
    Option (Acceptance κ) :=
 if envelope.artifactType=.changeManifest then
  some ⟨currentRecord s spawned.nodeId,envelope.manifest,none⟩
 else none

/-- How a driver goes on, and the acceptance whose handling ends there. Runs end where a task
contract is accepted, as those of the jobs do. -/
def proceed (scope:JobScope κ) (s:JobStore κ) (frame:Frame κ) :
    Wait κ → Reply → Option (Option (Acceptance κ)×JobStore κ×Next κ)
 | .spawn, .spawned agentId =>
   let spawned:={ frame.spawned with agentId:=some agentId }
   some (none,persistNode s spawned,.waits { frame with spawned } .consume)
 | .consume, .consumed envelope =>
   if envelope.any (·.artifactType=.taskContract) then none
   else
    match envelope.filter (·.valid) with
    | some envelope => some (none,s,.waits frame (.persist envelope))
    | none =>
      match persistReduced s frame.spawned
       (if envelope.isSome then .nodeRetrying else .nodeFailed) none with
      | .ok s => some (none,s,.waits frame (.stop none))
      | .error e => some (none,s,.waits frame (.abort (.dag e)))
 | .persist envelope, .stored digest unlogged =>
   if scope.tables.artifactExists digest then
    match persistAccepted s frame.spawned, unlogged with
    | .error e, _ => some (none,s,.waits frame (.abort (.dag e)))
    | .ok s, some reason =>
      some (unchecked s frame.spawned envelope,s,.waits frame (.abort (.persistence reason)))
    | .ok s, none =>
      some (none,s,.waits frame (if envelope.artifactType=.changeManifest then
       .check (currentRecord s frame.spawned.nodeId) envelope.manifest else .stop (some envelope)))
   else none
 | .stop envelope, .stopped =>
   let s:=if envelope.any fun e=>e.artifactType=.reviewFindings && e.blocking then
    setPredicate s "HAS_BLOCKING_FINDINGS" else s
   let (s,driven):=driveNodes frame.waves (driveWaves frame.waves) s
    (frame.progressed || envelope.isSome) frame.rest
   some (none,s,.drives driven)
 | .check record manifest, .stopped =>
   let check:=checkIntegration ⟨manifest,[],none⟩
   let (s,driven):=if check.ok then
     driveNodes frame.waves (driveWaves frame.waves) s true frame.rest
    else (s,.answered (.failed "integration-failed"))
   some (some ⟨record,manifest,check⟩,s,.drives driven)
 | .abort error, .stopped => some (none,s,.drives (.thrown error))
 | .consume, .fault reason | .persist _, .fault reason =>
   some (none,s,.waits frame (.abort (.persistence reason)))
 | .check record manifest, .fault reason =>
   some (some ⟨record,manifest,none⟩,s,.drives (.thrown (.persistence reason)))
 | .spawn, .fault reason | .stop _, .fault reason | .abort _, .fault reason =>
   some (none,s,.drives (.thrown (.persistence reason)))
 | _, _ => none

def ResultRun.go (s:ResultRun κ) (drivers:List (Frame κ×Wait κ)) (listed:Option (Acceptance κ))
    (store:JobStore κ) (after:Next κ) : ResultRun κ :=
 let acceptances:=s.acceptances++listed.toList
 match after with
 | .waits frame wait => ⟨{ s.jobs with store },drivers++[(frame,wait)],s.answers,acceptances⟩
 | .drives (.spawning frame) =>
   ⟨{ s.jobs with store },drivers++[(frame,.spawn)],s.answers,acceptances⟩
 | .drives (.answered result) => ⟨{ s.jobs with store },drivers,s.answers++[result],acceptances⟩
 | .drives (.thrown error) =>
   ⟨{ s.jobs with store, failures:=s.jobs.failures++[error] },drivers,s.answers,acceptances⟩

/-- The acceptance that a step of the jobs brings: `acceptEnvelope` checks the manifest in the same
turn, and a check that fails only changes its answer. -/
def jobAcceptance (s:JobRun κ) (store:JobStore κ) : Action κ → Option (Acceptance κ)
 | .persisted index _ _ _ =>
   match s.calls[index]? with
   | some (.accept spawned envelope) =>
     (unchecked store spawned envelope).map
      ({ · with check:=checkIntegration ⟨envelope.manifest,[],none⟩ })
   | _ => none
 | _ => none

def handle (scope:JobScope κ) (s:ResultRun κ) : Event κ → Option (ResultRun κ)
 | .job action =>
   (perform scope s.jobs action).map fun jobs=>
    { s with jobs, acceptances:=s.acceptances++(jobAcceptance s.jobs jobs.store action).toList }
 | .unlogged index digest reason =>
   match s.jobs.calls[index]? with
   | some (.accept spawned envelope) =>
     match persistAccepted s.jobs.store spawned with
     | .ok store =>
       if scope.tables.artifactExists digest then
        some { s with
         jobs:=⟨store,s.jobs.calls.eraseIdx index,s.jobs.failures++[.persistence reason]⟩
         acceptances:=s.acceptances++(unchecked store spawned envelope).toList }
       else none
     | .error _ => none
   | _ => none
 | .drive =>
   let (store,driven):=driveMultiAgentRun scope s.jobs.store
   some (s.go s.drivers none store (.drives driven))
 | .reply index reply => do
   let (frame,wait) ← s.drivers[index]?
   let (listed,store,after) ← proceed scope s.jobs.store frame wait reply
   return s.go (s.drivers.eraseIdx index) listed store after

def handleAll (scope:JobScope κ) (s:ResultRun κ) (events:List (Event κ)) :
    Option (ResultRun κ) :=
 events.foldlM (handle scope) s

end Model

section Runs

variable {κ:Type} {scope:JobScope κ}

structure Acceptance.Sound (a:Acceptance κ) : Prop where
 accepted : a.record.status=.accepted
 check : ∀check∈a.check,check=checkIntegration ⟨a.manifest,[],none⟩

def Wait.Sound : Wait κ → Prop
 | .check record _ => record.status=.accepted
 | _ => True

def Next.Sound : Next κ → Prop
 | .waits _ wait => wait.Sound
 | .drives _ => True

variable {envelope:Envelope} {a:Acceptance κ}

lemma sound_of_unchecked {s:JobStore κ} {spawned:NodeRecord κ}
  (hstatus:status s spawned.nodeId=.accepted) (h:unchecked s spawned envelope=some a) :
  a.Sound := by
 obtain ⟨-,h⟩:=Option.ite_none_right_eq_some.mp h
 cases h
 exact ⟨hstatus,nofun⟩

structure ResultRun.Sound (s:ResultRun κ) : Prop where
 acceptances : ∀a∈s.acceptances,a.Sound
 drivers : ∀driver∈s.drivers,driver.2.Sound

variable {s t:ResultRun κ}

lemma ResultRun.Sound.go (h:s.Sound) {drivers:List (Frame κ×Wait κ)}
  {listed:Option (Acceptance κ)} {store:JobStore κ} {after:Next κ}
  (hdrivers:drivers ⊆ s.drivers) (hlisted:∀a∈listed,a.Sound) (hafter:after.Sound) :
  (s.go drivers listed store after).Sound := by
 have hold:∀driver∈drivers,driver.2.Sound:=fun _ hmem=>h.drivers _ (hdrivers hmem)
 have hlog:∀a∈s.acceptances++listed.toList,a.Sound := by
  simpa [or_imp,forall_and] using ⟨h.acceptances,hlisted⟩
 obtain ⟨frame,wait⟩ | frame | result | error:=after
 · exact ⟨hlog,forall_mem_append.mpr ⟨hold,forall_mem_singleton.mpr hafter⟩⟩
 · exact ⟨hlog,forall_mem_append.mpr ⟨hold,forall_mem_singleton.mpr trivial⟩⟩
 · exact ⟨hlog,hold⟩
 · exact ⟨hlog,hold⟩

variable [DecidableEq κ]

section Replies

variable {s t:JobStore κ} {frame:Frame κ} {wait:Wait κ} {after:Next κ}
 {spawned:NodeRecord κ} {listed:Option (Acceptance κ)}

lemma status_persistAccepted (h:persistAccepted s spawned=.ok t) :
  status t spawned.nodeId=.accepted := by
 cases h
 simp [status,currentRecord_persistNode]
 rfl

omit [DecidableEq κ] in
lemma sound_of_none (hafter:after.Sound) :
  (∀a∈(none:Option (Acceptance κ)),a.Sound) ∧ after.Sound :=
 ⟨nofun,hafter⟩

lemma proceed_sound {reply:Reply} (hwait:wait.Sound)
  (h:proceed scope s frame wait reply=some (listed,t,after)) :
  (∀a∈listed,a.Sound) ∧ after.Sound := by
 unfold proceed at h
 split at h
 any_goals
  cases h
  exact sound_of_none trivial
 · -- the agent has replied
   split at h
   on_goal 1 => cases h
   split at h
   on_goal 2 => split at h
   all_goals
    cases h
    exact sound_of_none trivial
 · -- the artifact is persisted
   split at h
   on_goal 2 => cases h
   split at h
   · cases h
     exact sound_of_none trivial
   · rename_i hstore
     cases h
     exact ⟨fun a=>sound_of_unchecked (status_persistAccepted hstore),trivial⟩
   · rename_i hstore
     cases h
     refine sound_of_none ?_
     unfold Next.Sound
     split_ifs
     · exact status_persistAccepted hstore
     · trivial
 · cases h
   refine ⟨?_,trivial⟩
   rintro a ⟨⟩
   exact ⟨hwait,fun _ h=>(Option.some.inj h).symm⟩
 · cases h
   refine ⟨?_,trivial⟩
   rintro a ⟨⟩
   exact ⟨hwait,nofun⟩
 · cases h

end Replies

lemma sound_of_job {action:Action κ} {jobs:JobRun κ}
  (h:perform scope s.jobs action=some jobs) (ha:jobAcceptance s.jobs jobs.store action=some a) :
  a.Sound := by
 unfold jobAcceptance at ha
 split at ha
 on_goal 2 => cases ha
 split at ha
 on_goal 2 => cases ha
 rename_i index digest operationId now spawned envelope hcall
 obtain ⟨accepted,hid,hstatus,-,haccept⟩:=acceptEnvelope_eq s.jobs.store spawned envelope
 simp only [perform,hcall,haccept] at h
 obtain ⟨-,h⟩:=Option.ite_none_right_eq_some.mp h
 cases h
 obtain ⟨unchecked,hunchecked,rfl⟩:=Option.map_eq_some_iff.mp ha
 obtain ⟨-,hunchecked⟩:=Option.ite_none_right_eq_some.mp hunchecked
 cases hunchecked
 refine ⟨?_,fun _ h=>(Option.some.inj h).symm⟩
 unfold JobRun.finish
 split_ifs <;> simp [currentRecord_setPredicate,currentRecord_persistNode,hid,hstatus]

lemma ResultRun.Sound.handle (h:s.Sound) {event:Event κ} (ht:handle scope s event=some t) :
  t.Sound := by
 cases event with
 | job action =>
   obtain ⟨jobs,hjobs,rfl⟩:=Option.map_eq_some_iff.mp ht
   refine ⟨?_,h.drivers⟩
   simpa [or_imp,forall_and] using ⟨h.acceptances,fun a=>sound_of_job hjobs⟩
 | unlogged index digest reason =>
   simp only [IntegrationGates.handle] at ht
   split at ht
   on_goal 2 => cases ht
   split at ht
   on_goal 2 => cases ht
   rename_i hstore
   obtain ⟨-,ht⟩:=Option.ite_none_right_eq_some.mp ht
   cases ht
   refine ⟨?_,h.drivers⟩
   simpa [or_imp,forall_and] using
    ⟨h.acceptances,fun a=>sound_of_unchecked (status_persistAccepted hstore)⟩
 | drive =>
   cases ht
   exact h.go (Subset.refl _) nofun trivial
 | reply index reply =>
   obtain ⟨⟨frame,wait⟩,hdriver,ht⟩:=Option.bind_eq_some_iff.mp ht
   obtain ⟨⟨listed,store,after⟩,hproceed,ht⟩:=Option.bind_eq_some_iff.mp ht
   cases ht
   obtain ⟨hlisted,hafter⟩:=proceed_sound (h.drivers _ (mem_of_getElem? hdriver)) hproceed
   exact h.go (eraseIdx_sublist _ _).subset hlisted hafter

lemma ResultRun.Sound.handleAll (h:s.Sound) {events:List (Event κ)}
  (ht:handleAll scope s events=some t) : t.Sound := by
 induction events generalizing s with
 | nil =>
   cases ht
   exact h
 | cons event events ih =>
   obtain ⟨u,hu,ht⟩:=Option.bind_eq_some_iff.mp ht
   exact ih (h.handle hu) ht

end Runs

def manifestEnvelope (changed:String) : Envelope :=
 ⟨true,.changeManifest,false,⟨[changed],["src"]⟩⟩

def untilManifest (changed:String) : List (Action NodeKey) :=
 [.enqueue]++deliver .investigator "1" .investigationReport false++settleEnvelope ++
  [.persisted 0 "request" "2" "",.report .implementer 1 "agent" (manifestEnvelope changed)]

def reported (changed:String) : List (Event NodeKey) :=
 (untilManifest changed).map .job

/-- The same where the graph is driven, up to the record of the acceptance. -/
def driven (changed:String) : List (Event NodeKey) :=
 .drive::([.spawned "agent",.consumed (some ⟨true,.investigationReport,false,⟨[],[]⟩⟩),
  .stored "artifact" none,.stopped,.spawned "agent",.consumed (some (manifestEnvelope changed)),
  .stored "artifact" none].map (.reply 0))

end EpistemicCompiler.IntegrationGates
