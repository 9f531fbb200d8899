import EpistemicCompiler.AgentCalls

set_option autoImplicit false

/-!
# Repairs after blocking findings

Accepted findings that block set the predicate under which a repair implementer is enabled. No run
starts with that predicate, so its first wave accepts the disabled repair for good, and the graph
completes without one.
-/
namespace EpistemicCompiler.AgentJobs
open ProfileCatalog FallibleRuns DagEngine OperationStore Relation List Option Bool

section

variable {κ:Type} [DecidableEq κ]

variable (s:JobStore κ)

def IsRepair (repair:κ) : Prop :=
 (∃spec∈s.profile,spec.id=repair) ∧
  ∀spec∈s.profile,spec.id=repair →
    spec.role=some .implementer ∧ spec.operation=none ∧
     spec.when=some "HAS_BLOCKING_FINDINGS"

def Follows (d k:κ) : Prop :=
 (∃spec∈s.profile,spec.id=k) ∧
  ∀spec∈s.profile,spec.id=k →
    d∈spec.dependsOn ∧ nodeEnabled spec.when s.predicates=true

def Successor (repair k:κ) : Prop :=
 TransGen (Follows s) repair k

def AcceptsBlocking (scope:JobScope κ) (s t:JobRun κ) : Prop :=
 ∃index digest operationId now spawned envelope,
   s.calls[index]?=some (.accept spawned envelope) ∧
   envelope.artifactType=.reviewFindings ∧ envelope.blocking=true ∧
   perform scope s (.persisted index digest operationId now)=some t

/-- Between the two states the repair is spawned, and the nodes after it are accepted later. -/
def Repaired (scope:JobScope κ) (repair:κ) (s t:JobRun κ) : Prop :=
 ∃u v,ReflTransGen (Step scope) s u ∧ Step scope u v ∧ ReflTransGen (Step scope) v t ∧
   status u.store repair≠.spawned ∧ status v.store repair=.spawned ∧
   ∀k,Successor s.store repair k → status v.store k≠.accepted ∧ status t.store k=.accepted

/-- A run begins when the analyst's contract has selected the profile: only calls that go on to the
ready nodes wait, every job is done, and the repair is pending and disabled. -/
structure Begins (scope:JobScope κ) (repair:κ) (s:JobRun κ) : Prop where
 calls : ∀call∈s.calls,call=.resume
 jobs : ∀k attempt,s.store.operations.any (isJob scope k attempt)=true →
  status s.store k=.accepted
 predicate : "HAS_BLOCKING_FINDINGS"∉s.store.predicates
 isRepair : IsRepair s.store repair
 pending : status s.store repair=.pending

end

section

variable {κ:Type} {s t:JobStore κ} {k:κ} {spec:WorkflowNode κ}

lemma nodeEnabled_mono (hpredicates:∀p∈s.predicates,p∈t.predicates)
  {nodeWhen:Option String} (h:nodeEnabled nodeWhen s.predicates=true) :
  nodeEnabled nodeWhen t.predicates=true := by
 cases nodeWhen with
 | none => rfl
 | some predicate =>
   have hmem:predicate∈s.predicates := by simpa [nodeEnabled] using h
   simpa [nodeEnabled] using hpredicates predicate hmem

variable [DecidableEq κ]

lemma recordOf_listed (h:spec∈s.profile) :
  recordOf (loadCursor s) spec.id=.ok (currentRecord s spec.id) := by
 cases hrecord : recordOf (loadCursor s) spec.id with
 | ok record => rw [recordOf_loadCursor hrecord]
 | error e =>
   unfold recordOf at hrecord
   split at hrecord
   · cases hrecord
   · rename_i hnone
     have hother:=find?_eq_none.mp hnone _ (mem_map_of_mem h)
     simp [currentRecord_id] at hother

lemma mem_skippedDisabledNodes (h:spec∈s.profile) (hpending:status s spec.id=.pending)
  (hdisabled:nodeEnabled spec.when s.predicates=false) :
  ∃skipped,skippedDisabledNodes (loadCursor s)=.ok skipped ∧ spec.id∈skipped := by
 have htest:∀spec∈s.profile,(do
   let current ← recordOf (loadCursor s) spec.id
   return current.status=.pending && !nodeEnabled spec.when (loadCursor s).predicates) =
   (.ok (status s spec.id=.pending && !nodeEnabled spec.when s.predicates) :
    Except (DagError κ) Bool) := by
  intro spec hspec
  rw [recordOf_listed hspec]
  rfl
 have hfilter:=(filterM_eq_ok_iff (l:=(loadCursor s).profile)).mpr
  ⟨fun spec hspec=>⟨_,htest spec hspec⟩,rfl⟩
 unfold skippedDisabledNodes
 rw [hfilter,ok_bind]
 refine ⟨_,rfl,mem_map_of_mem (mem_filter.mpr ⟨h,?_⟩)⟩
 simp [htest spec h,hpending,hdisabled,Except.toOption]

lemma accepted_foldl (attempt:κ → ℕ) (skipped:List κ) (h:k∈skipped ∨ status s k=.accepted) :
  status (skipped.foldl (fun s k=>persistNode s ⟨k,.accepted,attempt k,none⟩) s) k=.accepted := by
 induction skipped generalizing s with
 | nil => exact h.resolve_left not_mem_nil
 | cons first rest ih =>
   refine ih ?_
   unfold status at h ⊢
   rw [currentRecord_persistNode]
   split_ifs with hfirst
   · exact .inr rfl
   · exact h.imp_left fun hmem=>(mem_cons.mp hmem).resolve_left hfirst

lemma accepted_controllerWave (h:spec∈s.profile) (hpending:status s spec.id=.pending)
  (hdisabled:nodeEnabled spec.when s.predicates=false) :
  status (controllerWave s).1 spec.id=.accepted := by
 obtain ⟨skipped,hskipped,hmem⟩:=mem_skippedDisabledNodes h hpending hdisabled
 have hskip:=accepted_foldl (fun k=>(currentRecord s k).attempt) skipped (s:=s) (.inl hmem)
 unfold controllerWave
 rw [hskipped]
 dsimp only
 split
 · exact hskip
 · rename_i ready hready
   exact (settled_control hready).accepted hskip

lemma accepted_enqueueReadyAgentWork {scope:JobScope κ} (h:spec∈s.profile)
  (hpending:status s spec.id=.pending)
  (hdisabled:nodeEnabled spec.when s.predicates=false) :
  status (enqueueReadyAgentWork scope s).1 spec.id=.accepted := by
 have hadvance:status (advanceControllerNodes 16 (ensureAnalystNode scope s)).1 spec.id =
   .accepted := by
  have hsame:Settled s (ensureAnalystNode scope s):=settled_ensureAnalystNode
  have hwave:=accepted_controllerWave (hsame.profile ▸ h)
   (congrArg NodeRecord.status currentRecord_ensureAnalystNode |>.trans hpending)
   (hsame.predicates ▸ hdisabled)
  unfold advanceControllerNodes
  split
  all_goals
   rename_i heq
   rw [heq] at hwave
  · exact hwave
  · exact hwave
  · exact (settled_advanceControllerNodes 15 _).accepted hwave
 unfold enqueueReadyAgentWork
 split
 · rename_i heq
   rwa [heq] at hadvance
 · rename_i u heq
   rw [heq] at hadvance
   split
   · exact hadvance
   · rename_i ready hready
     have hpiece:=piece_enqueues.spawnNext ⟨.refl u,rfl⟩ (spawnable_ready hready)
     exact hpiece.grows.accepted _ hadvance

end

section

variable {κ:Type} [DecidableEq κ] {scope:JobScope κ} {first s t:JobRun κ} {repair:κ}

omit [DecidableEq κ] in
lemma Begins.working (h:Begins scope repair s) : Working scope s := by
 refine ⟨fun k attempt hjob=>?_,fun call hcall=>?_⟩
 · rw [h.jobs k attempt hjob]
   decide
 · rw [h.calls call hcall]
   trivial

lemma Begins.step (h:Begins scope repair s) (hstep:Step scope s t) :
  status t.store repair=.accepted := by
 obtain ⟨spec,hspec,rfl⟩:=h.isRepair.1
 have hwhen:=(h.isRepair.2 spec hspec rfl).2.2
 have hready:status (enqueueReadyAgentWork scope s.store).1 spec.id=.accepted :=
  accepted_enqueueReadyAgentWork hspec h.pending (by simpa [hwhen,nodeEnabled] using h.predicate)
 obtain ⟨action,hperform⟩:=hstep
 obtain ⟨calls,result,hturn,hstore,-⟩:=exists_turn hperform
 rw [hstore]
 cases hturn with
 | enqueue | resumed => exact hready
 | report agentId envelope hjob =>
   have hdone:=h.jobs _ _ hjob
   unfold status at hdone
   simpa only [acceptCompletedSpawnJob,if_pos hdone] using hready
 | failure hjob =>
   have hdone:=h.jobs _ _ hjob
   unfold status at hdone
   simpa only [failCompletedSpawnJob,failedRecord,hdone] using hready
 | spawned now hcall => cases h.calls _ (mem_of_getElem? hcall)
 | accepted digest operationId now hcall => cases h.calls _ (mem_of_getElem? hcall)
 | rejected reason hcall hkind => exact absurd (h.calls _ (mem_of_getElem? hcall)) hkind

lemma Grows.reachable (hworking:Working scope s) (hrun:ReflTransGen (Step scope) s t) :
  Grows s.store t.store := by
 induction hrun with
 | refl => exact .refl _
 | tail hrun hstep ih => exact ih.trans ((hworking.reachable hrun).step hstep).2

lemma AcceptsBlocking.step (h:AcceptsBlocking scope s t) : Step scope s t := by
 obtain ⟨index,digest,operationId,now,-,-,-,-,-,hperform⟩:=h
 exact ⟨_,hperform⟩

lemma AcceptsBlocking.predicate (h:AcceptsBlocking scope s t) :
  "HAS_BLOCKING_FINDINGS"∈t.store.predicates := by
 obtain ⟨index,digest,operationId,now,spawned,envelope,hcall,htype,hblock,h⟩:=h
 obtain ⟨accepted,-,-,-,haccept⟩:=acceptEnvelope_eq s.store spawned envelope
 rw [if_pos ⟨htype,hblock⟩] at haccept
 rw [perform] at h
 split at h
 on_goal 2 => cases h
 simp only [hcall,haccept] at h
 cases h
 exact mem_setPredicate _

lemma Begins.accepted (h:Begins scope repair first) (hrun:ReflTransGen (Step scope) first s)
  (hblocking:AcceptsBlocking scope s t) : status s.store repair=.accepted := by
 cases hrun.cases_head with
 | inl hsame =>
   obtain ⟨index,-,-,-,spawned,envelope,hcall,-⟩:=hblocking
   cases h.calls _ (hsame ▸ mem_of_getElem? hcall)
 | inr hlater =>
   obtain ⟨u,hfirst,hrest⟩:=hlater
   have hgrows:=Grows.reachable (h.working.step hfirst).1 hrest
   exact hgrows.accepted repair (h.step hfirst)

lemma Begins.not_repaired (h:Begins scope repair first) {s':JobRun κ}
  (hrun:ReflTransGen (Step scope) first s) (hblocking:AcceptsBlocking scope s s') :
  ¬ Repaired scope repair s' t := by
 rintro ⟨u,v,hu,huv,-,-,hspawned,-⟩
 have hgrows:=Grows.reachable (h.working.reachable hrun) ((hu.tail huv).head hblocking.step)
 have haccepted:=hgrows.accepted repair (h.accepted hrun hblocking)
 rw [hspawned] at haccepted
 cases haccepted

lemma accepted_of_complete (hworking:Working scope s) (hrun:ReflTransGen (Step scope) s t)
  (hcomplete:isAgentDagIdle t.store=.ok true) {spec:WorkflowNode κ}
  (hspec:spec∈s.store.profile) (henabled:nodeEnabled spec.when s.store.predicates=true) :
  status t.store spec.id=.accepted := by
 have hgrows:=Grows.reachable hworking hrun
 rw [← hgrows.profile] at hspec
 have hnode:=allM_true hcomplete spec hspec
 have henabled:nodeEnabled spec.when (loadCursor t.store).predicates=true :=
  nodeEnabled_mono hgrows.predicates henabled
 rw [henabled] at hnode
 exact accepted_loadCursor hnode

/-- Blocking findings on the way to a state force a repair before the graph is reported complete
there, exactly if it is not reported complete or there were no such findings. -/
theorem blocking_findings_force_repair_iff (hbegins:Begins scope repair first) (t:JobRun κ) :
  (∀s s',ReflTransGen (Step scope) first s → AcceptsBlocking scope s s' →
    ReflTransGen (Step scope) s' t → isAgentDagIdle t.store=.ok true →
    Repaired scope repair s' t) ↔
   (isAgentDagIdle t.store=.ok true → ∀s s',ReflTransGen (Step scope) first s →
    AcceptsBlocking scope s s' → ¬ ReflTransGen (Step scope) s' t) := by
 constructor
 · intro h hcomplete s s' hrun hblocking hlater
   exact hbegins.not_repaired hrun hblocking (h s s' hrun hblocking hlater hcomplete)
 · intro h s s' hrun hblocking hlater hcomplete
   exact absurd hlater (h hcomplete s s' hrun hblocking)

/-- A report of completion covers every node that was enabled at some time before it, and no later
step takes that back. -/
theorem completion_covers_enabled {u:JobRun κ} (hfirst:Working scope first)
  (hs:ReflTransGen (Step scope) first s) (ht:ReflTransGen (Step scope) s t)
  (hcomplete:isAgentDagIdle t.store=.ok true) (hu:ReflTransGen (Step scope) t u)
  {spec:WorkflowNode κ} (hspec:spec∈first.store.profile)
  (henabled:nodeEnabled spec.when s.store.predicates=true) :
  status u.store spec.id=.accepted := by
 have hworking:=hfirst.reachable hs
 rw [← (Grows.reachable hfirst hs).profile] at hspec
 refine (Grows.reachable (hworking.reachable ht) hu).accepted _ ?_
 exact accepted_of_complete hworking ht hcomplete hspec henabled

end

def sampleScope : JobScope NodeKey where
 projectId := "project"
 runId := "run"
 analyst := .analyst
 text k := toString (nodeKeys.idxOf k)
 text_injective := by
  intro k k' h
  exact (List.idxOf_inj (mem_nodeKeys k)).mp (toString_nat_injective h)
 tables := ⟨fun _=>true, fun _=>true⟩
 runExists := rfl

def startAt (profile:WorkflowProfile) (predicates:List String) : JobRun NodeKey where
 store :=
  { profile:=profile.nodes, forbiddenActions:=[]
    rows:=fun k=>if k=.analyst then some ⟨.accepted,1,none⟩ else none
    predicates, operations:=[] }
 calls := []
 failures := []

def analystJob : OperationRow :=
 ⟨"project","0","run",.spawnAgent,dedupeKey sampleScope .analyst 1,"",
  .succeeded "",true,1,"","",rfl⟩

def fastStart : JobRun NodeKey :=
 { startAt fastProfile [] with
   store:={ (startAt fastProfile []).store with operations:=[analystJob] } }

def deliver (k:NodeKey) (operationId:String) (artifactType:ArtifactType) (blocking:Bool) :
    List (Action NodeKey) :=
 [.persisted 0 "request" operationId "",.report k 1 "agent" ⟨true,artifactType,blocking,⟨[],[]⟩⟩]

def settleEnvelope : List (Action NodeKey) :=
 [.persisted 0 "artifact" "" "",.resumed 0]

def untilFindings (blocking:Bool) : List (Action NodeKey) :=
 [.enqueue]++deliver .investigator "1" .investigationReport false++settleEnvelope ++
  deliver .implementer "2" .changeManifest false++settleEnvelope ++
  deliver .reviewer "3" .reviewFindings blocking

def findingsWait (s:JobRun NodeKey) : Bool :=
 match (s.calls[0]? : Option (Call NodeKey)) with
 | some (.accept _ envelope) => envelope.artifactType=.reviewFindings && envelope.blocking
 | some (.enqueue _ _) | some .resume | none => false

lemma acceptsBlocking_of_wait {s t:JobRun NodeKey} (hwait:findingsWait s=true)
  (h:perform sampleScope s (.persisted 0 "artifact" "" "")=some t) :
  AcceptsBlocking sampleScope s t := by
 unfold findingsWait at hwait
 split at hwait
 · rename_i spawned envelope hcall
   simp only [and_eq_true,decide_eq_true_eq] at hwait
   exact ⟨0,"artifact","","",spawned,envelope,hcall,hwait.1,hwait.2,h⟩
 all_goals cases hwait

lemma begins_fastStart : Begins sampleScope .repairImplementer fastStart where
 calls := by simp [fastStart,startAt]
 jobs k attempt h := by
  have hjob:isJob sampleScope k attempt analystJob=true := by simpa [fastStart] using h
  have hkey:dedupeKey sampleScope .analyst 1=dedupeKey sampleScope k attempt :=
   (of_decide_eq_true hjob).2.2.2
  rw [← (dedupeKey_injective hkey).1]
  rfl
 predicate := not_mem_nil
 isRepair := by
  have hlisted:∃spec∈fastProfile.nodes,spec.id=.repairImplementer := by decide
  have hspec:∀spec∈fastProfile.nodes,spec.id=.repairImplementer →
    spec.role=some .implementer ∧ spec.operation=none ∧
     spec.when=some "HAS_BLOCKING_FINDINGS" := by decide
  exact ⟨hlisted,hspec⟩
 pending := rfl

/-- The first wave accepts the repair implementer and the fresh reviewer unspawned; findings that
block then leave them so, and the graph completes. -/
theorem blocking_findings_without_repair :
  ∃s s' t,Begins sampleScope .repairImplementer fastStart ∧
    ReflTransGen (Step sampleScope) fastStart s ∧ AcceptsBlocking sampleScope s s' ∧
    ReflTransGen (Step sampleScope) s' t ∧ isAgentDagIdle t.store=.ok true ∧
    ¬ Repaired sampleScope .repairImplementer s' t := by
 have htrace:(performAll sampleScope fastStart (untilFindings true)).any (fun s=>
   (perform sampleScope s (.persisted 0 "artifact" "" "")).any fun s'=>
    (performAll sampleScope s' [.resumed 0]).any fun t=>
     findingsWait s && isAgentDagIdle t.store=.ok true)=true := by decide +kernel
 obtain ⟨s,hs,htrace⟩:=(any_eq_true _ _).mp htrace
 obtain ⟨s',hs',htrace⟩:=(any_eq_true _ _).mp htrace
 obtain ⟨t,ht,htrace⟩:=(any_eq_true _ _).mp htrace
 rw [and_eq_true,decide_eq_true_eq] at htrace
 have hrun:=reachable_of_performAll hs
 have hblocking:=acceptsBlocking_of_wait htrace.1 hs'
 exact ⟨s,s',t,begins_fastStart,hrun,hblocking,reachable_of_performAll ht,htrace.2,
  begins_fastStart.not_repaired hrun hblocking⟩

/-- Findings that do not block let the graph complete. -/
lemma exists_fast_completion : ∃t,ReflTransGen (Step sampleScope) fastStart t ∧
  isAgentDagIdle t.store=.ok true ∧ t.store.predicates=[] := by
 have htrace:(performAll sampleScope fastStart (untilFindings false++settleEnvelope)).any (fun t=>
   isAgentDagIdle t.store=.ok true && t.store.predicates=[])=true := by decide +kernel
 obtain ⟨t,ht,htrace⟩:=(any_eq_true _ _).mp htrace
 rw [and_eq_true,decide_eq_true_eq,decide_eq_true_eq] at htrace
 exact ⟨t,reachable_of_performAll ht,htrace⟩

theorem blocking_findings_force_repair_fast : ∃t,ReflTransGen (Step sampleScope) fastStart t ∧
  isAgentDagIdle t.store=.ok true ∧
  ∀s s',ReflTransGen (Step sampleScope) fastStart s → AcceptsBlocking sampleScope s s' →
   ReflTransGen (Step sampleScope) s' t → isAgentDagIdle t.store=.ok true →
   Repaired sampleScope .repairImplementer s' t := by
 obtain ⟨t,ht,hcomplete,hpredicates⟩:=exists_fast_completion
 refine ⟨t,ht,hcomplete,(blocking_findings_force_repair_iff begins_fastStart t).mpr ?_⟩
 intro _ s s' hrun hblocking hlater
 have hworking:=begins_fastStart.working.reachable (hrun.tail hblocking.step)
 have hmem:=(Grows.reachable hworking hlater).predicates _ hblocking.predicate
 rw [hpredicates] at hmem
 cases hmem

theorem completion_covers_enabled_fast :
  ∃t : JobRun NodeKey,isAgentDagIdle t.store=.ok true ∧ status t.store .reviewer=.accepted := by
 obtain ⟨t,ht,hcomplete,-⟩:=exists_fast_completion
 have hspec:∃spec∈fastProfile.nodes,spec.id=.reviewer ∧ nodeEnabled spec.when [] := by decide
 obtain ⟨spec,hspec,hid,henabled⟩:=hspec
 exact ⟨t,hcomplete,hid ▸ completion_covers_enabled begins_fastStart.working .refl ht hcomplete
  .refl hspec henabled⟩

end EpistemicCompiler.AgentJobs
