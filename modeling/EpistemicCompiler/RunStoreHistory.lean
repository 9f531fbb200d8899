import EpistemicCompiler.RunHistory
import EpistemicCompiler.RunStore

set_option autoImplicit false

/-!
# The event log and the stored run

A committed `persistRunEvent` extends the log by one event and moves the stored run by one step of
the reducer, whatever other transactions run in between.
-/
namespace EpistemicCompiler.RunStoreHistory
open RunStates RunEventRegistry ArtifactRoles RunReducer RunHistory RunStore FallibleRuns
 StoreTransactions List Option Except

variable {reads:StoreReads} {projectId:String} {fresh:CreateRunInput} {tables:RunTables}
 {committed:List PersistRunEventInput} {row:RunRow} {p:RunProjection}

variable {input:CreateRunRowInput} {tables':RunTables}

section

variable {runId createdAt:String}

lemma insertRunArtifact_ok {rows rows':List RunArtifactRow} {binding:VerifiedArtifactBinding}
  (h:insertRunArtifact reads runId createdAt rows binding=.ok rows') :
  rows'=rows++[⟨runId,binding.role,binding.objectDigest,createdAt⟩] := by
 unfold insertRunArtifact at h
 split at h
 · cases h
 · exact (ok.inj h).symm

lemma foldlM_insertRunArtifact {bindings:List VerifiedArtifactBinding}
  {rows rows':List RunArtifactRow}
  (h:bindings.foldlM (insertRunArtifact reads runId createdAt) rows=.ok rows') :
  rows'=rows++bindings.map fun b=>⟨runId,b.role,b.objectDigest,createdAt⟩ := by
 induction bindings generalizing rows with
 | nil =>
   cases h
   simp
 | cons b bindings ih =>
   obtain ⟨rows₁,hrows₁,h⟩:=bind_eq_ok h
   rw [ih h,insertRunArtifact_ok hrows₁]
   simp

lemma loadRunProjection_some {current:RunProjection}
  (h:loadRunProjection projectId tables runId=.ok (some current)) :
  ∃row,tables.findRun runId=some row ∧ current.state=row.state ∧
    current.stateVersion=row.stateVersion := by
 unfold loadRunProjection at h
 split at h
 · cases h
 · rename_i row hrow
   obtain ⟨roles,-,h⟩:=bind_eq_ok h
   cases h
   exact ⟨row,hrow,rfl,rfl⟩

lemma terminalResult_ok {next:RunProjection} {artifacts:VerifiedArtifactSet}
  {terminal:{ terminal : Option ObjectDigest // next.state=.succeeded ↔ terminal.isSome }}
  (h:terminalResult next artifacts=.ok terminal)
  (hnext:next.terminalResultObjectDigest =
   if next.state=.succeeded then successfulRunResultDigest artifacts else none) :
  terminal.1=next.terminalResultObjectDigest := by
 unfold terminalResult at h
 split at h
 · rename_i hsucc
   rw [if_pos hsucc] at hnext
   split at h
   · rename_i digest hdigest
     cases h
     rw [hnext] at hdigest ⊢
     -- Both alternatives look the same role up.
     change (successfulRunResultDigest artifacts <|> successfulRunResultDigest artifacts) =
      some digest at hdigest
     change some digest=successfulRunResultDigest artifacts
     rw [← hdigest]
     cases successfulRunResultDigest artifacts <;> rfl
   · cases h
 · rename_i hsucc
   rw [if_neg hsucc] at hnext
   cases h
   exact hnext.symm

lemma updateRun_ok {input:PersistRunEventInput} {current next:RunProjection}
  {runs runs':List RunRow} (h:updateRun reads input current next runs=.ok runs') :
  ∃task snapshotId terminal,terminalResult next input.artifacts=.ok terminal ∧
    runs'=runs.map fun row=>
     if row.runId=input.event.runId ∧ row.stateVersion=input.event.expectedStateVersion then
      row.advance next input.artifacts task snapshotId terminal
     else row := by
 obtain ⟨terminal,hterm,h⟩:=bind_eq_ok h
 split at h
 · cases h
 · rename_i task htask
   simp only at h
   split at h
   on_goal 1 => cases h
   split at h
   on_goal 1 => cases h
   split at h
   on_goal 1 => cases h
   exact ⟨task,_,terminal,hterm,by simpa using (ok.inj h).symm⟩

lemma persistRunEvent_ok {input:PersistRunEventInput}
  {stored:RunProjection} (h:persistRunEvent reads projectId input tables=.ok (stored,tables')) :
  ∃current next transition,
    loadRunProjection projectId tables input.event.runId=.ok (some current) ∧
    current.stateVersion=input.event.expectedStateVersion ∧
    reduceRun current input.event input.artifacts=.ok (next,transition) ∧
    updateRun reads input current next tables.runs=.ok tables'.runs ∧
    tables'.runEvents=tables.runEvents++[eventRow input next.stateVersion] ∧
    tables'.runArtifacts=tables.runArtifacts.filter (·.runId≠input.event.runId) ++
     input.artifacts.bindings.map fun b=>
      ⟨input.event.runId,b.role,b.objectDigest,input.event.occurredAt⟩ := by
 unfold persistRunEvent at h
 split at h
 on_goal 1 => cases h
 obtain ⟨loaded,hloaded,h⟩:=bind_eq_ok h
 cases loaded with
 | none => cases h
 | some current =>
   simp only at h
   split at h
   on_goal 1 => cases h
   rename_i hversion
   split at h
   on_goal 1 => cases h
   obtain ⟨⟨next,transition⟩,hreduce,h⟩:=bind_eq_ok h
   obtain ⟨_,-,h⟩:=bind_eq_ok h
   obtain ⟨runs,hruns,h⟩:=bind_eq_ok h
   obtain ⟨runEvents,hevents,h⟩:=bind_eq_ok h
   obtain ⟨runArtifacts,harts,h⟩:=bind_eq_ok h
   obtain ⟨reloaded,-,h⟩:=bind_eq_ok h
   cases reloaded with
   | none => cases h
   | some reloaded =>
     cases h
     unfold insertRunEvent at hevents
     split at hevents
     · cases hevents
     exact ⟨current,next,transition,hloaded,not_not.mp hversion,mapError_ok hreduce,hruns,
      (ok.inj hevents).symm,foldlM_insertRunArtifact harts⟩

end

section

def foldRun (fresh:CreateRunInput) (committed:List PersistRunEventInput) :
    Except ReduceError RunProjection :=
 committed.foldlM (fun p input=>reduceStep p (input.event,input.artifacts))
  (createRunProjection fresh)

def StoredBinding (tables:RunTables) (runId role:String) (digest:ObjectDigest) : Prop :=
 ∃row∈tables.runArtifacts,row.runId=runId ∧ row.role=role ∧ row.artifactDigest=digest

structure Agrees (fresh:CreateRunInput) (tables:RunTables)
  (committed:List PersistRunEventInput) (row:RunRow) (p:RunProjection) : Prop where
 found : tables.findRun fresh.runId=some row
 folded : foldRun fresh committed=.ok p
 state : row.state=p.state
 version : row.stateVersion=p.stateVersion
 count : p.stateVersion=committed.length
 terminal : row.terminalResultDigest=p.terminalResultObjectDigest
 bindings : ∀role digest,StoredBinding tables fresh.runId role digest ↔
  RolesBind p.artifactRoles role digest
 log : tables.runEvents.filter (·.runId=fresh.runId) =
  committed.mapIdx fun i input=>eventRow input (i+1)
 expected : committed.map (·.event.expectedStateVersion)=List.range committed.length

variable {tables':RunTables} {stored:RunProjection} {input:PersistRunEventInput}

lemma findRun_key {runId:String} (h:tables.findRun runId=some row) : row.runId=runId := by
 simpa using find?_some h

lemma findRun_runs {runId:String} {f:RunRow → RunRow} (h:tables'.runs=tables.runs.map f)
  (hf:∀r,(f r).runId=r.runId) : tables'.findRun runId=(tables.findRun runId).map f := by
 unfold RunTables.findRun
 rw [h,find?_map]
 congr 2
 funext r
 simp [hf r]

variable (h:Agrees fresh tables committed row p)
 (hcommit:persistRunEvent reads projectId input tables=.ok (stored,tables'))
include h hcommit

lemma Agrees.persist_other (hother:input.event.runId≠fresh.runId) :
  Agrees fresh tables' committed row p := by
 obtain ⟨current,next,transition,-,-,-,hruns,hevents,harts⟩ :=
  persistRunEvent_ok hcommit
 obtain ⟨task,snapshotId,terminal,-,hruns⟩:=updateRun_ok hruns
 refine { h with found:=?_, bindings:=?_, log:=?_ }
 · have hkey:=findRun_key h.found
   rw [findRun_runs hruns (fun r=>by split <;> rfl),h.found,map_some,
    if_neg (by rw [hkey]; exact fun hhit=>hother hhit.1.symm)]
 · intro role digest
   rw [← h.bindings]
   have hne:fresh.runId≠input.event.runId:=hother.symm
   simp only [StoredBinding,harts,List.mem_append,List.mem_filter,List.mem_map,
    decide_eq_true_eq]
   constructor
   · rintro ⟨a,⟨ha,-⟩ | ⟨b,-,rfl⟩,hrun,hrest⟩
     · exact ⟨a,ha,hrun,hrest⟩
     · exact absurd hrun hother
   · rintro ⟨a,ha,hrun,hrest⟩
     exact ⟨a,.inl ⟨ha,hrun ▸ hne⟩,hrun,hrest⟩
 · rw [hevents,filter_append,h.log]
   simp [eventRow,hother]

lemma Agrees.persist_same (hsame:input.event.runId=fresh.runId) :
  ∃row' p',Agrees fresh tables' (committed++[input]) row' p' := by
 obtain ⟨current,next,transition,hload,hversion,hreduce,hruns,hevents,harts⟩ :=
  persistRunEvent_ok hcommit
 obtain ⟨task,snapshotId,terminal,hterm,hruns⟩:=updateRun_ok hruns
 obtain ⟨row₀,hrow₀,hstate₀,hversion₀⟩:=loadRunProjection_some hload
 obtain ⟨contract,-,-,hevent⟩:=reduceRun_ok hreduce
 obtain ⟨-,fields,hevent⟩:=applyEvent_ok hevent
 obtain ⟨roles,hroles,hnext,-⟩:=commitTransition_ok hevent
 have hnextVersion:next.stateVersion=current.stateVersion+1 :=
  congrArg RunProjection.stateVersion hnext
 obtain rfl : row₀=row := by
  rw [hsame,h.found] at hrow₀
  exact (some.inj hrow₀).symm
 have hkey:=findRun_key h.found
 have hcount:current.stateVersion=committed.length := by
  rw [hversion₀,h.version,h.count]
 -- The stored row and the fold differ only in columns that the reducer copies.
 have hstep:reduceStep p (input.event,input.artifacts)=.ok (next.withIdentity p) := by
  have hcongr:=reduceRun_congr (p:=p) (q:=current) (by rw [hstate₀,h.state])
   (by rw [hversion₀,h.version]) input.event input.artifacts
  rw [hreduce] at hcongr
  simp only [reduceStep,hcongr]
  rfl
 refine ⟨row₀.advance next input.artifacts task snapshotId terminal,next.withIdentity p,
  { found:=?_, folded:=?_, state:=rfl, version:=rfl, count:=?_, terminal:=?_,
    bindings:=?_, log:=?_, expected:=?_ }⟩
 · rw [findRun_runs hruns (fun r=>by split <;> rfl),h.found,map_some,
    if_pos ⟨hkey.trans hsame.symm,hversion₀.symm.trans hversion⟩]
 · have hfold:=h.folded
   unfold foldRun at hfold ⊢
   rw [foldlM_append,hfold,ok_bind]
   simp [hstep]
 · rw [length_append,← hcount]
   exact hnextVersion
 · exact terminalResult_ok hterm (hnext ▸ rfl)
 · intro role digest
   change _ ↔ RolesBind next.artifactRoles role digest
   rw [show next.artifactRoles=roles from congrArg _ hnext,projectionArtifactRoles_bind hroles]
   simp only [StoredBinding,harts,List.mem_append,List.mem_filter,List.mem_map,
    decide_eq_true_eq]
   constructor
   · rintro ⟨a,⟨-,ha⟩ | ⟨b,hb,rfl⟩,hrun,rfl,rfl⟩
     · exact absurd (hrun.trans hsame.symm) ha
     · exact hb
   · intro hb
     exact ⟨_,.inr ⟨_,hb,rfl⟩,hsame,rfl,rfl⟩
 · rw [hevents,filter_append,h.log,mapIdx_append]
   simp [eventRow,hsame,hnextVersion,hcount]
 · rw [map_append,h.expected,length_append,length_singleton, range_succ,← hcount,hversion]
   rfl

end

inductive StoreCall where
 | createRun (input:CreateRunRowInput)
 | persistRunEvent (input:PersistRunEventInput)

def applyCall (projectId:String) (tables:RunTables) (call:StoreReads×StoreCall) :
    Except RunStoreError RunProjection×RunTables :=
 match call.2 with
 | .createRun input => executeWrite (createRun call.1 projectId input) tables
 | .persistRunEvent input => executeWrite (persistRunEvent call.1 projectId input) tables

def runCalls (projectId:String) (tables:RunTables) (calls:List (StoreReads×StoreCall)) :
    RunTables :=
 calls.foldl (fun tables call=>(applyCall projectId tables call).2) tables

def committedEvent (projectId runId:String) (tables:RunTables)
    (call:StoreReads×StoreCall) : Option PersistRunEventInput :=
 match call.2 with
 | .createRun _ => none
 | .persistRunEvent input =>
   if input.event.runId=runId ∧ (applyCall projectId tables call).1.isOk then some input
   else none

def commits (projectId runId:String) :
    RunTables → List (StoreReads×StoreCall) → List PersistRunEventInput
 | _, [] => []
 | tables, call::calls =>
   (committedEvent projectId runId tables call).toList ++
    commits projectId runId (applyCall projectId tables call).2 calls

lemma createRun_ok
  (h:createRun reads projectId input tables=.ok (p,tables')) :
  tables.findRun input.runId=none ∧
   p=createRunProjection (input.fresh projectId) ∧
   (∃row,tables'.runs=tables.runs++[row] ∧ row.runId=input.runId ∧
    row.state=.created ∧ row.stateVersion=0 ∧ row.terminalResultDigest=none) ∧
   tables'.runEvents=tables.runEvents ∧
   tables'.runArtifacts=tables.runArtifacts ++
    [⟨input.runId,"task-envelope",input.taskEnvelopeDigest,input.createdAt⟩] := by
 unfold createRun at h
 split at h
 · cases h
 · cases h
 · split at h
   on_goal 1 => cases h
   split at h
   on_goal 1 => cases h
   rename_i hfree
   obtain ⟨artifacts,harts,h⟩:=bind_eq_ok h
   cases h
   refine ⟨?_,rfl,⟨_,rfl,rfl,rfl,rfl,rfl⟩,rfl,insertRunArtifact_ok harts⟩
   exact not_isSome_iff_eq_none.mp fun hrun=>hfree (.inl hrun)

lemma Agrees.create_other {q:RunProjection}
  (h:Agrees fresh tables committed row p)
  (hcreate:createRun reads projectId input tables=.ok (q,tables')) :
  Agrees fresh tables' committed row p := by
 obtain ⟨hfree,-,⟨created,hruns,-⟩,hevents,harts⟩:=createRun_ok hcreate
 have hother:input.runId≠fresh.runId := by
  rintro heq
  rw [heq,h.found] at hfree
  cases hfree
 refine { h with found:=?_, bindings:=?_, log:=by rw [hevents,h.log] }
 · have hfound:=h.found
   unfold RunTables.findRun at hfound ⊢
   rw [hruns,find?_append,hfound,some_or]
 · intro role digest
   rw [← h.bindings]
   simp [StoredBinding,harts,or_and_right,exists_or,hother]

/-- One transaction keeps the agreement, with its event added to the log if it commits one. -/
lemma Agrees.applyCall (projectId:String) (call:StoreReads×StoreCall)
  (h:Agrees fresh tables committed row p) :
  ∃row' p',Agrees fresh (applyCall projectId tables call).2
    (committed++(committedEvent projectId fresh.runId tables call).toList) row' p' := by
 obtain ⟨reads,call⟩:=call
 cases call with
 | createRun input =>
   obtain ⟨q,tables',hwork,hwrite⟩ | ⟨e,-,hwrite⟩ :=
    executeWrite_cases (createRun reads projectId input) tables
   · refine ⟨row,p,?_⟩
     simpa [RunStoreHistory.applyCall,committedEvent,hwrite] using h.create_other hwork
   · refine ⟨row,p,?_⟩
     simpa [RunStoreHistory.applyCall,committedEvent,hwrite] using h
 | persistRunEvent input =>
   obtain ⟨q,tables',hwork,hwrite⟩ | ⟨e,-,hwrite⟩ :=
    executeWrite_cases (persistRunEvent reads projectId input) tables
   · by_cases hrun : input.event.runId=fresh.runId
     · simpa [RunStoreHistory.applyCall,committedEvent,hwrite,hrun,Except.isOk,
        Except.toBool] using h.persist_same hwork hrun
     · refine ⟨row,p,?_⟩
       simpa [RunStoreHistory.applyCall,committedEvent,hwrite,hrun] using h.persist_other hwork hrun
   · refine ⟨row,p,?_⟩
     simpa [RunStoreHistory.applyCall,committedEvent,hwrite,Except.isOk, Except.toBool] using h

lemma Agrees.runCalls (projectId:String) (calls:List (StoreReads×StoreCall))
  (h:Agrees fresh tables committed row p) :
  ∃row' p',Agrees fresh (runCalls projectId tables calls)
    (committed++commits projectId fresh.runId tables calls) row' p' := by
 induction calls generalizing tables committed row p with
 | nil => exact ⟨row,p,by simpa [RunStoreHistory.runCalls,commits] using h⟩
 | cons call calls ih =>
   obtain ⟨row₁,p₁,h₁⟩:=h.applyCall projectId call
   simpa [RunStoreHistory.runCalls,commits] using ih h₁

end EpistemicCompiler.RunStoreHistory
