import EpistemicCompiler.AttachRequests

set_option autoImplicit false

/-!
# Ceremonies of attach requests

A ceremony takes place in every approved request for a root that is unknown, has moved or is not
trusted yet. It uses up a nonce that comes with the request, if one does, and what the nonce was
issued for is not compared.
-/
namespace EpistemicCompiler.AttachCeremonies
open PromotionWorld (RecoveryState SessionState Digest)
open AttachRequests Option

variable {request:AttachRequest} {world:World} {nfc:String → String} {observed:ObservedRoot}

variable {α β:Type}

variable {bind:WorkspaceBind} (store:Store)

section Runs

lemma run_bind (x:RunnerM α) (f:α → RunnerM β) (world:World) :
  (x >>= f) world=match x world with
   | .ok a world => f a world
   | .error error world => .error error world := by
 change EStateM.bind x f world=_
 unfold EStateM.bind
 cases x world <;> rfl

lemma run_of_ok {x:RunnerM α} {f:α → RunnerM β} {world':World} {a:α}
  (h:x world=.ok a world') : (x >>= f) world=f a world' := by
 rw [run_bind,h]

variable {bind:WorkspaceBind}

def Untouched (world world':World) : Prop :=
 world'.store.workspaces=world.store.workspaces ∧ world'.completed=world.completed

lemma tryQuietReady_run : tryQuietReady request bind world =
  match projectTrusted request.plane with
  | .ok trusted => .ok (if trusted && (lookupWorkspace world.store bind.workspaceId).isSome then
    some bind else none) world
  | .error error => .error error world := by
 unfold tryQuietReady
 cases projectTrusted request.plane <;> rfl

lemma openEnsureNonce_run : openEnsureNonce request bind world =
  match world.store.sessions request.freshNonce with
  | some _ => .error .sqlite world
  | none => .ok request.freshNonce { world with
    store:=putSession world.store request.freshNonce
     ⟨.ensure bind.canonicalRoot bind.volumeIdentity bind.rootFileIdentity,bind.workspaceId,
      request.now+sessionLifetime,.created⟩ } := by
 change (match world.store.sessions request.freshNonce with
  | some _ => _ | none => _ : RunnerM String)
  world=_
 cases world.store.sessions request.freshNonce <;> rfl

def Registrable (bind:WorkspaceBind) : Prop :=
 (lookupWorkspace store bind.workspaceId).isSome ∨
  ∀row∈store.workspaces,¬(row.volumeIdentity=bind.volumeIdentity ∧
    row.rootFileIdentity=bind.rootFileIdentity)

lemma lookupWorkspace_isSome_iff {store:Store} {workspaceId:String} :
  (lookupWorkspace store workspaceId).isSome ↔
   ∃row∈store.workspaces,row.workspaceId=workspaceId := by
 simp [lookupWorkspace,List.find?_isSome]

lemma registerWorkspace_ok {row:Workspace}
  (hnew:∀other∈world.store.workspaces,other.workspaceId≠row.workspaceId)
  (hfree:∀other∈world.store.workspaces,¬(other.volumeIdentity=row.volumeIdentity ∧
   other.rootFileIdentity=row.rootFileIdentity)) :
  ∃world',registerWorkspace row world=.ok () world' ∧
    world'.store.workspaces=world.store.workspaces++[row] ∧
    world'.store.sessions=world.store.sessions ∧ world'.completed=world.completed := by
 have hids:row.workspaceId ∉ world.store.workspaces.map Workspace.workspaceId:=fun hmem=>by
  obtain ⟨other,hother,heq⟩:=List.mem_map.mp hmem
  exact hnew other hother heq
 have hunique:¬(world.store.workspaces.any fun other=>other.projectId=row.projectId &&
   other.volumeIdentity=row.volumeIdentity &&
   other.rootFileIdentity=row.rootFileIdentity)=true := by
  simp only [List.any_eq_true,Bool.and_eq_true,decide_eq_true_eq,not_exists,not_and]
  rintro other hother ⟨-,hvolume⟩ hfile
  exact hfree other hother ⟨hvolume,hfile⟩
 change ∃world',(dite _ _ _:RunnerM Unit) world=_ ∧ _
 rw [dif_pos hids,if_neg hunique]
 exact ⟨_,rfl,rfl,rfl,rfl⟩

lemma registerLocal_ok (now:ℕ) (h:Registrable world.store bind) :
  ∃world',registerLocal bind now world=.ok () world' ∧
    (lookupWorkspace world'.store bind.workspaceId).isSome ∧
    world'.store.sessions=world.store.sessions ∧ world'.completed=world.completed := by
 by_cases hknown : (lookupWorkspace world.store bind.workspaceId).isSome
 · exact ⟨_,congrFun (if_pos hknown) world,hknown,rfl,rfl⟩
 · have hnew:∀other∈world.store.workspaces,other.workspaceId≠(bind.row now).workspaceId :=
    fun other hother heq=>hknown (lookupWorkspace_isSome_iff.mpr ⟨other,hother,heq⟩)
   obtain ⟨registered,hrun,hrows,hsessions,hcompleted⟩ :=
    registerWorkspace_ok hnew (h.resolve_left hknown)
   refine ⟨_,(congrFun (if_neg hknown) world).trans (run_of_ok hrun),
    lookupWorkspace_isSome_iff.mpr ⟨bind.row now,?_,rfl⟩,hsessions,hcompleted⟩
   rw [hrows]
   exact List.mem_append_right _ (List.mem_singleton_self _)

def Accepted (request:AttachRequest) : Prop :=
 ∀plane,request.plane=some plane → controlPlaneCeremony plane=.ok ()

def complete (bind:WorkspaceBind) (world:World) : World :=
 { world with completed:=world.completed++[bind] }

lemma ceremony_run {plane:ControlPlane} (hplane:request.plane=some plane) (already:Bool) :
  completeControlCeremony request bind already world =
   match controlPlaneCeremony plane with
   | .error error => .error error world
   | .ok _ =>
     if !already && (lookupWorkspace world.store bind.workspaceId).isNone then
      (registerLocal bind request.now >>= fun _=>modify (complete bind)) world
     else .ok () (complete bind world) := by
 unfold completeControlCeremony
 simp only [hplane]
 cases controlPlaneCeremony plane with
 | error error => rfl
 | ok _ =>
   by_cases h : (!already && (lookupWorkspace world.store bind.workspaceId).isNone)=true
   · simp only [if_pos h]
     exact congrFun (if_pos h) world
   · simp only [if_neg h]
     exact congrFun (if_neg h) world

lemma ceremony_registered (h:Accepted request) :
  completeControlCeremony request bind true world=.ok () (complete bind world) := by
 cases hplane : request.plane with
 | none =>
   unfold completeControlCeremony
   rw [hplane]
   rfl
 | some plane =>
   rw [ceremony_run hplane,h plane hplane]
   rfl

lemma ceremony_unregistered (h:Accepted request) (hbind:Registrable world.store bind) :
  ∃world',completeControlCeremony request bind false world=.ok () world' ∧
    Registrable world'.store bind ∧ world'.store.sessions=world.store.sessions ∧
    world'.completed=world.completed++[bind] := by
 cases hplane : request.plane with
 | none =>
   unfold completeControlCeremony
   rw [hplane]
   exact ⟨complete bind world,rfl,hbind,rfl,rfl⟩
 | some plane =>
   rw [ceremony_run hplane,h plane hplane]
   by_cases hknown : (lookupWorkspace world.store bind.workspaceId).isNone
   · obtain ⟨registered,hrun,hsome,hsessions,hcompleted⟩:=registerLocal_ok request.now hbind
     simp only [hknown,Bool.not_false,Bool.and_self,if_true,run_of_ok hrun]
     exact ⟨complete bind registered,rfl,.inl hsome,hsessions, congrArg (·++[bind]) hcompleted⟩
   · simp only [hknown,Bool.and_false,Bool.false_eq_true,if_false]
     exact ⟨complete bind world,rfl,hbind,rfl,rfl⟩

end Runs

section Steps

variable {row:Workspace}

def matching (observed:ObservedRoot) : Option Workspace :=
 (lookupWorkspacesByIdentity store observed.volumeIdentity observed.rootFileIdentity).head?

/-- An approved request needs a ceremony: the root is unknown or has moved, or the control plane
does not trust its project. -/
def CeremonyDue (nfc:String → String) (store:Store) (request:AttachRequest)
    (observed:ObservedRoot) : Prop :=
 ∀row,matching store observed=some row → drifted nfc store observed row=true ∨
   row.recoveryState=.ready ∧ request.plane≠none ∧ projectTrusted request.plane=.ok false

lemma mem_of_matching (h:matching world.store observed=some row) :
  row∈world.store.workspaces ∧ row.volumeIdentity=observed.volumeIdentity ∧
   row.rootFileIdentity=observed.rootFileIdentity := by
 have hmem:=(List.mem_insertionSort _).mp (List.mem_of_mem_head? h)
 rw [List.mem_filter,Bool.and_eq_true,decide_eq_true_eq,decide_eq_true_eq] at hmem
 exact hmem

lemma not_mem_of_matching (h:matching world.store observed=none) :
  ∀row∈world.store.workspaces,¬(row.volumeIdentity=observed.volumeIdentity ∧
    row.rootFileIdentity=observed.rootFileIdentity) := by
 intro row hrow hidentity
 have hnone:lookupWorkspacesByIdentity world.store observed.volumeIdentity
   observed.rootFileIdentity=[] := List.head?_eq_none_iff.mp h
 have hmem:row∈lookupWorkspacesByIdentity world.store observed.volumeIdentity
   observed.rootFileIdentity := by
  rw [lookupWorkspacesByIdentity,List.mem_insertionSort,List.mem_filter,Bool.and_eq_true,
   decide_eq_true_eq,decide_eq_true_eq]
  exact ⟨hrow,hidentity⟩
 rw [hnone] at hmem
 cases hmem

def target (request:AttachRequest) (observed:ObservedRoot) : String :=
 ((matching store observed).map Workspace.workspaceId).getD request.chosenWorkspace

structure Approval (nfc:String → String) (store:Store) (request:AttachRequest)
  (observed:ObservedRoot) (approved:Bool) : Prop where
 approved : approved=true
 due : CeremonyDue nfc store request observed
 accepted : Accepted request

def openedSession (request:AttachRequest) (observed:ObservedRoot) (workspaceId:String) :
    TrustedSession :=
 ⟨observed.challenge,workspaceId,request.now+sessionLifetime,.created⟩

inductive Ends (nfc:String → String) (request:AttachRequest) (observed:ObservedRoot)
  (approved:Bool) (world:World) : EStateM.Result RunnerError World EnsureOutcome → Prop
 | completed (bind done:WorkspaceBind) (world':World)
   (happroval:Approval nfc world.store request observed approved)
   (hid:bind.workspaceId=target world.store request observed)
   (hsessions:world'.store.sessions=world.store.sessions)
   (hcompleted:world'.completed=world.completed++[done]) :
   Ends nfc request observed approved world (.ok (.ready bind) world')
 | failed (error:RunnerError)
   (happroval:¬Approval nfc world.store request observed approved) :
   Ends nfc request observed approved world (.error error world)
 | opened (bind:WorkspaceBind) (step:CeremonyStep) (workspaceId:String)
   (happroved:approved=false) (hfresh:world.store.sessions request.freshNonce=none) :
   Ends nfc request observed approved world
    (.ok (.ceremonyRequired bind step request.freshNonce) { world with
     store:=putSession world.store request.freshNonce
      (openedSession request observed workspaceId) })
 | settled (bind:WorkspaceBind) (row:Workspace) (world':World)
   (hmatching:matching world.store observed=some row) (hready:row.recoveryState=.ready)
   (hid:bind.workspaceId=row.workspaceId)
   (happroval:¬Approval nfc world.store request observed approved)
   (huntouched:Untouched world world')
   (hsessions:world'.store.sessions=world.store.sessions) :
   Ends nfc request observed approved world (.ok (.ready bind) world')
 | trusted (bind:WorkspaceBind) (hmatching:matching world.store observed=none)
   (happroved:approved=false) (htrusted:projectTrusted request.plane=.ok true)
   (hknown:(lookupWorkspace world.store request.chosenWorkspace).isSome)
   (hid:bind.workspaceId=request.chosenWorkspace) :
   Ends nfc request observed approved world (.ok (.ready bind) world)

variable {approved:Bool}

lemma ends_openEnsureNonce {step:CeremonyStep} (happroved:approved=false)
  (hroot:bind.canonicalRoot=observed.canonicalRoot)
  (hvolume:bind.volumeIdentity=observed.volumeIdentity)
  (hfile:bind.rootFileIdentity=observed.rootFileIdentity) :
  Ends nfc request observed approved world ((do
   let nonce ← openEnsureNonce request bind
   pure (.ceremonyRequired bind step nonce) : RunnerM EnsureOutcome) world) := by
 have happroval:¬Approval nfc world.store request observed approved:=fun h=>by
  rw [happroved] at h
  exact absurd h.approved (by decide)
 rw [run_bind,openEnsureNonce_run,hroot,hvolume,hfile]
 cases hfresh : world.store.sessions request.freshNonce with
 | some _ => exact .failed _ happroval
 | none => exact .opened bind step bind.workspaceId happroved hfresh

lemma ends_refused {already:Bool} {rest:Unit → RunnerM EnsureOutcome} (h:¬Accepted request) :
  Ends nfc request observed approved world
   ((completeControlCeremony request bind already >>= rest) world) := by
 have hnot:¬Approval nfc world.store request observed approved:=fun happroval=>
  h happroval.accepted
 simp only [Accepted,not_forall] at h
 obtain ⟨plane,hplane,hrefused⟩:=h
 rw [run_bind,ceremony_run hplane]
 cases hreply : controlPlaneCeremony plane with
 | ok _ => exact absurd hreply hrefused
 | error error => exact .failed error hnot

lemma ends_registered (happroved:approved=true)
  (hdue:CeremonyDue nfc world.store request observed) (hbind:Registrable world.store bind)
  (hid:bind.workspaceId=target world.store request observed) :
  Ends nfc request observed approved world ((do
   completeControlCeremony request bind false
   registerLocal bind request.now
   pure (EnsureOutcome.ready bind) : RunnerM EnsureOutcome) world) := by
 by_cases haccept : Accepted request
 · obtain ⟨done,hrun,hbind',hsessions,hcompleted⟩:=ceremony_unregistered haccept hbind
   obtain ⟨registered,hrun',-,hsessions',hcompleted'⟩:=registerLocal_ok request.now hbind'
   rw [run_of_ok hrun,run_of_ok hrun']
   exact .completed bind bind registered ⟨happroved,hdue,haccept⟩ hid
    (hsessions'.trans hsessions) (hcompleted'.trans hcompleted)
 · exact ends_refused haccept

lemma target_of_matching (h:matching world.store observed=some row) :
  target world.store request observed=row.workspaceId := by
 rw [target,h]
 rfl

lemma isSome_of_matching (h:matching world.store observed=some row) :
  (lookupWorkspace world.store row.workspaceId).isSome :=
 lookupWorkspace_isSome_iff.mpr ⟨row,(mem_of_matching h).1,rfl⟩

lemma updateWorkspaceRoot_ok (world:World) (observed:ObservedRoot) {workspaceId:String}
  (h:(lookupWorkspace world.store workspaceId).isSome) :
  ∃world',updateWorkspaceRootAfterGrant workspaceId observed.canonicalRoot
    observed.volumeIdentity observed.rootFileIdentity world=.ok () world' ∧
    world'.store.sessions=world.store.sessions ∧ world'.completed=world.completed := by
 have hsome:¬(lookupWorkspace world.store workspaceId).isNone=true := by
  rw [isNone_iff_eq_none,← ne_eq,← isSome_iff_ne_none]
  exact h
 exact ⟨_,congrFun (if_neg hsome) world,rfl,rfl⟩

section

variable (hmatching:matching world.store observed=some row)
 (hdrift:drifted nfc world.store observed row=false)
include hmatching hdrift

lemma not_approval
  (h:row.recoveryState=.ready → request.plane≠none →
   projectTrusted request.plane≠.ok false) :
  ¬Approval nfc world.store request observed approved := by
 intro happroval
 rcases happroval.due row hmatching with hmoved | ⟨hready,hplane,htrusted⟩
 · rw [hdrift] at hmoved
   cases hmoved
 · exact h hready hplane htrusted

lemma finishExisting_ends (hready:row.recoveryState=.ready) (hplane:request.plane≠none)
  (approved:Bool) :
  Ends nfc request observed approved world
   (finishExisting request (bindFromRow world.store observed row) approved world) := by
 have hknown:=isSome_of_matching hmatching
 unfold finishExisting
 rw [run_bind,tryQuietReady_run]
 cases htrusted : projectTrusted request.plane with
 | error error => exact .failed error (not_approval hmatching hdrift fun _ _=>by simp [htrusted])
 | ok trusted =>
   cases trusted with
   | true =>
     have hbind:(lookupWorkspace world.store
       (bindFromRow world.store observed row).workspaceId).isSome=true := hknown
     simp only [hbind,Bool.and_self,if_true]
     exact .settled _ row world hmatching hready rfl
      (not_approval hmatching hdrift fun _ _=>by simp [htrusted]) ⟨rfl,rfl⟩ rfl
   | false =>
     cases approved with
     | true =>
       refine ends_registered rfl (fun other hother=>?_) (.inl hknown)
        (target_of_matching hmatching).symm
       obtain rfl : row=other:=some.inj (hmatching.symm.trans hother)
       exact .inr ⟨hready,hplane,htrusted⟩
     | false => exact ends_openEnsureNonce rfl rfl rfl rfl

end 

variable (henvironment:request.environment=none)
include henvironment

lemma ensureExisting_ends (hmatching:matching world.store observed=some row)
  (approved:Bool) :
  Ends nfc request observed approved world
   (ensureExisting nfc request observed row approved world) := by
 change Ends _ _ _ _ _ ((if drifted nfc world.store observed row=true then
   if approved=true then _ else _
  else if row.recoveryState≠.ready then _
  else if (request.environment.isSome || request.plane.isNone)=true then _
  else _ : RunnerM EnsureOutcome) world)
 cases hdrift : drifted nfc world.store observed row with
 | true =>
   rw [if_pos rfl]
   cases approved with
   | false => exact ends_openEnsureNonce rfl rfl rfl rfl
   | true =>
     rw [if_pos rfl]
     by_cases haccept : Accepted request
     · obtain ⟨moved,hmoved,hsessions,hcompleted⟩:=updateWorkspaceRoot_ok
        (complete (bindFromRow world.store observed row) world) observed
        (isSome_of_matching hmatching)
       rw [run_of_ok (ceremony_registered haccept),run_of_ok hmoved]
       refine .completed _ (bindFromRow world.store observed row) _ ⟨rfl,fun other hother=>?_,
        haccept⟩ (target_of_matching hmatching).symm hsessions hcompleted
       obtain rfl : row=other:=some.inj (hmatching.symm.trans hother)
       exact .inl hdrift
     · exact ends_refused haccept
 | false =>
   by_cases hready : row.recoveryState=.ready
   · rw [if_neg (not_not.mpr hready),henvironment]
     cases hplane : request.plane with
     | none =>
       exact .settled _ row _ hmatching hready rfl
        (not_approval hmatching hdrift fun _ h=>absurd hplane h) ⟨rfl,rfl⟩ rfl
     | some plane => exact finishExisting_ends hmatching hdrift hready (by simp [hplane]) approved
   · rw [if_pos hready]
     exact .failed _ (not_approval hmatching hdrift fun h=>absurd h hready)

lemma ensureNew_quiet (observed:ObservedRoot) (htrusted:projectTrusted request.plane=.ok true)
  (hknown:(lookupWorkspace world.store request.chosenWorkspace).isSome) :
  ensureNew request observed false world=.ok (.ready (bindFromObserved observed
   request.chosenWorkspace request.chosenProject (.recorded .ready))) world := by
 unfold ensureNew
 rw [henvironment]
 simp only [Bool.false_eq_true,if_false]
 rw [run_bind,tryQuietReady_run,htrusted]
 rw [show (bindFromObserved observed request.chosenWorkspace request.chosenProject
  (.recorded .ready)).workspaceId=request.chosenWorkspace from rfl]
 simp only [hknown,Bool.and_self,if_true]
 rfl

lemma ensureNew_ends (hmatching:matching world.store observed=none) (approved:Bool) :
  Ends nfc request observed approved world (ensureNew request observed approved world) := by
 cases approved with
 | true =>
   unfold ensureNew
   rw [henvironment]
   refine ends_registered rfl (fun row hrow=>?_) (.inr (not_mem_of_matching hmatching)) ?_
   · rw [hmatching] at hrow
     cases hrow
   · rw [target,hmatching]
     rfl
 | false =>
   by_cases hquiet : projectTrusted request.plane=.ok true ∧
     (lookupWorkspace world.store request.chosenWorkspace).isSome
   · rw [ensureNew_quiet henvironment observed hquiet.1 hquiet.2]
     exact .trusted _ hmatching rfl hquiet.1 hquiet.2 rfl
   · unfold ensureNew
     rw [henvironment]
     simp only [Bool.false_eq_true,if_false]
     rw [run_bind,tryQuietReady_run]
     cases htrusted : projectTrusted request.plane with
     | error error => exact .failed error fun happroval=>Bool.false_ne_true happroval.approved
     | ok trusted =>
       have hnot:(trusted && (lookupWorkspace world.store request.chosenWorkspace).isSome) =
         false := by
        rw [htrusted,Except.ok.injEq] at hquiet
        exact Bool.eq_false_iff.mpr fun h=>hquiet (Bool.and_eq_true_iff.mp h)
       rw [show (bindFromObserved observed request.chosenWorkspace request.chosenProject
        (.recorded .ready)).workspaceId=request.chosenWorkspace from rfl]
       simp only [hnot,Bool.false_eq_true,if_false]
       exact ends_openEnsureNonce rfl rfl rfl rfl

omit henvironment in
lemma ensureResolved_run : ensureResolved nfc request observed approved world =
  match matching world.store observed with
  | some row => ensureExisting nfc request observed row approved world
  | none => ensureNew request observed approved world := by
 unfold ensureResolved matching
 rw [run_of_ok (show (get:RunnerM World) world=.ok world world from rfl)]
 cases (lookupWorkspacesByIdentity world.store observed.volumeIdentity
  observed.rootFileIdentity).head? <;> rfl

lemma ensureResolved_ends (approved:Bool) : Ends nfc request observed approved world
   (ensureResolved nfc request observed approved world) := by
 rw [ensureResolved_run]
 cases hmatching : matching world.store observed with
 | some row => exact ensureExisting_ends henvironment hmatching approved
 | none => exact ensureNew_ends henvironment hmatching approved

end Steps

section Requests

def spend (token:String) (session:TrustedSession) (world:World) : World :=
 { world with
   store:=putSession world.store token { session with state:=.decided ensureApprove } }

/-- How the handling of the root starts: without a nonce, or with one that is open. -/
inductive Starts (request:AttachRequest) (world:World) : World → Prop
 | bare (h:request.nonce=none) : Starts request world world
 | spent (token:String) (session:TrustedSession) (h:request.nonce=some token)
   (happroved:request.approved=true) (hsession:world.store.sessions token=some session)
   (hopen:SessionState.isOpen session.state=true) :
   Starts request world (spend token session world)

variable {world':World}

lemma Starts.workspaces (h:Starts request world world') :
  world'.store.workspaces=world.store.workspaces ∧ world'.completed=world.completed := by
 cases h <;> exact ⟨rfl,rfl⟩

def ensured : EStateM.Result RunnerError World EnsureOutcome →
    EStateM.Result RunnerError World AttachReply
 | .ok outcome world => .ok (.ensured outcome) world
 | .error error world => .error error world

def resultWorld {α:Type} : EStateM.Result RunnerError World α → World
 | .ok _ world => world
 | .error _ world => world

lemma after_eq :
  after nfc world request=resultWorld (handleAttach nfc request world) := by
 unfold after
 cases handleAttach nfc request world <;> rfl

lemma handle_run (hclient:request.client=.ok ()) (hdenied:request.denied=false) :
  handleAttach nfc request world =
   ensured (ensureObservedWorkspace nfc request request.approved world) := by
 unfold handleAttach
 rw [hclient,hdenied,run_bind]
 simp only [raise,pure,EStateM.pure,Bool.false_eq_true,if_false,run_bind]
 cases ensureObservedWorkspace nfc request request.approved world <;> rfl

lemma consume_run (token:String) : consumeTrustedNonce token ensureApprove world =
  match world.store.sessions token with
  | none => .error .notFound world
  | some session =>
    if SessionState.isOpen session.state then .ok () (spend token session world)
    else .error .conflict world := by
 change (match world.store.sessions token with | none => _ | some _ => _ : RunnerM Unit) world=_
 cases world.store.sessions token with
 | none => rfl
 | some session =>
   by_cases h : SessionState.isOpen session.state=true
   · simp only [if_pos h]
     rfl
   · simp only [if_neg h]
     rfl

structure Begins (request:AttachRequest) (world:World) (observed:ObservedRoot)
  (world':World) : Prop where
 client : request.client=.ok ()
 allowed : request.denied=false
 observation : request.observation=.ok observed
 start : Starts request world world'

def Approves (nfc:String → String) (world:World) (request:AttachRequest)
    (observed:ObservedRoot) : Prop :=
 (∃world',Begins request world observed world') ∧
  Approval nfc world.store request observed request.approved

def Registers (nfc:String → String) (world:World) (request:AttachRequest) : Prop :=
 ∃row∈(after nfc world request).store.workspaces,
   ∀old∈world.store.workspaces,old.workspaceId≠row.workspaceId

def MovesRoot (nfc:String → String) (world:World) (request:AttachRequest) : Prop :=
 ∃old∈world.store.workspaces,∃row∈(after nfc world request).store.workspaces,
   row.workspaceId=old.workspaceId ∧ (row.rootPath≠old.rootPath ∨
    row.volumeIdentity≠old.volumeIdentity ∨ row.rootFileIdentity≠old.rootFileIdentity)

/-- A workspace is registered, its root is changed or a ceremony is completed. -/
def Trusts (nfc:String → String) (world:World) (request:AttachRequest) : Prop :=
 Registers nfc world request ∨ MovesRoot nfc world request ∨
  (after nfc world request).completed≠world.completed

lemma not_trusts_of_untouched (h:Untouched world (after nfc world request)) :
  ¬Trusts nfc world request := by
 obtain ⟨hrows,hcompleted⟩:=h
 rintro (⟨row,hrow,hnew⟩ | ⟨old,hold,row,hrow,hid,hdiff⟩ | hchanged)
 · rw [hrows] at hrow
   exact hnew row hrow rfl
 · rw [hrows] at hrow
   obtain rfl:=List.inj_on_of_nodup_map world.store.distinct hrow hold hid
   simp at hdiff
 · exact hchanged hcompleted

lemma Starts.approval {approved:Bool} (h:Starts request world world') :
  Approval nfc world'.store request observed approved ↔
   Approval nfc world.store request observed approved := by
 cases h with
 | bare _ => rfl
 | spent _ _ _ _ _ _ => exact ⟨fun h=>⟨h.1,h.2,h.3⟩, fun h=>⟨h.1,h.2,h.3⟩⟩

lemma Starts.target_eq (h:Starts request world world') :
  target world'.store request observed=target world.store request observed := by
 cases h <;> rfl

lemma Begins.unique {other:ObservedRoot} {world'':World}
  (h:Begins request world observed world') (h':Begins request world other world'') :
  observed=other ∧ world'=world'' := by
 refine ⟨Except.ok.inj (h.observation.symm.trans h'.observation),?_⟩
 obtain ⟨-,-,-,hstart⟩:=h
 obtain ⟨-,-,-,hstart'⟩:=h'
 cases hstart with
 | bare hnonce =>
   cases hstart' with
   | bare _ => rfl
   | spent token session hnonce' =>
     rw [hnonce] at hnonce'
     cases hnonce'
 | spent token session hnonce happroved hsession =>
   cases hstart' with
   | bare hnonce' =>
     rw [hnonce] at hnonce'
     cases hnonce'
   | spent token' session' hnonce' happroved' hsession' =>
     obtain rfl : token=token':=some.inj (hnonce.symm.trans hnonce')
     obtain rfl : session=session':=some.inj (hsession.symm.trans hsession')
     rfl

lemma resultWorld_ensured (result:EStateM.Result RunnerError World EnsureOutcome) :
  resultWorld (ensured result)=resultWorld result := by
 cases result <;> rfl

lemma Starts.of_not_approved {start:World} (h:Starts request world start)
  (happroved:request.approved=false) : start=world ∧ request.nonce=none := by
 cases h with
 | bare hnonce => exact ⟨rfl,hnonce⟩
 | spent _ _ _ h =>
   rw [happroved] at h
   cases h

lemma Starts.session {start:World} (h:Starts request world start) (nonce:String) :
  start.store.sessions nonce=world.store.sessions nonce ∨
   ∃session,world.store.sessions nonce=some session ∧
     SessionState.isOpen session.state=true ∧ request.nonce=some nonce ∧
     start.store.sessions nonce=some { session with state:=.decided ensureApprove } := by
 cases h with
 | bare => exact .inl rfl
 | spent token session hnonce _ hsession hopen =>
   by_cases htoken : nonce=token
   · subst htoken
     exact .inr ⟨session,hsession,hopen,hnonce,if_pos rfl⟩
   · exact .inl (if_neg htoken)

/-- A root is unknown, but the files in it name a workspace that is known and trusted. -/
structure Quiet (world:World) (request:AttachRequest) (observed:ObservedRoot) : Prop where
 begins : ∃start,Begins request world observed start
 undecided : request.approved=false
 unknown : matching world.store observed=none
 trusted : projectTrusted request.plane=.ok true
 known : (lookupWorkspace world.store request.chosenWorkspace).isSome

variable (henvironment:request.environment=none)
include henvironment

lemma handle_cases (nfc:String → String) (world:World) :
  (∃observed world' result,Begins request world observed world' ∧
    Ends nfc request observed request.approved world' result ∧
    handleAttach nfc request world=ensured result) ∨
   ((∀observed world',¬Begins request world observed world') ∧
     after nfc world request=world ∧
     ∀bind world',handleAttach nfc request world≠.ok (.ensured (.ready bind)) world') := by
 rw [after_eq]
 cases hclient : request.client with
 | error error =>
   unfold handleAttach
   rw [hclient]
   exact .inr ⟨fun _ _ h=>(by rw [h.client] at hclient; cases hclient), rfl,
    fun _ _ h=>by cases h⟩
 | ok _ =>
   cases hdenied : request.denied with
   | true =>
     unfold handleAttach
     rw [hclient,hdenied]
     exact .inr ⟨fun _ _ h=>(by rw [h.allowed] at hdenied; cases hdenied), rfl,
      fun _ _ h=>by cases h⟩
   | false =>
     rw [handle_run hclient hdenied]
     unfold ensureObservedWorkspace
     cases hobserved : request.observation with
     | error error =>
       refine .inr ⟨fun _ _ h=>(by rw [h.observation] at hobserved; cases hobserved), ?_⟩
       cases error <;> exact ⟨rfl,fun _ _ h=>by cases h⟩
     | ok observed =>
       cases hnonce : request.nonce with
       | none =>
         exact .inl ⟨observed,world,_,⟨hclient,hdenied,hobserved,.bare hnonce⟩,
          ensureResolved_ends henvironment _,rfl⟩
       | some token =>
         have hstar:∀world',Starts request world world' → request.approved=true ∧
           ∃session,world.store.sessions token=some session ∧
             SessionState.isOpen session.state=true := by
          intro world' hstart
          cases hstart with
          | bare h =>
            rw [hnonce] at h
            cases h
          | spent other session h happroved hsession hopen =>
            obtain rfl : token=other:=some.inj (hnonce.symm.trans h)
            exact ⟨happroved,session,hsession,hopen⟩
         cases happroved : request.approved with
         | false =>
           refine .inr ⟨fun _ world' h=>?_, rfl,fun _ _ h=>by cases h⟩
           exact absurd (hstar world' h.start).1 (by rw [happroved]; decide)
         | true =>
           simp only [if_true]
           rw [run_bind,consume_run]
           cases hsession : world.store.sessions token with
           | none =>
             refine .inr ⟨fun _ world' h=>?_, rfl,fun _ _ h=>by cases h⟩
             obtain ⟨-,session,hsome,-⟩:=hstar world' h.start
             rw [hsession] at hsome
             cases hsome
           | some session =>
             by_cases hopen : SessionState.isOpen session.state=true
             · simp only [if_pos hopen]
               exact .inl ⟨observed,spend token session world,_,
                ⟨hclient,hdenied,hobserved,.spent token session hnonce happroved hsession hopen⟩,
                happroved ▸ ensureResolved_ends henvironment _,rfl⟩
             · simp only [if_neg hopen]
               refine .inr ⟨fun _ world' h=>?_, rfl,fun _ _ h=>by cases h⟩
               obtain ⟨-,other,hsome,hother⟩:=hstar world' h.start
               rw [hsession] at hsome
               obtain rfl:=some.inj hsome
               exact hopen hother

lemma Approves.completes (h:Approves nfc world request observed)
  (hbegin:Begins request world observed world') :
  ∃bind done world'',handleAttach nfc request world=.ok (.ensured (.ready bind)) world'' ∧
    bind.workspaceId=target world.store request observed ∧
    world''.store.sessions=world'.store.sessions ∧
    world''.completed=world.completed++[done] := by
 obtain ⟨other,start,result,hbegin',hends,hrun⟩ | ⟨hnot,-,-⟩ :=
  handle_cases henvironment nfc world
 · obtain ⟨rfl,rfl⟩:=hbegin.unique hbegin'
   have happroval:=hbegin.start.approval.mpr h.2
   cases hends with
   | completed bind done world'' _ hid hsessions hcompleted =>
     exact ⟨bind,done,world'',hrun,hid.trans hbegin.start.target_eq,hsessions,
      hcompleted.trans (by rw [hbegin.start.workspaces.2])⟩
   | failed _ hnot | settled _ _ _ _ _ _ hnot => exact absurd happroval hnot
   | opened _ _ _ happroved | trusted _ _ happroved =>
     exact absurd happroval.approved (by rw [happroved]; decide)
 · exact absurd hbegin (hnot _ _)

lemma untouched_of_not_approves (h:∀observed,¬Approves nfc world request observed) :
  Untouched world (after nfc world request) := by
 rw [after_eq]
 obtain ⟨observed,start,result,hbegin,hends,hrun⟩ | ⟨-,hworld,-⟩ :=
  handle_cases henvironment nfc world
 · have hnot:¬Approval nfc start.store request observed request.approved:=fun happroval=>
    h observed ⟨⟨start,hbegin⟩,hbegin.start.approval.mp happroval⟩
   obtain ⟨hrows,hcompleted⟩:=hbegin.start.workspaces
   rw [hrun]
   cases hends with
   | completed _ _ _ happroval => exact absurd happroval hnot
   | settled _ _ _ _ _ _ _ huntouched =>
     exact ⟨huntouched.1.trans hrows,huntouched.2.trans hcompleted⟩
   | failed | opened | trusted => exact ⟨hrows,hcompleted⟩
 · rw [after_eq] at hworld
   rw [hworld]
   exact ⟨rfl,rfl⟩

lemma trusts_iff : Trusts nfc world request ↔ ∃observed,Approves nfc world request observed := by
 constructor
 · intro htrust
   by_contra hnone
   rw [not_exists] at hnone
   exact not_trusts_of_untouched (untouched_of_not_approves henvironment hnone) htrust
 · rintro ⟨observed,happs⟩
   obtain ⟨start,hbegin⟩:=happs.1
   obtain ⟨bind,done,world',hrun,-,-,hcompleted⟩ :=
    happs.completes henvironment hbegin
   refine .inr (.inr ?_)
   rw [after_eq,hrun]
   change world'.completed≠world.completed
   rw [hcompleted]
   simp

lemma Quiet.ready (h:Quiet world request observed) :
  ∃bind world',handleAttach nfc request world=.ok (.ensured (.ready bind)) world' ∧
    bind.workspaceId=request.chosenWorkspace := by
 obtain ⟨start,hbegin⟩:=h.begins
 obtain ⟨rfl,hnonce⟩:=hbegin.start.of_not_approved h.undecided
 rw [handle_run hbegin.client hbegin.allowed]
 unfold ensureObservedWorkspace
 rw [hbegin.observation,hnonce,h.undecided]
 change ∃bind world',ensured (ensureResolved nfc request observed false start)=_ ∧ _
 rw [ensureResolved_run,h.unknown,ensureNew_quiet henvironment observed h.trusted h.known]
 exact ⟨_,_,rfl,rfl⟩

lemma ready_cases
  (h:handleAttach nfc request world=.ok (.ensured (.ready bind)) world') :
  (∃observed,Approves nfc world request observed ∧
    bind.workspaceId=target world.store request observed) ∨
   (∃row∈world.store.workspaces,row.recoveryState=.ready ∧
    bind.workspaceId=row.workspaceId) ∨
   ∃observed,Quiet world request observed ∧ bind.workspaceId=request.chosenWorkspace := by
 obtain ⟨observed,start,result,hbegin,hends,hrun⟩ | ⟨-,-,hnever⟩ :=
  handle_cases henvironment nfc world
 · obtain ⟨hrows,-⟩:=hbegin.start.workspaces
   rw [hrun] at h
   cases hends with
   | completed found done world'' happroval hid =>
     cases h
     exact .inl ⟨observed,⟨⟨start,hbegin⟩,hbegin.start.approval.mp happroval⟩,
      hid.trans hbegin.start.target_eq⟩
   | failed | opened => cases h
   | settled found row world'' hmatching hready hid =>
     cases h
     exact .inr (.inl ⟨row,hrows ▸ (mem_of_matching hmatching).1,hready,hid⟩)
   | trusted found hmatching happroved htrusted hknown hid =>
     cases h
     obtain ⟨rfl,-⟩:=hbegin.start.of_not_approved happroved
     exact .inr (.inr ⟨observed,⟨⟨_,hbegin⟩,happroved,hmatching,htrusted,hknown⟩,hid⟩)
 · exact absurd h (hnever bind world')

/-- How the session of a nonce can change: it is used up by the request that brings the nonce, or
opened for the root of the request. -/
lemma session_cases (nfc:String → String) (world:World) (nonce:String) :
  (after nfc world request).store.sessions nonce=world.store.sessions nonce ∨
   (∃session,world.store.sessions nonce=some session ∧
    SessionState.isOpen session.state=true ∧ request.nonce=some nonce ∧
    (after nfc world request).store.sessions nonce =
     some { session with state:=.decided ensureApprove }) ∨
   (world.store.sessions nonce=none ∧ ∃observed workspaceId,
    request.observation=.ok observed ∧
    (after nfc world request).store.sessions nonce =
     some (openedSession request observed workspaceId)) := by
 rw [after_eq]
 obtain ⟨observed,start,result,hbegin,hends,hrun⟩ | ⟨-,hworld,-⟩ :=
  handle_cases henvironment nfc world
 · rw [hrun]
   by_cases hopened : ∃workspaceId,(resultWorld result).store.sessions=(putSession
     world.store request.freshNonce (openedSession request observed workspaceId)).sessions ∧
     world.store.sessions request.freshNonce=none
   · obtain ⟨workspaceId,hsessions,hfresh⟩:=hopened
     rw [resultWorld_ensured,hsessions]
     by_cases hnonce : nonce=request.freshNonce
     · exact .inr (.inr ⟨hnonce ▸ hfresh,observed,workspaceId,hbegin.observation,if_pos hnonce⟩)
     · exact .inl (if_neg hnonce)
   · have hsessions:(resultWorld result).store.sessions=start.store.sessions := by
      cases hends with
      | completed _ _ _ _ _ hsessions | settled _ _ _ _ _ _ _ _ hsessions => exact hsessions
      | failed | trusted => rfl
      | opened _ _ workspaceId happroved hfresh =>
        obtain ⟨rfl,-⟩:=hbegin.start.of_not_approved happroved
        exact absurd ⟨workspaceId,rfl,hfresh⟩ hopened
     rw [resultWorld_ensured,hsessions]
     rcases hbegin.start.session nonce with h | h
     · exact .inl h
     · exact .inr (.inl h)
 · rw [after_eq] at hworld
   rw [hworld]
   exact .inl rfl

end Requests

end EpistemicCompiler.AttachCeremonies
