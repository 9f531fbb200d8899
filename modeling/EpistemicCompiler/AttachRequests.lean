import Mathlib.Data.List.Sort
import EpistemicCompiler.PromotionWorld

set_option autoImplicit false

/-!
# Attaching to a workspace

A launcher names a directory, and the broker finds the workspace of its git root. A root that is
unknown or has moved needs a ceremony: the broker opens a session with a nonce and waits for a
decision.
-/
namespace EpistemicCompiler.AttachRequests
open PromotionWorld (RecoveryState SessionState Digest)

structure ObservedRoot where
 canonicalRoot : String
 volumeIdentity : String
 rootFileIdentity : String
 aliasName : String

inductive BindState where
 | recorded (state:RecoveryState)
 | ceremony
 deriving DecidableEq

structure WorkspaceBind where
 workspaceId : String
 projectId : String
 aliasName : String
 canonicalRoot : String
 volumeIdentity : String
 rootFileIdentity : String
 recoveryState : BindState
 deriving DecidableEq

structure Workspace where
 workspaceId : String
 projectId : String
 rootPath : String
 volumeIdentity : String
 rootFileIdentity : String
 recoveryState : RecoveryState
 createdAt : ℕ

inductive Challenge where
 | ensure (canonicalRoot volumeIdentity rootFileIdentity:String)
 | other (digest:Digest)

structure TrustedSession where
 challenge : Challenge
 subject : String
 expiresAt : ℕ
 state : SessionState

variable (nfc:String → String)

def SessionState.isOpen : SessionState → Bool
 | .created | .displayed => true
 | .decided _ | .expired => false

structure Store where
 workspaces : List Workspace
 distinct : (workspaces.map Workspace.workspaceId).Nodup
 sessions : String → Option TrustedSession
 aliases : String → Option String

structure World where
 store : Store
 completed : List WorkspaceBind

inductive RunnerError where
 | blockedNoGit
 | reconciling
 | conflict
 | notFound
 | sqlite
 | canonicalJson
 | http (operation:String)
 | identity (reason:String)
 | other (reason:String)
 deriving DecidableEq

variable (store:Store)

variable (nonce workspaceId:String)

abbrev RunnerM := EStateM RunnerError World

def lookupWorkspace : Option Workspace :=
 store.workspaces.find? (·.workspaceId=workspaceId)

def lookupWorkspacesByIdentity (volumeIdentity rootFileIdentity:String) : List Workspace :=
 (store.workspaces.filter fun row=>
  row.volumeIdentity=volumeIdentity && row.rootFileIdentity=rootFileIdentity).insertionSort
   fun a b=>a.createdAt ≤ b.createdAt

def decryptRootPath : Option String :=
 (lookupWorkspace store workspaceId).map (·.rootPath)

def modifyStore (f:Store → Store) : RunnerM Unit :=
 modify fun world=>{ world with store:=f world.store }

def putWorkspaceAlias (aliasName:String) : RunnerM Unit :=
 modifyStore fun store=>
  { store with aliases:=fun id=>if id=workspaceId then some aliasName else store.aliases id }

/-- The constraints of the table: workspaces are distinct, and so are the roots of a project. -/
def registerWorkspace (row:Workspace) : RunnerM Unit := do
 let world ← get
 if hnew : row.workspaceId ∉ world.store.workspaces.map Workspace.workspaceId then
  if world.store.workspaces.any fun other=>other.projectId=row.projectId &&
    other.volumeIdentity=row.volumeIdentity &&
    other.rootFileIdentity=row.rootFileIdentity then
   throw .sqlite
  else
   set { world with store:={ world.store with
    workspaces:=world.store.workspaces++[row]
    distinct:=by
     rw [List.map_append,List.nodup_append]
     refine ⟨world.store.distinct,List.nodup_singleton _,?_⟩
     rintro id hid other hother rfl
     exact hnew (List.mem_singleton.mp hother ▸ hid) } }
 else throw .sqlite

def moveRow (rootPath volumeIdentity rootFileIdentity:String) (row:Workspace) : Workspace :=
 if row.workspaceId=workspaceId then
  { row with
    rootPath:=rootPath
    volumeIdentity:=volumeIdentity
    rootFileIdentity:=rootFileIdentity }
 else row

lemma moveRow_workspaceId (rootPath volumeIdentity rootFileIdentity:String) (row:Workspace) :
  (moveRow workspaceId rootPath volumeIdentity rootFileIdentity row).workspaceId =
   row.workspaceId := by
 unfold moveRow
 split_ifs <;> rfl

def updateWorkspaceRootAfterGrant (rootPath volumeIdentity rootFileIdentity:String) :
    RunnerM Unit := do
 let world ← get
 if (lookupWorkspace world.store workspaceId).isNone then throw .notFound
 else
  set { world with store:={ world.store with
   workspaces:=world.store.workspaces.map
    (moveRow workspaceId rootPath volumeIdentity rootFileIdentity)
   distinct:=by
    have hids:(world.store.workspaces.map (moveRow workspaceId rootPath volumeIdentity
      rootFileIdentity)).map Workspace.workspaceId =
       world.store.workspaces.map Workspace.workspaceId:=by
     rw [List.map_map]
     exact List.map_congr_left fun row _=>moveRow_workspaceId _ _ _ _ row
    rw [hids]
    exact world.store.distinct } }

def putSession (session:TrustedSession) : Store :=
 { store with sessions:=fun other=>if other=nonce then some session else store.sessions other }

def openTrustedSession (challenge:Challenge) (subject:String) (expiresAt:ℕ) :
    RunnerM String := do
 let world ← get
 match world.store.sessions nonce with
 | some _ => throw .sqlite
 | none =>
   set { world with
    store:=putSession world.store nonce ⟨challenge,subject,expiresAt,.created⟩ }
   pure nonce

def consumeTrustedNonce (decisionDigest:Digest) : RunnerM Unit := do
 let world ← get
 match world.store.sessions nonce with
 | none => throw .notFound
 | some session =>
   if SessionState.isOpen session.state then
    set { world with
     store:=putSession world.store nonce { session with state:=.decided decisionDigest } }
   else throw .conflict

/-- `trustState` is the field of that name in the body, or the error of the parser. -/
structure HttpReply where
 status : ℕ
 etag : Option String
 trustState : Except RunnerError (Option String)

structure ControlPlane where
 quietProject : Except RunnerError HttpReply
 project : Except RunnerError HttpReply
 enrolled : Except RunnerError HttpReply
 enrolledProject : Except RunnerError HttpReply
 trusted : Except RunnerError HttpReply
 granted : Except RunnerError HttpReply
 stored : Except RunnerError HttpReply
 created : Except RunnerError HttpReply

def demandStatus (operation:String) (good:Bool) : Except RunnerError Unit :=
 if good then .ok () else .error (.http operation)

def controlPlaneCeremony (plane:ControlPlane) : Except RunnerError Unit := do
 let first ← plane.project
 let project ← if first.status=404 then do
     let enrolled ← plane.enrolled
     demandStatus "enrollProject" (enrolled.status=201 || enrolled.status=200)
     plane.enrolledProject
  else pure first
 demandStatus "getProject" (project.status<400)
 let trustState ← project.trustState
 demandStatus "project etag" project.etag.isSome
 if trustState≠some "trusted" then
  let trusted ← plane.trusted
  demandStatus "setProjectTrust" (trusted.status<400)
 let granted ← plane.granted
 demandStatus "grantRunnerProject" (granted.status=200 || granted.status=201)
 let stored ← plane.stored
 demandStatus "putBlob attestation" (stored.status=201 || stored.status=204)
 let created ← plane.created
 demandStatus "createWorkspace"
  (created.status=201 || created.status=200 || created.status=409)

def projectTrusted : Option ControlPlane → Except RunnerError Bool
 | none => .ok true
 | some plane => do
   let project ← plane.quietProject
   if project.status=404 then pure false
   else
    demandStatus "getProject" (project.status<400)
    let trustState ← project.trustState
    pure (trustState=some "trusted")

inductive CeremonyStep where
 | projectTrust
 | workspaceRegistration

inductive EnsureOutcome where
 | ready (bind:WorkspaceBind)
 | ceremonyRequired (bind:WorkspaceBind) (step:CeremonyStep) (nonce:String)
 | blockedNoGit

inductive AttachKind where
 | bind
 | decide
 | other (text:String)
 deriving DecidableEq

inductive AttachDecision where
 | approve
 | deny
 | other (text:String)
 deriving DecidableEq

structure EnvSession where
 workspaceId : String
 aliasName : Option String
 volumeIdentity : String
 rootFileIdentity : String

/-- A frame with what the broker finds out while it handles it: the checks of the frame and of the
client process, the root, the identifiers in its files, the replies of the control plane, the clock,
and the nonce that would be drawn. -/
structure AttachRequest where
 client : Except RunnerError Unit
 kind : AttachKind
 decision : Option AttachDecision
 nonce : Option String
 observation : Except RunnerError ObservedRoot
 chosenProject : String
 chosenWorkspace : String
 plane : Option ControlPlane
 environment : Option EnvSession
 now : ℕ
 freshNonce : String

variable (request:AttachRequest)

variable (observed:ObservedRoot) (bind:WorkspaceBind)

def dosDisplayPath (path:String) : String :=
 let stripped :=
  if "\\\\?\\".toList.isPrefixOf path.toList then path.toList.drop 4 else path.toList
 nfc (String.ofList (stripped.reverse.dropWhile fun c=>c = '\\' || c = '/').reverse)

def foldPath (path:String) : List Char :=
 (dosDisplayPath nfc path).toList.map fun c=>(if c = '/' then '\\' else c).toLower

def pathsEquivalent (left right:String) : Bool :=
 foldPath nfc left=foldPath nfc right

def bindFromObserved (workspaceId projectId:String) (recovery:BindState) : WorkspaceBind where
 workspaceId := workspaceId
 projectId := projectId
 aliasName := observed.aliasName
 canonicalRoot := observed.canonicalRoot
 volumeIdentity := observed.volumeIdentity
 rootFileIdentity := observed.rootFileIdentity
 recoveryState := recovery

def bindFromRow (row:Workspace) : WorkspaceBind where
 workspaceId := row.workspaceId
 projectId := row.projectId
 aliasName := (store.aliases row.workspaceId).getD observed.aliasName
 canonicalRoot := observed.canonicalRoot
 volumeIdentity := observed.volumeIdentity
 rootFileIdentity := observed.rootFileIdentity
 recoveryState := .recorded row.recoveryState

def WorkspaceBind.row (now:ℕ) : Workspace where
 workspaceId := bind.workspaceId
 projectId := bind.projectId
 rootPath := bind.canonicalRoot
 volumeIdentity := bind.volumeIdentity
 rootFileIdentity := bind.rootFileIdentity
 recoveryState := .ready
 createdAt := now

def registerLocal (now:ℕ) : RunnerM Unit := do
 if (lookupWorkspace (← get).store bind.workspaceId).isSome then
  putWorkspaceAlias bind.workspaceId bind.aliasName
 else
  registerWorkspace (bind.row now)
  putWorkspaceAlias bind.workspaceId bind.aliasName

def sessionLifetime : ℕ := 3600000

def ObservedRoot.challenge : Challenge :=
 .ensure observed.canonicalRoot observed.volumeIdentity observed.rootFileIdentity

def openEnsureNonce : RunnerM String :=
 openTrustedSession request.freshNonce
  (.ensure bind.canonicalRoot bind.volumeIdentity bind.rootFileIdentity) bind.workspaceId
  (request.now+sessionLifetime)

def raise {α:Type} : Except RunnerError α → RunnerM α
 | .ok a => pure a
 | .error error => throw error

def tryQuietReady : RunnerM (Option WorkspaceBind) := do
 let trusted ← raise (projectTrusted request.plane)
 let known:=(lookupWorkspace (← get).store bind.workspaceId).isSome
 pure (if trusted && known then some bind else none)

def completeControlCeremony (alreadyRegistered:Bool) : RunnerM Unit := do
 if let some plane := request.plane then
  raise (controlPlaneCeremony plane)
  if !alreadyRegistered && (lookupWorkspace (← get).store bind.workspaceId).isNone then
   registerLocal bind request.now
 modify fun world=>{ world with completed:=world.completed++[bind] }

def finishExisting (approved:Bool) : RunnerM EnsureOutcome := do
 match ← tryQuietReady request bind with
 | some ready => pure (.ready ready)
 | none =>
   if approved then
    completeControlCeremony request bind false
    registerLocal bind request.now
    pure (.ready bind)
   else
    let nonce ← openEnsureNonce request bind
    pure (.ceremonyRequired bind .projectTrust nonce)

def drifted (row:Workspace) : Bool :=
 (decryptRootPath store row.workspaceId).any fun existing=>
  !pathsEquivalent nfc existing observed.canonicalRoot

def ensureExisting (row:Workspace) (approved:Bool) : RunnerM EnsureOutcome := do
 let store:=(← get).store
 let bind:=bindFromRow store observed row
 if drifted nfc store observed row then
  if approved then
   completeControlCeremony request bind true
   updateWorkspaceRootAfterGrant row.workspaceId observed.canonicalRoot observed.volumeIdentity
    observed.rootFileIdentity
   putWorkspaceAlias row.workspaceId bind.aliasName
   pure (.ready { bind with recoveryState:=.recorded .ready })
  else
   let nonce ← openEnsureNonce request bind
   pure (.ceremonyRequired bind .workspaceRegistration nonce)
 else if row.recoveryState≠.ready then throw .reconciling
 else if request.environment.isSome || request.plane.isNone then
  putWorkspaceAlias row.workspaceId bind.aliasName
  pure (.ready bind)
 else finishExisting request bind approved

def envSessionBind (environment:EnvSession) : Option WorkspaceBind := do
 let row ← lookupWorkspace store environment.workspaceId
 pure
  { workspaceId:=row.workspaceId
    projectId:=row.projectId
    aliasName:=((store.aliases environment.workspaceId).or environment.aliasName).getD
     environment.workspaceId
    canonicalRoot:=(decryptRootPath store row.workspaceId).getD ""
    volumeIdentity:=environment.volumeIdentity
    rootFileIdentity:=environment.rootFileIdentity
    recoveryState:=.recorded row.recoveryState }

def ensureNew (approved:Bool) : RunnerM EnsureOutcome := do
 let bind:=bindFromObserved observed request.chosenWorkspace request.chosenProject
  (.recorded .ready)
 match request.environment with
 | some environment =>
   match envSessionBind (← get).store environment with
   | some existing => pure (.ready existing)
   | none =>
     registerLocal bind request.now
     pure (.ready bind)
 | none =>
   if approved then
    completeControlCeremony request bind false
    registerLocal bind request.now
    pure (.ready bind)
   else
    match ← tryQuietReady request bind with
    | some ready => pure (.ready ready)
    | none =>
      let nonce ← openEnsureNonce request bind
      pure (.ceremonyRequired bind .projectTrust nonce)

def ensureResolved (approved:Bool) : RunnerM EnsureOutcome := do
 match (lookupWorkspacesByIdentity (← get).store observed.volumeIdentity
  observed.rootFileIdentity).head? with
 | some row => ensureExisting nfc request observed row approved
 | none => ensureNew request observed approved

def ensureApprove : Digest := "ensure-approve"

def ensureObservedWorkspace (approved:Bool) : RunnerM EnsureOutcome := do
 match request.observation with
 | .error .blockedNoGit => pure .blockedNoGit
 | .error error => throw error
 | .ok observed =>
   match request.nonce with
   | none => ensureResolved nfc request observed approved
   | some token =>
     if approved then
      consumeTrustedNonce token ensureApprove
      ensureResolved nfc request observed approved
     else
      pure (.ceremonyRequired (bindFromObserved observed "pending" "pending" .ceremony)
       .projectTrust token)

inductive AttachReply where
 | denied
 | ensured (outcome:EnsureOutcome)

def AttachRequest.approved : Bool :=
 request.kind=.decide && request.decision=some .approve

def AttachRequest.denied : Bool :=
 request.kind=.decide && request.decision=some .deny

def handleAttach : RunnerM AttachReply := do
 raise request.client
 if request.denied then pure .denied
 else
  let outcome ← ensureObservedWorkspace nfc request request.approved
  pure (.ensured outcome)

def after (world:World) (request:AttachRequest) : World :=
 match handleAttach nfc request world with
 | .ok _ world => world
 | .error _ world => world

def afterAll (world:World) (requests:List AttachRequest) : World :=
 requests.foldl (after nfc) world

end EpistemicCompiler.AttachRequests
