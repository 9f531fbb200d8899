import EpistemicCompiler.PromotionWorld

set_option autoImplicit false

/-!
# File operations of a promotion

Every operation that changes a file is one step, and every one of them can be refused by the
failure pattern of its process. A directory flush changes nothing that the model can see.
-/
namespace EpistemicCompiler.PromotionFiles
open StepPrograms StepPrograms.StepProgram PromotionWorld

variable (env:Env)

section Operations

variable {α:Type}

variable (site:Site) (loc:Location)

def fallible (op:World → Except PromotionError (α×World)) : Promotion α :=
 atomic fun w=>
  if env.faults site w.tick then (.error .io,w.tock)
  else match op w with
   | .ok (a,w') => (.ok a,w'.tock)
   | .error e => (.error e,w.tock)

def pathExists : Promotion Bool :=
 atomic fun w=>(.ok (!env.faults .exists w.tick && (w.files loc).isSome),w.tock)

def readBytes : Promotion Bytes :=
 fallible env site fun w=>
  match w.files loc with
  | some (.file node) => .ok (node.bytes,w)
  | _ => .error (.replace .io)

def fsyncPath : Promotion Unit :=
 fallible env site fun w=>
  if (w.files loc).isSome then .ok ((),w) else .error (.replace .io)

def fsyncDirectory : Promotion Unit :=
 fallible env site fun w=>
  if w.files loc=some .directory then .ok ((),w) else .error (.replace .io)

def fsyncParent : Promotion Unit :=
 match loc.path with
 | [] => pure ()
 | _::_ => fsyncDirectory env site loc.parent

def lookNode : Promotion (Option Node) :=
 fallible env site fun w=>.ok (w.files loc,w)

def createDir : Promotion Unit :=
 fallible env site fun w=>
  if w.files loc=none ∧ (loc.path=[] ∨ w.files loc.parent=some .directory) then
   .ok ((),w.setNode loc (some .directory))
  else .error (.replace .io)

def createDirAll (site:Site) (root:RootDir) : Path → Promotion Unit
 | [] => do
   match ← lookNode env site ⟨root,[]⟩ with
   | some .directory => pure ()
   | some (.file _) => throw (.replace .io)
   | none => createDir env site ⟨root,[]⟩
 | name::parent => do
   match ← lookNode env site ⟨root,name::parent⟩ with
   | some .directory => pure ()
   | some (.file _) => throw (.replace .io)
   | none => do
     createDirAll site root parent
     createDir env site ⟨root,name::parent⟩

def createFile : Promotion Unit :=
 fallible env site fun w=>
  if w.files loc.parent≠some .directory then .error (.replace .io)
  else match w.files loc with
   | some .directory => .error (.replace .io)
   | some (.file node) => .ok ((),w.setNode loc (some (.file { node with bytes:=[] })))
   | none =>
     let node : FileNode:=⟨[],w.nextIdentity,env.inheritedSecurity,[],none⟩
     .ok ((),(w.setNode loc (some (.file node))).spendIdentity)

def updateFile (f:FileNode → FileNode) : Promotion Unit :=
 fallible env site fun w=>
  match w.files loc with
  | some (.file node) => .ok ((),w.setNode loc (some (.file (f node))))
  | _ => .error (.replace .io)

def writeAll (bytes:Bytes) : Promotion Unit :=
 updateFile env site loc fun node=>{ node with bytes:=bytes }

def writeStagingFile (bytes:Bytes) : Promotion Unit := do
 createDirAll env site loc.root loc.path.tail
 createFile env site loc
 writeAll env site loc bytes
 fsyncPath env site loc

def writeNamedStream (streams:List (String×Bytes)) (stream:String×Bytes) :
    List (String×Bytes) :=
 streams.filter (·.1≠stream.1)++[stream]

/-- The streams are read back after the writes; a difference is a failure of that step. -/
def applyCapturedMetadata (captured:CapturedMetadata) : Promotion Unit := do
 updateFile env site loc fun node=>
  { node with securityDescriptor:=captured.securityDescriptor }
 updateFile env site loc fun node=>
  { node with streams:=captured.streams.foldl writeNamedStream node.streams }

/-- `MoveFileExW` replaces a file only if it is told to, and never a directory. -/
def movable (w:World) (dest:Location) (replace:Bool) : Bool :=
 w.files dest.parent=some .directory &&
  match w.files dest with
  | none => true
  | some (.file _) => replace
  | some .directory => false

def moveEx (source dest:Location) (replace:Bool) : Promotion Unit := do
 fallible env site fun w=>
  match w.files source with
  | some (.file node) =>
    if movable w dest replace then
     .ok ((),(w.setNode source none).setNode dest (some (.file node)))
    else .error (.replace .io)
  | _ => .error (.replace .io)
 fsyncPath env site dest
 fsyncParent env site dest

def atomicReplace (source dest:Location) : Promotion Unit :=
 moveEx env site source dest true

def atomicRename (source dest:Location) : Promotion Unit :=
 moveEx env site source dest false

def deletePath : Promotion Unit := do
 fallible env site fun w=>
  match w.files loc with
  | some (.file _) => .ok ((),w.setNode loc none)
  | _ => .error (.replace .io)
 fsyncParent env site loc

def inspect : Promotion CapturedMetadata :=
 fallible env site fun w=>
  match w.files loc with
  | some (.file node) =>
    .ok (⟨node.securityDescriptor,env.contentDigest node.securityDescriptor,node.streams,
     node.identity,node.reparseTag,false,"100644"⟩,w)
  | some .directory => .ok (⟨[],env.contentDigest [],[],0,none,true,"100644"⟩,w)
  | none => .error (.replace .io)

def captureHeld : Promotion CapturedMetadata := do
 let captured ← inspect env site loc
 if captured.reparseTag.isSome then throw (.replace (.metadata "reparse blocks promotion"))
 else if captured.securityDescriptor.isEmpty ∧ ¬ captured.isDirectory then
  throw (.replace (.metadata "security descriptor missing"))
 else pure captured

def workspaceSnapshotRoot (root:RootDir) (workspaceId:String) : Promotion Digest :=
 fallible env .snapshot fun w=>
  if w.files ⟨root,[]⟩=some .directory then
   .ok (env.snapshotRootDigest (fun path=>w.files ⟨root,path⟩) workspaceId,w)
  else .error .io

def openRoot (root:RootDir) : Promotion Unit :=
 fallible env .root fun w=>
  if (w.files ⟨root,[]⟩).isSome then .ok ((),w) else .error .io

def currentDigest : Promotion (Option Digest) := do
 if ← pathExists env loc then do
  let bytes ← readBytes env site loc
  pure (some (env.contentDigest bytes))
 else pure none

def observedDigest : Promotion (Option Digest) := do
 if ← pathExists env loc then do
  match ← (readBytes env site loc).attempt with
  | .ok bytes => pure (some (env.contentDigest bytes))
  | .error _ => pure none
 else pure none

end Operations

end EpistemicCompiler.PromotionFiles
