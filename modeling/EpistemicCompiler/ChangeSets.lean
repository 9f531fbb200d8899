import Mathlib
import EpistemicCompiler.ChangeSetTree

set_option autoImplicit false

/-!
# Change sets

`applyOperation` works on the tree in place, so that a failed operation leaves whatever it has done
behind. `validateAndApplyChangeSet` checks the order of operations on each path, applies them in
turn and compares the tree with the baseline.
-/
namespace EpistemicCompiler.ChangeSets
open JsValues TextEncodings RelativePaths ChangeSetTree

variable (node:TreeNode)

section Operations

abbrev TreeM := EStateM ChangeSetError EphemeralTree

def examine {α:Type} (check:EphemeralTree → Except ChangeSetError α) : TreeM α := fun tree=>
 match check tree with
 | .ok value => .ok value tree
 | .error error => .error error tree

def refuse (condition:Prop) [Decidable condition] (code:ChangeSetCode) (message:JsString) :
    TreeM Unit :=
 examine fun _=>refuseWhen condition code message

def setNode : TreeM Unit := modify (·.set node)

def deletePath (path:JsString) : TreeM TreeNode := do
 let node ← examine (·.requireExisting path)
 modify (·.erase path)
 pure node

def discardWhen (condition:Bool) (path:JsString) : TreeM Unit :=
 if condition then do
  let _ ← deletePath path
 else pure ()

variable (services:Services)

def decodeBase64 (content:JsString) : Except ChangeSetError (List UInt8) :=
 let bytes:=services.fromBase64 content
 if services.toBase64 bytes≠content then
  fail .schemaInvalid (js "base64Content is not canonical")
 else .ok bytes

def requireDigest (expected path:JsString) : Except ChangeSetError Unit :=
 match node.content with
 | .file _ _ contentDigest | .symlink _ contentDigest =>
   if contentDigest≠expected then fail .digestBeforeMismatch (path++js " digest mismatch")
   else .ok ()
 | _ => fail .digestBeforeMismatch (path++js " is not a file or symlink")

def uniqueTempPath (tree:EphemeralTree) (fromPath:JsString) : Except ChangeSetError JsString :=
 let candidate (n:ℕ) : JsString :=
  js ".pi-hec-case-tmp-"++js (toString n)++js "-" ++
   fromPath.map fun unit=>if unit=slash then 0x5F else unit
 match ((List.range 64).map candidate).find? (fun path=>!tree.has path) with
 | some path => .ok path
 | none => fail .aliasAmbiguous (js "unable to allocate case-rename temporary name")

def putFile (path:JsString) (gitMode:GitMode) (bytes:List UInt8) (expectedAfter:JsString)
    (metadata:Option PlatformMetadata) : TreeM Unit := do
 let contentDigest:=fileDigest services bytes
 refuse (contentDigest≠expectedAfter) .digestAfterMismatch (path++js " after digest mismatch")
 setNode ⟨⟨path,.file gitMode bytes contentDigest⟩,metadata⟩

def isReplaceable : Bool :=
 match node.content with
 | .file .. | .symlink .. => true
 | _ => false

def applyTextPatch (path expectedBeforeDigest expectedAfterDigest:JsString)
    (options:TextPatchOptions) : TreeM Unit := do
 examine fun _=>assertSafePath services.unicode path path false
 examine (·.rejectSymlinkAlias path)
 let node ← examine (·.requireExisting path)
 match node.content with
 | .file gitMode bytes _ => do
   examine fun _=>requireDigest node expectedBeforeDigest path
   let next ← examine fun _=>services.applyUnifiedDiff bytes options
   putFile services path gitMode next expectedAfterDigest node.platformMetadata
 | _ => throw (.rejected .textPatchEncoding (path++js " is not a text file"))

def applyCreateText (path content expectedAfterDigest:JsString) (gitMode:GitMode) :
    TreeM Unit := do
 examine fun _=>assertSafePath services.unicode path path false
 examine (·.requireAbsent services path)
 examine (·.requireParentDirectory path)
 examine (·.rejectSymlinkAlias path)
 let bytes:=utf8 content
 refuse (0∈bytes) .textPatchEncoding (path++js " text contains NUL")
 putFile services path gitMode bytes expectedAfterDigest none

def applyCreateDirectory (path:JsString) : TreeM Unit := do
 examine fun _=>assertSafePath services.unicode path path false
 examine (·.requireAbsent services path)
 examine (·.requireParentDirectory path)
 examine (·.rejectSymlinkAlias path)
 setNode ⟨⟨path,.directory⟩,none⟩

def applyWriteBinary (path:JsString) (expectedBeforeDigest:Option JsString)
    (base64Content expectedAfterDigest:JsString) (gitMode:GitMode) : TreeM Unit := do
 examine fun _=>assertSafePath services.unicode path path false
 examine (·.requireParentDirectory path)
 examine (·.rejectSymlinkAlias path)
 let bytes ← examine fun _=>decodeBase64 services base64Content
 match expectedBeforeDigest with
 | none => do
   examine (·.requireAbsent services path)
   putFile services path gitMode bytes expectedAfterDigest none
 | some expected => do
   let existing ← examine (·.requireExisting path)
   refuse (!isReplaceable existing) .digestBeforeMismatch (path++js " cannot be replaced")
   examine fun _=>requireDigest existing expected path
   putFile services path gitMode bytes expectedAfterDigest existing.platformMetadata

def applyDelete (path expectedBeforeDigest:JsString) : TreeM Unit := do
 examine fun _=>assertSafePath services.unicode path path false
 examine (·.rejectSymlinkAlias path)
 let node ← examine (·.requireExisting path)
 refuse (!isReplaceable node) .pathMustExist (path++js " is not a file or symlink")
 examine fun _=>requireDigest node expectedBeforeDigest path
 let _ ← deletePath path

def applyDeleteDirectory (path expectedTreeDigest:JsString) : TreeM Unit := do
 examine fun _=>assertSafePath services.unicode path path false
 examine (·.rejectSymlinkAlias path)
 let node ← examine (·.requireExisting path)
 refuse (node.content≠.directory) .directoryNotEmpty (path++js " is not a directory")
 let tree ← get
 refuse ((tree.children path).length > 0) .directoryNotEmpty (path++js " is not empty")
 let digest ← examine (·.directoryTreeDigest services path)
 refuse (digest≠expectedTreeDigest)
  .directoryTreeMismatch (path++js " directory-tree digest mismatch")
 let _ ← deletePath path

def checkDestination (toPath:JsString) (caseRename:Bool) (destination:Option TreeNode) :
    Option JsString → Except ChangeSetError Unit
 | none =>
   if destination.isSome && !caseRename then
    fail .moveOverwrite (toPath++js " exists and overwrite is unstated")
   else .ok ()
 | some expected =>
   match destination with
   | none => fail .pathMustExist (toPath++js " does not exist")
   | some node =>
     if !isReplaceable node then fail .moveOverwrite (toPath++js " is not replaceable")
     else requireDigest node expected toPath

def relocate (path:JsString) : TreeNode := { node with path }

def applyMove (fromPath toPath expectedBeforeDigest:JsString)
    (expectedDestinationDigest:Option JsString) : TreeM Unit := do
 examine fun _=>assertSafePath services.unicode fromPath fromPath false
 examine fun _=>assertSafePath services.unicode toPath toPath false
 examine (·.rejectSymlinkAlias fromPath)
 examine (·.rejectSymlinkAlias toPath)
 let source ← examine (·.requireExisting fromPath)
 refuse (!isReplaceable source)
  .moveDirectoryForbidden (js "revision 1 move supports file/symlink only")
 examine fun _=>requireDigest source expectedBeforeDigest fromPath
 examine (·.requireParentDirectory toPath)
 let tree ← get
 let caseRename:=caseOnlyRename services.unicode fromPath toPath tree.caseSensitive
 let destination:=tree.get toPath
 examine fun _=>checkDestination toPath caseRename destination expectedDestinationDigest
 if caseRename then do
  let temp ← examine fun tree=>uniqueTempPath tree fromPath
  let _ ← deletePath fromPath
  setNode (relocate source temp)
  let _ ← deletePath temp
  setNode (relocate source toPath)
 else do
  discardWhen destination.isSome toPath
  let _ ← deletePath fromPath
  setNode (relocate source toPath)

def applySetGitMode (path expectedBeforeDigest:JsString) (expectedCurrentMode newMode:GitMode) :
    TreeM Unit := do
 examine fun _=>assertSafePath services.unicode path path false
 examine (·.rejectSymlinkAlias path)
 let node ← examine (·.requireExisting path)
 match node.content with
 | .file gitMode bytes contentDigest => do
   examine fun _=>requireDigest node expectedBeforeDigest path
   refuse (gitMode≠expectedCurrentMode) .modeInvalid (path++js " current mode mismatch")
   refuse (expectedCurrentMode=newMode) .modeInvalid (path++js " mode does not change")
   setNode { node with content:=.file newMode bytes contentDigest }
 | _ => throw (.rejected .modeInvalid (path++js " is not a regular file"))

def applySymlink (path target:JsString) (expectedBeforeDigest:Option JsString)
    (expectedAfterDigest:JsString) : TreeM Unit := do
 examine fun _=>assertSafePath services.unicode path path false
 examine (·.requireParentDirectory path)
 examine (·.rejectSymlinkAlias path)
 let normalized ← examine fun _=>assertSymlinkTargetContained services.unicode path target
 let after:=symlinkDigest services normalized
 refuse (after≠expectedAfterDigest) .digestAfterMismatch (path++js " after digest mismatch")
 let tree ← get
 let keptMeta:=(tree.get path).bind (·.platformMetadata)
 match expectedBeforeDigest with
 | none => examine (·.requireAbsent services path)
 | some expected => do
   let existing ← examine (·.requireExisting path)
   refuse (!isReplaceable existing) .digestBeforeMismatch (path++js " cannot become a symlink")
   examine fun _=>requireDigest existing expected path
   let _ ← deletePath path
 setNode ⟨⟨path,.symlink normalized after⟩,keptMeta⟩

def applyOperation : ChangeOperation → TreeM Unit
 | .textPatch path expectedBeforeDigest expectedAfterDigest unifiedDiff insertedLineEnding
   finalNewline =>
   applyTextPatch services path expectedBeforeDigest expectedAfterDigest
    ⟨unifiedDiff,path,insertedLineEnding,finalNewline⟩
 | .createText path content expectedAfterDigest gitMode =>
   applyCreateText services path content expectedAfterDigest gitMode
 | .createDirectory path => applyCreateDirectory services path
 | .writeBinary path expectedBeforeDigest _ base64Content expectedAfterDigest gitMode =>
   applyWriteBinary services path expectedBeforeDigest base64Content expectedAfterDigest gitMode
 | .delete path expectedBeforeDigest => applyDelete services path expectedBeforeDigest
 | .deleteDirectory path expectedTreeDigest =>
   applyDeleteDirectory services path expectedTreeDigest
 | .move fromPath toPath expectedBeforeDigest expectedDestinationDigest =>
   applyMove services fromPath toPath expectedBeforeDigest expectedDestinationDigest
 | .setGitMode path expectedBeforeDigest expectedCurrentMode newMode =>
   applySetGitMode services path expectedBeforeDigest expectedCurrentMode newMode
 | .symlink path target expectedBeforeDigest expectedAfterDigest =>
   applySymlink services path target expectedBeforeDigest expectedAfterDigest

end Operations

section Chains

inductive OperationKind where
 | textPatch
 | createText
 | createDirectory
 | writeBinary
 | delete
 | deleteDirectory
 | move
 | setGitMode
 | symlink
 deriving DecidableEq

def OperationKind.text : OperationKind → JsString
 | .textPatch => js "text_patch"
 | .createText => js "create_text"
 | .createDirectory => js "create_directory"
 | .writeBinary => js "write_binary"
 | .delete => js "delete"
 | .deleteDirectory => js "delete_directory"
 | .move => js "move"
 | .setGitMode => js "set_git_mode"
 | .symlink => js "symlink"

def kind : ChangeOperation → OperationKind
 | .textPatch .. => .textPatch
 | .createText .. => .createText
 | .createDirectory .. => .createDirectory
 | .writeBinary .. => .writeBinary
 | .delete .. => .delete
 | .deleteDirectory .. => .deleteDirectory
 | .move .. => .move
 | .setGitMode .. => .setGitMode
 | .symlink .. => .symlink

def operationPaths : ChangeOperation → List JsString
 | .textPatch path _ _ _ _ _ => [path]
 | .createText path _ _ _ => [path]
 | .createDirectory path => [path]
 | .writeBinary path _ _ _ _ _ => [path]
 | .delete path _ => [path]
 | .deleteDirectory path _ => [path]
 | .move fromPath toPath _ _ => [fromPath,toPath]
 | .setGitMode path _ _ _ => [path]
 | .symlink path _ _ _ => [path]

def isCanonicalKindChain (kinds:List OperationKind) : Bool :=
 kinds.length ≤ 1 || kinds=[.move,.textPatch,.setGitMode] || kinds=[.move,.textPatch] ||
  kinds=[.textPatch,.setGitMode]

variable (unicode:Unicode)

variable (caseSensitive:Bool)

def namesAlias (left right:JsString) (caseSensitive:Bool) : Bool :=
 if left=right then true
 else if caseSensitive then unicode.normalize left=unicode.normalize right
 else caseFoldKey unicode left false=caseFoldKey unicode right false

def checkMove : ChangeOperation → Except ChangeSetError Unit
 | .move fromPath toPath _ _ =>
   if fromPath=toPath then
    fail .chainAmbiguous (js "move source and destination are identical")
   else if isPrefixPath fromPath toPath || isPrefixPath toPath fromPath then
    fail .chainAmbiguous (js "move source/destination overlap")
   else if !caseOnlyRename unicode fromPath toPath caseSensitive &&
     namesAlias unicode fromPath toPath caseSensitive then
    fail .aliasAmbiguous (js "move aliases the same logical path")
   else .ok ()
 | _ => .ok ()

abbrev KindsByPath := List (JsString×List OperationKind)

def pushKind (kinds:KindsByPath) (path:JsString) (operationKind:OperationKind) :
    KindsByPath :=
 if kinds.any (·.1=path) then
  kinds.map fun entry=>if entry.1=path then (entry.1,entry.2++[operationKind]) else entry
 else kinds++[(path,[operationKind])]

def noteOperation (kinds:KindsByPath) (operation:ChangeOperation) :
    Except ChangeSetError KindsByPath := do
 checkMove unicode caseSensitive operation
 pure ((operationPaths operation).foldl (fun kinds path=>pushKind kinds path (kind operation))
  kinds)

def assertCanonicalChains (operations:List ChangeOperation) (caseSensitive:Bool) :
    Except ChangeSetError Unit := do
 let kindsByPath ← operations.foldlM (noteOperation unicode caseSensitive) []
 kindsByPath.forM fun (path,kinds)=>
  if !isCanonicalKindChain kinds then
   fail .chainAmbiguous (js "non-canonical operation chain on "++path++js ": " ++
    (js " -> ").intercalate (kinds.map OperationKind.text))
  else .ok ()

def declaredPaths (operations:List ChangeOperation) : List JsString :=
 operations.flatMap operationPaths

end Chains

section Schema

structure ChangeSet where
 baseSnapshotId : JsString
 baseSnapshotRootDigest : JsString
 operations : List ChangeOperation

def digestSchema (value:JsString) : Bool := isDigest value

def snapshotIdSchema (value:JsString) : Bool :=
 let groups:=(value.drop 5).splitOn 0x2D
 (js "snap_").isPrefixOf value && groups.map List.length=[8,4,4,4,12] &&
  groups.all (·.all isHex) && (groups.getD 2 []).head?=some 0x37 &&
  (js "89ab").any fun unit=>(groups.getD 3 []).head?=some unit

def utf8BoundedString (maxBytes:ℕ) (value:JsString) : Bool :=
 1 ≤ value.length && utf8ByteLength value ≤ maxBytes

def isBase64Unit (unit:UInt16) : Bool :=
 isDigit unit || (0x41 ≤ unit && unit ≤ 0x5A) || (0x61 ≤ unit && unit ≤ 0x7A) || unit=0x2B ||
  unit=0x2F

def base64Pattern : JsString → Bool
 | [] => true
 | [a,b,c,d] =>
   isBase64Unit a && isBase64Unit b &&
    ((isBase64Unit c && isBase64Unit d) || (isBase64Unit c && d=0x3D) || (c=0x3D && d=0x3D))
 | a::b::c::d::rest => [a,b,c,d].all isBase64Unit && base64Pattern rest
 | _ => false

variable (services:Services)

def normalizedPathSchema (value:JsString) : Bool :=
 utf8BoundedString pathMaxUtf8Bytes value && services.unicode.normalize value=value &&
  backslash ∉ value && 0 ∉ value && value.head?≠some slash &&
  (segments value).all fun segment=>
   segment.length > 0 && segment≠js "." && segment≠js ".." &&
    utf8ByteLength segment ≤ pathSegmentMaxUtf8Bytes

def base64Schema (value:JsString) : Bool :=
 base64Pattern value && value.length % 4=0 &&
  services.toBase64 (services.fromBase64 value)=value

def changeOperationSchema : ChangeOperation → Bool
 | .textPatch path before after unifiedDiff _ _ =>
   normalizedPathSchema services path && digestSchema before && digestSchema after &&
    unifiedDiff.length > 0
 | .createText path _ after _ => normalizedPathSchema services path && digestSchema after
 | .createDirectory path => normalizedPathSchema services path
 | .writeBinary path before mediaType base64Content after _ =>
   normalizedPathSchema services path && before.all digestSchema &&
    utf8BoundedString 256 mediaType && base64Schema services base64Content && digestSchema after
 | .delete path before => normalizedPathSchema services path && digestSchema before
 | .deleteDirectory path digest => normalizedPathSchema services path && digestSchema digest
 | .move fromPath toPath before destination =>
   normalizedPathSchema services fromPath && normalizedPathSchema services toPath &&
    digestSchema before && destination.all digestSchema
 | .setGitMode path before _ _ => normalizedPathSchema services path && digestSchema before
 | .symlink path target before after =>
   normalizedPathSchema services path && utf8BoundedString 32767 target &&
    before.all digestSchema && digestSchema after

def changeSetSchema (changeSet:ChangeSet) : Bool :=
 snapshotIdSchema changeSet.baseSnapshotId && digestSchema changeSet.baseSnapshotRootDigest &&
  changeSet.operations.length ≥ 1 && changeSet.operations.all (changeOperationSchema services)

end Schema

section Validation

structure ChangeSetBaseline where
 snapshotId : JsString
 rootDigest : JsString
 caseSensitive : Bool
 entries : List BaselineEntry

structure AppliedCandidateTree where
 changeSet : ChangeSet
 normalizedChangeSetDigest : JsString
 materializedTreeDigest : JsString
 changedPaths : List JsString
 entries : List CandidateEntry

def maxOperations : ℕ := 8192

def maxDecodedBytes : ℕ := 64*1024*1024

inductive Fingerprint where
 | file (path:JsString) (gitMode:GitMode) (contentDigest:JsString)
 | directory (path:JsString)
 | symlink (path symlinkTarget contentDigest:JsString)
 | submodule (path gitObjectId:JsString)
 deriving DecidableEq

def snapshotFingerprint : Fingerprint :=
 match node.content with
 | .file gitMode _ contentDigest => .file node.path gitMode contentDigest
 | .directory => .directory node.path
 | .symlink symlinkTarget contentDigest => .symlink node.path symlinkTarget contentDigest
 | .submodule gitObjectId => .submodule node.path gitObjectId

def fingerprints (tree:EphemeralTree) : List (JsString×Fingerprint) :=
 tree.nodes.map fun node=>(node.path,snapshotFingerprint node)

def bothKeys (before after:List (JsString×Fingerprint)) : List JsString :=
 before.map (·.1)++(after.map (·.1)).filter fun path=>(before.lookup path).isNone

def pathLe (left right:JsString) : Prop := unitsLe left right=true

instance : DecidableRel pathLe := fun left right=>
 inferInstanceAs (Decidable (unitsLe left right=true))

def assertDeclaredMutations (before after:List (JsString×Fingerprint))
    (declared:List JsString) : Except ChangeSetError (List JsString) := do
 let changed:=(bothKeys before after).filter fun path=>before.lookup path≠after.lookup path
 changed.forM fun path=>
  if path∈declared then .ok ()
  else fail .undeclaredMutation (js "undeclared mutation at "++path)
 pure (changed.insertionSort pathLe)

def projectEntry (entry:CandidateEntry) : ProjectedEntry :=
 match entry.content with
 | .file gitMode bytes contentDigest => .file entry.path contentDigest bytes.length gitMode
 | .directory => .directory entry.path
 | .symlink symlinkTarget contentDigest => .symlink entry.path symlinkTarget contentDigest
 | .submodule gitObjectId => .submodule entry.path gitObjectId

variable (services:Services)

def decodedBytesOf : ChangeOperation → ℕ
 | .textPatch _ _ _ unifiedDiff _ _ => utf8ByteLength unifiedDiff
 | .createText _ content _ _ => utf8ByteLength content
 | .writeBinary _ _ _ base64Content _ _ => (services.fromBase64 base64Content).length
 | _ => 0

def decodedBytes (changeSet:ChangeSet) : ℕ :=
 (changeSet.operations.map (decodedBytesOf services)).sum

/-- The projected entries keep the order of `entries`, which are compared by path. -/
def candidateTreeDigest (entries:List CandidateEntry) : Except ChangeSetError JsString :=
 taggedHash services (.candidateTree ((entries.insertionSort EphemeralTree.entryLe).map
  projectEntry))

def normalizeUnifiedDiff : JsString → JsString
 | [] => []
 | 0x0D::0x0A::rest => 0x0A::normalizeUnifiedDiff rest
 | unit::rest => (if unit=0x0D then 0x0A else unit)::normalizeUnifiedDiff rest

def normalizeChangeOperation : ChangeOperation → ChangeOperation
 | .textPatch path before after unifiedDiff ending newline =>
   .textPatch (services.unicode.normalize path) before after (normalizeUnifiedDiff unifiedDiff)
    ending newline
 | .createText path content after gitMode =>
   .createText (services.unicode.normalize path) content after gitMode
 | .createDirectory path => .createDirectory (services.unicode.normalize path)
 | .writeBinary path before mediaType base64Content after gitMode =>
   .writeBinary (services.unicode.normalize path) before mediaType base64Content after gitMode
 | .delete path before => .delete (services.unicode.normalize path) before
 | .deleteDirectory path digest => .deleteDirectory (services.unicode.normalize path) digest
 | .move fromPath toPath before destination =>
   .move (services.unicode.normalize fromPath) (services.unicode.normalize toPath) before
    destination
 | .setGitMode path before current newMode =>
   .setGitMode (services.unicode.normalize path) before current newMode
 | .symlink path target before after =>
   .symlink (services.unicode.normalize path) target before after

def computeNormalizedChangeSetDigest (changeSet:ChangeSet) : Except ChangeSetError JsString :=
 taggedHash services (.changesetNormalized changeSet.baseSnapshotId
  changeSet.baseSnapshotRootDigest (changeSet.operations.map (normalizeChangeOperation services)))

def applyOperations : List ChangeOperation → TreeM Unit
 | [] => pure ()
 | operation::operations => do
   applyOperation services operation
   applyOperations operations

def runOperations (operations:List ChangeOperation) (tree:EphemeralTree) :
    Except ChangeSetError EphemeralTree :=
 match applyOperations services operations tree with
 | .ok _ tree => .ok tree
 | .error error _ => .error error

def validateAndApplyChangeSet (changeSet:ChangeSet) (baseline:ChangeSetBaseline) :
    Except ChangeSetError AppliedCandidateTree := do
 refuseWhen (!changeSetSchema services changeSet) .schemaInvalid (js "ChangeSet schema invalid")
 refuseWhen (changeSet.operations.length=0)
  .emptyOperations (js "ChangeSet.operations must be non-empty")
 refuseWhen (changeSet.operations.length > maxOperations ||
   decodedBytes services changeSet > maxDecodedBytes)
  .resourceLimit (js "ChangeSet exceeds safety limits")
 refuseWhen (changeSet.baseSnapshotId≠baseline.snapshotId)
  .baseSnapshotMismatch (js "baseSnapshotId does not match baseline")
 refuseWhen (changeSet.baseSnapshotRootDigest≠baseline.rootDigest)
  .baseSnapshotMismatch (js "baseSnapshotRootDigest does not match baseline")
 let tree ← EphemeralTree.ofEntries services baseline.caseSensitive baseline.entries
 let before:=fingerprints tree
 assertCanonicalChains services.unicode changeSet.operations tree.caseSensitive
 let tree ← runOperations services changeSet.operations tree
 tree.assertInvariants services
 let after:=fingerprints tree
 let changedPaths ← assertDeclaredMutations before after (declaredPaths changeSet.operations)
 let entries:=tree.toCandidateEntries
 let materializedTreeDigest ← candidateTreeDigest services entries
 let normalizedChangeSetDigest ← computeNormalizedChangeSetDigest services changeSet
 pure ⟨changeSet,normalizedChangeSetDigest,materializedTreeDigest,changedPaths,entries⟩

end Validation

def sampleDigest : JsString := js "sha256:"++List.replicate 64 0x30

def sampleSnapshotId : JsString := js "snap_01900000-0000-7000-8000-000000000001"

def sampleServices : Services where
 unicode := asciiTables
 sha256Hex _ := sampleDigest
 taggedHash _ := .ok sampleDigest
 fromBase64 _ := []
 toBase64 _ := []
 applyUnifiedDiff bytes _ := .ok bytes

def sampleDirectory (path:String) : BaselineEntry := ⟨⟨js path,.directory⟩,none⟩

def sampleBaseline (entries:List BaselineEntry) : ChangeSetBaseline :=
 ⟨sampleSnapshotId,sampleDigest,true,entries⟩

def sampleChangeSet (operations:List ChangeOperation) : ChangeSet :=
 ⟨sampleSnapshotId,sampleDigest,operations⟩

end EpistemicCompiler.ChangeSets
