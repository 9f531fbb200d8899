import EpistemicCompiler.CanonicalJson
import EpistemicCompiler.RelativePaths

set_option autoImplicit false

/-!
# The ephemeral tree of a change set

The tree holds one node for each path, in the order in which a JavaScript `Map` keeps them. Hashing,
base64 and the text patcher are services behind it.
-/
namespace EpistemicCompiler.ChangeSetTree
open JsValues TextEncodings RelativePaths CanonicalJson List

inductive ChangeSetCode where
 | reject (code:RelativePathRejectCode)
 | symlinkEscape
 | schemaInvalid
 | emptyOperations
 | resourceLimit
 | baseSnapshotMismatch
 | baselineDigest
 | aliasAmbiguous
 | pathMustBeAbsent
 | pathMustExist
 | parentMissing
 | symlinkAlias
 | hardlink
 | caseCollision
 | digestBeforeMismatch
 | digestAfterMismatch
 | directoryNotEmpty
 | directoryTreeMismatch
 | moveDirectoryForbidden
 | moveOverwrite
 | modeInvalid
 | chainAmbiguous
 | undeclaredMutation
 | textPatchEncoding
 | textPatch (code:String)

inductive ChangeSetError where
 | rejected (code:ChangeSetCode) (message:JsString)
 | canonicalization (error:CanonicalizationError)

def fail {α:Type} (code:ChangeSetCode) (message:JsString) : Except ChangeSetError α :=
 .error (.rejected code message)

def refuseWhen (condition:Prop) [Decidable condition] (code:ChangeSetCode)
    (message:JsString) : Except ChangeSetError Unit :=
 if condition then fail code message else .ok ()

inductive GitMode where
 | regular
 | executable
 deriving DecidableEq

inductive PlatformMetadata where
 | windows (fileId:JsString) (alternateStreams:List JsString)
 | posix (device inode:JsString)

inductive EntryType where
 | file
 | directory
 | symlink
 | submodule

inductive EntryContent where
 | file (gitMode:GitMode) (bytes:List UInt8) (contentDigest:JsString)
 | directory
 | symlink (symlinkTarget contentDigest:JsString)
 | submodule (gitObjectId:JsString)
 deriving DecidableEq

def EntryContent.entryType : EntryContent → EntryType
 | .file .. => .file
 | .directory => .directory
 | .symlink .. => .symlink
 | .submodule .. => .submodule

structure CandidateEntry where
 path : JsString
 content : EntryContent
 deriving DecidableEq

structure TreeNode extends CandidateEntry where
 platformMetadata : Option PlatformMetadata

abbrev BaselineEntry := TreeNode

inductive LineEnding where
 | lf
 | crlf
 deriving DecidableEq

inductive FinalNewline where
 | present
 | absent
 deriving DecidableEq

inductive ChangeOperation where
 | textPatch (path expectedBeforeDigest expectedAfterDigest unifiedDiff:JsString)
   (insertedLineEnding:LineEnding) (finalNewline:FinalNewline)
 | createText (path content expectedAfterDigest:JsString) (gitMode:GitMode)
 | createDirectory (path:JsString)
 | writeBinary (path:JsString) (expectedBeforeDigest:Option JsString)
   (mediaType base64Content expectedAfterDigest:JsString) (gitMode:GitMode)
 | delete (path expectedBeforeDigest:JsString)
 | deleteDirectory (path expectedTreeDigest:JsString)
 | move (fromPath toPath expectedBeforeDigest:JsString)
   (expectedDestinationDigest:Option JsString)
 | setGitMode (path expectedBeforeDigest:JsString) (expectedCurrentMode newMode:GitMode)
 | symlink (path target:JsString) (expectedBeforeDigest:Option JsString)
   (expectedAfterDigest:JsString)
 deriving DecidableEq

inductive ProjectedEntry where
 | file (path contentDigest:JsString) (size:ℕ) (gitMode:GitMode)
 | directory (path:JsString)
 | symlink (path symlinkTarget contentDigest:JsString)
 | submodule (path gitObjectId:JsString)

structure DirectoryChild where
 path : JsString
 entryType : EntryType
 digest : JsString

inductive HashPayload where
 | directoryTree (path:JsString) (entries:List DirectoryChild)
 | candidateTree (entries:List ProjectedEntry)
 | changesetNormalized (baseSnapshotId baseSnapshotRootDigest:JsString)
   (operations:List ChangeOperation)

structure TextPatchOptions where
 unifiedDiff : JsString
 path : JsString
 insertedLineEnding : LineEnding
 finalNewline : FinalNewline

structure Services where
 unicode : Unicode
 sha256Hex : List UInt8 → JsString
 taggedHash : HashPayload → Except CanonicalizationError JsString
 fromBase64 : JsString → List UInt8
 toBase64 : List UInt8 → JsString
 applyUnifiedDiff : List UInt8 → TextPatchOptions → Except ChangeSetError (List UInt8)

section Paths

variable (unicode:Unicode)

def simpleFold (text:JsString) : JsString := caseFoldKey unicode text false

def namesCollide (left right:JsString) (caseSensitive:Bool) : Bool :=
 if left=right then false
 else if unicode.normalize left=unicode.normalize right then true
 else !caseSensitive && simpleFold unicode left=simpleFold unicode right

def caseOnlyRename (fromPath toPath:JsString) (caseSensitive:Bool) : Bool :=
 if fromPath=toPath then false
 else if parentPath fromPath≠parentPath toPath then false
 else if caseSensitive then false
 else simpleFold unicode (basename fromPath)=simpleFold unicode (basename toPath)

def rejectMessage : RelativePathRejectCode → JsString
 | .pathTraversal => js " has an illegal path segment"
 | .pathAbsolute => js " is absolute or uses backslash"
 | .pathDevice => js " is a device or drive-relative path"
 | .pathAds => js " contains ADS colon"
 | .pathReserved => js " uses a reserved or 8.3 name"
 | .pathProtected => js " touches protected .git"
 | .pathLength => js " exceeds path length"
 | .unicodeCollision => js " is not NFC"

def assertSafePath (path role:JsString) (allowProtectedGit:Bool) :
    Except ChangeSetError Unit :=
 match classifyRelativePath unicode path allowProtectedGit with
 | none => .ok ()
 | some code => fail (.reject code) (role++rejectMessage code)

def replaceBackslashes (text:JsString) : JsString :=
 text.map fun unit=>if unit=backslash then slash else unit

/-- The directory a target leads to by its text alone; `none` above the root. -/
def followTarget (parts:List JsString) : List JsString → Option (List JsString)
 | [] => some parts
 | segment::rest =>
   if segment.length=0 || segment=js "." then followTarget parts rest
   else if segment=js ".." then
    if parts.length=0 then none else followTarget parts.dropLast rest
   else followTarget (parts++[segment]) rest

def assertSymlinkTargetContained (fromPath target:JsString) : Except ChangeSetError JsString :=
 let refuse (reason:String) : Except ChangeSetError JsString :=
  fail .symlinkEscape (js "symlink "++fromPath++js reason)
 let normalized:=replaceBackslashes (unicode.normalize target)
 if 0∈target then refuse " target contains NUL"
 else if normalized≠unicode.normalize (replaceBackslashes target) then
  refuse " target is not NFC"
 else if normalized.head?=some slash || 0x3A∈normalized then
  refuse " target is absolute/device/ADS"
 else if classifyRelativePath unicode (replaceBackslashes normalized) false=some .pathDevice then
  refuse " target is absolute/device/ADS"
 else
  let parts:=((parentPath fromPath).map segments).getD []
  match followTarget parts (segments normalized) with
  | none => refuse " escapes the tree"
  | some _ => .ok normalized

variable {unicode}

structure ContainedTarget (unicode:Unicode) (fromPath target:JsString) : Prop where
 noNul : 0 ∉ target
 same : replaceBackslashes (unicode.normalize target) =
  unicode.normalize (replaceBackslashes target)
 relative : (replaceBackslashes (unicode.normalize target)).head?≠some slash
 noColon : 0x3A ∉ replaceBackslashes (unicode.normalize target)
 inside : ∃parts,followTarget (((parentPath fromPath).map segments).getD [])
  (segments (replaceBackslashes (unicode.normalize target)))=some parts

lemma assertSymlinkTargetContained_ok {fromPath target normalized:JsString}
  (h:assertSymlinkTargetContained unicode fromPath target=.ok normalized) :
  normalized=replaceBackslashes (unicode.normalize target) ∧
   ContainedTarget unicode fromPath target := by
 simp only [assertSymlinkTargetContained] at h
 by_cases hnul : 0∈target
 · rw [if_pos hnul] at h
   cases h
 rw [if_neg hnul] at h
 by_cases hsame : replaceBackslashes (unicode.normalize target) ≠
   unicode.normalize (replaceBackslashes target)
 · rw [if_pos hsame] at h
   cases h
 rw [if_neg hsame] at h
 split at h
 · cases h
 rename_i hform
 split at h
 · cases h
 split at h
 · cases h
 rename_i parts hparts
 simp only [Bool.or_eq_true,decide_eq_true_eq,not_or] at hform
 exact ⟨(Except.ok.inj h).symm,hnul,not_not.mp hsame,hform.1,hform.2,parts,hparts⟩

end Paths

section Nodes

variable (services:Services)

def fileDigest (bytes:List UInt8) : JsString := services.sha256Hex bytes

def symlinkDigest (target:JsString) : JsString := services.sha256Hex (utf8 target)

def taggedHash (payload:HashPayload) : Except ChangeSetError JsString :=
 (services.taggedHash payload).mapError .canonicalization

def identityKey : PlatformMetadata → JsString
 | .windows fileId _ => js "windows:"++fileId
 | .posix device inode => js "posix:"++device++js ":"++inode

def fromBaseline (entry:BaselineEntry) : Except ChangeSetError TreeNode :=
 match entry.content with
 | .file _ bytes contentDigest =>
   if fileDigest services bytes≠contentDigest then
    fail .baselineDigest (js "baseline file "++entry.path++js " digest mismatch")
   else .ok entry
 | .symlink symlinkTarget contentDigest =>
   if symlinkDigest services symlinkTarget≠contentDigest then
    fail .baselineDigest (js "baseline symlink "++entry.path++js " digest mismatch")
   else .ok entry
 | .directory | .submodule _ => .ok entry

end Nodes

section Tree

structure EphemeralTree where
 caseSensitive : Bool
 nodes : List TreeNode
 distinct : (nodes.map (·.path)).Nodup

namespace EphemeralTree

variable (services:Services) (tree:EphemeralTree)

def get (path:JsString) : Option TreeNode := tree.nodes.find? (·.path=path)

def has (path:JsString) : Bool := (tree.get path).isSome

def empty (caseSensitive:Bool) : EphemeralTree := ⟨caseSensitive,[],List.nodup_nil⟩

def setNodes (nodes:List TreeNode) (node:TreeNode) : List TreeNode :=
 if nodes.any (·.path=node.path) then
  nodes.map fun other=>if other.path=node.path then node else other
 else nodes++[node]

lemma nodup_setNodes {nodes:List TreeNode} (h:(nodes.map (·.path)).Nodup) (node:TreeNode) :
  ((setNodes nodes node).map (·.path)).Nodup := by
 unfold setNodes
 split_ifs with hany
 · have hpaths:((fun other:TreeNode=>other.path) ∘ fun other=>
     if other.path=node.path then node else other)=fun other=>other.path := by
    funext other
    by_cases hother : other.path=node.path <;> simp [hother]
   rwa [map_map,hpaths]
 · rw [map_append,map_cons,map_nil,nodup_append]
   refine ⟨h,nodup_singleton _,fun path hpath other hother heq=>hany ?_⟩
   obtain ⟨existing,hmem,rfl⟩:=mem_map.mp hpath
   rw [mem_singleton.mp hother] at heq
   exact any_eq_true.mpr ⟨existing,hmem,decide_eq_true heq⟩

def set (node:TreeNode) : EphemeralTree :=
 { tree with nodes:=setNodes tree.nodes node, distinct:=nodup_setNodes tree.distinct node }

def erase (path:JsString) : EphemeralTree :=
 { tree with
   nodes:=tree.nodes.filter (·.path≠path)
   distinct:=tree.distinct.sublist (List.filter_sublist.map _) }

def passedPaths (dir:JsString) : List JsString → List JsString
 | [] | [_] => []
 | segment::next::rest =>
   let passed:=if dir.length=0 then segment else dir++slash::segment
   passed::passedPaths passed (next::rest)

def rejectSymlinkAlias (path:JsString) : Except ChangeSetError Unit :=
 (passedPaths [] (segments path)).forM fun passed=>
  match tree.get passed with
  | some ⟨⟨_,.symlink ..⟩,_⟩ =>
    fail .symlinkAlias (path++js " aliases through symlink "++passed)
  | _ => .ok ()

def rejectAlias (path:JsString) : Except ChangeSetError Unit := do
 tree.rejectSymlinkAlias path
 (tree.nodes.map (·.path)).forM fun existing=>
  if existing=path then .ok ()
  else if parentPath existing≠parentPath path then .ok ()
  else if namesCollide services.unicode (basename path) (basename existing)
    tree.caseSensitive then
   fail .aliasAmbiguous (path++js " collides with "++existing)
  else .ok ()

def requireAbsent (path:JsString) : Except ChangeSetError Unit := do
 refuseWhen (tree.has path) .pathMustBeAbsent (path++js " must be absent")
 tree.rejectAlias services path

def requireParentDirectory (path:JsString) : Except ChangeSetError Unit :=
 match parentPath path with
 | none => .ok ()
 | some parent =>
   match tree.get parent with
   | some ⟨⟨_,.directory⟩,_⟩ => .ok ()
   | _ => fail .parentMissing (js "parent directory missing for "++path)

def requireExisting (path:JsString) : Except ChangeSetError TreeNode :=
 match tree.get path with
 | none => fail .pathMustExist (path++js " does not exist")
 | some node => .ok node

def children (dirPath:JsString) : List TreeNode :=
 tree.nodes.filter fun node=>
  (dirPath++[slash]).isPrefixOf node.path && parentPath node.path=some dirPath

def directoryTreeDigestAt : ℕ → JsString → Except ChangeSetError JsString
 | 0, path => taggedHash services (.directoryTree path [])
 | fuel+1, path => do
   let entries ← (tree.children path).mapM fun child=>do
    let digest ← match child.content with
     | .file _ _ contentDigest => pure contentDigest
     | .symlink _ contentDigest => pure contentDigest
     | .directory => directoryTreeDigestAt fuel child.path
     | .submodule gitObjectId => pure (services.sha256Hex (utf8 gitObjectId))
    pure (DirectoryChild.mk child.path child.content.entryType digest)
   taggedHash services (.directoryTree path
    (entries.insertionSort fun left right=>unitsLe left.path right.path))

def directoryTreeDigest (path:JsString) : Except ChangeSetError JsString :=
 tree.directoryTreeDigestAt services tree.nodes.length path

def entryLe (left right:CandidateEntry) : Prop := unitsLe left.path right.path=true

instance : DecidableRel entryLe := fun left right=>
 inferInstanceAs (Decidable (unitsLe left.path right.path=true))

def toCandidateEntries : List CandidateEntry :=
 (tree.nodes.map (·.toCandidateEntry)).insertionSort entryLe

structure SeenNodes where
 identities : List (JsString×JsString)
 foldKeys : List (JsString×JsString)

def noteIdentity (identities:List (JsString×JsString)) (node:TreeNode) :
    Except ChangeSetError (List (JsString×JsString)) :=
 match node.platformMetadata.map identityKey with
 | none => .ok identities
 | some key =>
   let others:=(identities.lookup key).filter (·≠node.path)
   match others with
   | some previous =>
     fail .hardlink (js "hardlink identity "++key++js " shared by "++previous ++
      js " and "++node.path)
   | none => .ok ((key,node.path)::identities)

def foldKey (node:TreeNode) : JsString :=
 let name:=basename node.path
 (parentPath node.path).getD []++0 ::
  if tree.caseSensitive then name else simpleFold services.unicode name

def noteFoldKey (foldKeys:List (JsString×JsString)) (node:TreeNode) :
    Except ChangeSetError (List (JsString×JsString)) :=
 let key:=tree.foldKey services node
 match (foldKeys.lookup key).filter (·≠node.path) with
 | some existing => fail .caseCollision (node.path++js " collides with "++existing)
 | none => .ok ((key,node.path)::foldKeys)

def assertTarget (node:TreeNode) : Except ChangeSetError Unit :=
 match node.content with
 | .symlink symlinkTarget _ =>
   (assertSymlinkTargetContained services.unicode node.path symlinkTarget).map fun _=>()
 | _ => .ok ()

def assertStreams (node:TreeNode) : Except ChangeSetError Unit :=
 match node.platformMetadata, node.content with
 | _, .file .. | _, .directory => .ok ()
 | some (.windows _ (_::_)), _ =>
   fail (.reject .pathAds) (node.path++js " has ADS on a non-file entry")
 | _, _ => .ok ()

def checkNode (seen:SeenNodes) (node:TreeNode) : Except ChangeSetError SeenNodes := do
 assertSafePath services.unicode node.path node.path true
 tree.rejectSymlinkAlias node.path
 tree.requireParentDirectory node.path
 assertTarget services node
 let identities ← noteIdentity seen.identities node
 let foldKeys ← tree.noteFoldKey services seen.foldKeys node
 assertStreams node
 pure ⟨identities,foldKeys⟩

def assertInvariants : Except ChangeSetError Unit := do
 let _ ← tree.nodes.foldlM (tree.checkNode services) ⟨[],[]⟩

def addEntry (entry:BaselineEntry) : Except ChangeSetError EphemeralTree := do
 assertSafePath services.unicode entry.path (js "baseline "++entry.path) true
 refuseWhen (tree.has entry.path) .aliasAmbiguous (js "duplicate baseline path "++entry.path)
 let node ← fromBaseline services entry
 pure (tree.set node)

def ofEntries (caseSensitive:Bool) (entries:List BaselineEntry) :
    Except ChangeSetError EphemeralTree := do
 let tree ← entries.foldlM (addEntry services) (empty caseSensitive)
 tree.assertInvariants services
 pure tree

end EphemeralTree

end Tree

section Lookup

namespace EphemeralTree

variable {tree:EphemeralTree} {path:JsString} {node:TreeNode}

lemma path_of_get (h:tree.get path=some node) : node.path=path := by
 simpa using find?_some h

lemma mem_of_get (h:tree.get path=some node) : node∈tree.nodes :=
 mem_of_find?_eq_some h

lemma get_of_mem (h:node∈tree.nodes) : tree.get node.path=some node := by
 have hexist:(tree.get node.path).isSome := by
  rw [get,find?_isSome]
  exact ⟨node,h,decide_eq_true rfl⟩
 obtain ⟨found,hfound⟩:=Option.isSome_iff_exists.mp hexist
 rw [hfound,inj_on_of_nodup_map tree.distinct (mem_of_get hfound) h (path_of_get hfound)]

lemma get_erase (other:JsString) :
  (tree.erase other).get path=if path=other then none else tree.get path := by
 have hfilter:(tree.erase other).get path =
   tree.nodes.find? fun node=>node.path≠other && node.path=path := by
  simp only [get,erase,find?_filter]
  congr 1
  funext node
  simp
 rw [hfilter]
 by_cases h : path=other
 · rw [if_pos h,find?_eq_none]
   intro node _
   simp [h]
 · rw [if_neg h,get]
   congr 1
   funext node
   by_cases hnode : node.path=path
   · simp [hnode,h]
   · simp [hnode]

lemma mem_setNodes (nodes:List TreeNode) (node:TreeNode) : node∈setNodes nodes node := by
 unfold setNodes
 split_ifs with hany
 · obtain ⟨other,hmem,hother⟩:=any_eq_true.mp hany
   exact mem_map.mpr ⟨other,hmem,if_pos (of_decide_eq_true hother)⟩
 · exact mem_append_right _ mem_cons_self

lemma find_setNodes {nodes:List TreeNode} (h:path≠node.path) :
  (setNodes nodes node).find? (·.path=path)=nodes.find? (·.path=path) := by
 unfold setNodes
 split_ifs with hany
 · rw [find?_map]
   have hsame:((fun other:TreeNode=>decide (other.path=path)) ∘
     fun other=>if other.path=node.path then node else other) =
     fun other=>decide (other.path=path) := by
    funext other
    by_cases hother : other.path=node.path
    · simp [hother,h.symm]
    · simp [hother]
   rw [hsame]
   cases hfound : nodes.find? (·.path=path) with
   | none => rfl
   | some found =>
     have hpath:found.path=path := by simpa using find?_some hfound
     simp [hpath,h]
 · simp [h.symm]

end EphemeralTree

end Lookup

end EpistemicCompiler.ChangeSetTree
