import EpistemicCompiler.ChangeSets
import EpistemicCompiler.FallibleRuns
import EpistemicCompiler.LocalUpdates

set_option autoImplicit false

/-!
# What an operation does to a tree

Seen as a map from paths to nodes, an accepted operation rewrites the node at its own path, and a
move takes a node from one of its two paths to the other. All else in `applyOperation` only decides
whether the operation is accepted.
-/
namespace EpistemicCompiler.ChangeSetEffects
open JsValues TextEncodings RelativePaths ChangeSetTree ChangeSets FallibleRuns LocalUpdates
 Function List Except

variable {path:JsString} {node:TreeNode}

section Programs

variable {α β:Type} {tree tree':EphemeralTree}

variable {b:β}

lemma examine_bind_ok {check:EphemeralTree → Except ChangeSetError α} {f:α → TreeM β}
  (h:(examine check >>= f) tree=.ok b tree') :
  ∃a,check tree=.ok a ∧ f a tree=.ok b tree' := by
 cases hcheck : check tree with
 | error error => simp [bind,EStateM.bind,examine,hcheck] at h
 | ok a => exact ⟨a,rfl,by simpa [bind,EStateM.bind,examine,hcheck] using h⟩

variable {f:Unit → TreeM β}

lemma passed {check:EphemeralTree → Except ChangeSetError Unit}
  (h:(examine check >>= f) tree=.ok b tree') : f () tree=.ok b tree' := by
 obtain ⟨_,-,h⟩:=examine_bind_ok h
 exact h

lemma bind_ok {x:TreeM Unit} (h:(x >>= f) tree=.ok b tree') :
  ∃mid,x tree=.ok () mid ∧ f () mid=.ok b tree' := by
 cases hx : x tree with
 | error error mid => simp [bind,EStateM.bind,hx] at h
 | ok _ mid => exact ⟨mid,rfl,by simpa [bind,EStateM.bind,hx] using h⟩

lemma requireExisting_ok (h:tree.requireExisting path=.ok node) :
  tree.get path=some node := by
 cases hget : tree.get path with
 | none => simp [EphemeralTree.requireExisting,hget,fail] at h
 | some found =>
   simp only [EphemeralTree.requireExisting,hget,ok.injEq] at h
   rw [h]

lemma deletePath_bind_ok {f:TreeNode → TreeM β} (h:(deletePath path >>= f) tree=.ok b tree') :
  ∃node,f node (tree.erase path)=.ok b tree' := by
 rw [deletePath,bind_assoc] at h
 obtain ⟨node,-,h⟩:=examine_bind_ok h
 exact ⟨node,h⟩

lemma discardWhen_bind_ok {condition:Bool}
  (h:(discardWhen condition path >>= f) tree=.ok b tree') :
  ∃mid,(mid=tree ∨ mid=tree.erase path) ∧ f () mid=.ok b tree' := by
 cases condition with
 | false => exact ⟨tree,.inl rfl,h⟩
 | true =>
   rw [discardWhen,if_pos rfl,bind_assoc] at h
   obtain ⟨_,h⟩:=deletePath_bind_ok h
   exact ⟨tree.erase path,.inr rfl,h⟩

lemma uniqueTempPath_ok {fromPath temp:JsString} (h:uniqueTempPath tree fromPath=.ok temp) :
  tree.get temp=none := by
 simp only [uniqueTempPath] at h
 split at h
 · rename_i path hfind
   cases h
   have hfree:=find?_some hfind
   simpa [EphemeralTree.has] using hfree
 · cases h

end Programs

section Effects

variable {operation:ChangeOperation} {role:JsString}

abbrev Lookup := JsString → Option TreeNode

variable (services:Services)

def rewrite : ChangeOperation → Option TreeNode → Option TreeNode
 | .textPatch path _ _ unifiedDiff ending newline, some ⟨⟨_,.file gitMode bytes _⟩,metadata⟩ =>
   match services.applyUnifiedDiff bytes ⟨unifiedDiff,path,ending,newline⟩ with
   | .ok next => some ⟨⟨path,.file gitMode next (fileDigest services next)⟩,metadata⟩
   | .error _ => none
 | .createText path content _ gitMode, _ =>
   some ⟨⟨path,.file gitMode (utf8 content) (fileDigest services (utf8 content))⟩,none⟩
 | .createDirectory path, _ => some ⟨⟨path,.directory⟩,none⟩
 | .writeBinary path before _ base64Content _ gitMode, node =>
   let bytes:=services.fromBase64 base64Content
   some ⟨⟨path,.file gitMode bytes (fileDigest services bytes)⟩,
    before.bind fun _=>node.bind (·.platformMetadata)⟩
 | .setGitMode path _ _ newMode, some ⟨⟨_,.file _ bytes digest⟩,metadata⟩ =>
   some ⟨⟨path,.file newMode bytes digest⟩,metadata⟩
 | .symlink path target _ _, node =>
   let normalized:=replaceBackslashes (services.unicode.normalize target)
   some ⟨⟨path,.symlink normalized (symlinkDigest services normalized)⟩,
    node.bind (·.platformMetadata)⟩
 | _, _ => none

def effect : ChangeOperation → Lookup → Lookup
 | .move fromPath toPath _ _, look =>
   update (update look fromPath none) toPath ((look fromPath).map (relocate · toPath))
 | operation, look =>
   (operationPaths operation).foldl
    (fun look path=>update look path (rewrite services operation (look path))) look

lemma isLocal_effect : IsLocal operationPaths (effect services) := by
 constructor
 · intro operation look key hkey
   cases operation <;> simp_all [effect,operationPaths]
 · intro operation look look' hsame key hkey
   cases operation with
   | move fromPath toPath before destination =>
     simp only [operationPaths,mem_cons,not_mem_nil,or_false] at hkey
     have hfrom:=hsame fromPath (by simp [operationPaths])
     rcases hkey with rfl | rfl <;> simp [effect,update_apply,hfrom]
   | _ => simp_all [effect,operationPaths]

lemma effect_cases {look:Lookup} (h:effect services operation look path=some node) :
  look path=some node ∨ rewrite services operation (look path)=some node ∨
   ∃origin source,look origin=some source ∧ node=relocate source path := by
 have hsingle:∀own,operationPaths operation=[own] →
   update look own (rewrite services operation (look own)) path=some node →
   look path=some node ∨ rewrite services operation (look path)=some node := by
  intro own _ hupdate
  rw [update_apply] at hupdate
  split_ifs at hupdate with hown
  · exact .inr (hown ▸ hupdate)
  · exact .inl hupdate
 cases operation with
 | move fromPath toPath before destination =>
   simp only [effect,update_apply] at h
   split_ifs at h with hto hfrom
   · obtain ⟨source,hsrc,rfl⟩:=Option.map_eq_some_iff.mp h
     exact .inr (.inr ⟨fromPath,source,hsrc,by rw [hto]⟩)
   · exact .inl h
 | textPatch own | createText own | createDirectory own | writeBinary own | delete own
 | deleteDirectory own | setGitMode own | symlink own =>
   exact (hsingle own rfl h).imp_right .inl

structure Applied (operation:ChangeOperation) (tree tree':EphemeralTree) : Prop where
 caseSensitive : tree'.caseSensitive=tree.caseSensitive
 get : tree'.get=effect services operation tree.get
 safe : ∀path∈operationPaths operation,
  classifyRelativePath services.unicode path false=none

lemma get_set_eq (tree:EphemeralTree) (node:TreeNode) :
  (tree.set node).get=update tree.get node.path (some node) := by
 funext path
 rw [update_apply]
 by_cases h : path=node.path
 · rw [if_pos h,h]
   exact EphemeralTree.get_of_mem (EphemeralTree.mem_setNodes tree.nodes node)
 · rw [if_neg h]
   exact EphemeralTree.find_setNodes h

lemma get_erase_eq (tree:EphemeralTree) (path:JsString) :
  (tree.erase path).get=update tree.get path none := by
 funext other
 rw [EphemeralTree.get_erase,update_apply]

variable {services} {path:JsString} {tree tree':EphemeralTree}

lemma classify_of_assertSafePath {allowGit:Bool}
  (h:assertSafePath services.unicode path role allowGit=.ok ()) :
  classifyRelativePath services.unicode path allowGit=none := by
 cases hclass : classifyRelativePath services.unicode path allowGit with
 | none => rfl
 | some code => simp [assertSafePath,hclass,fail] at h

variable {gitMode:GitMode} {after before:JsString}

lemma putFile_ok {bytes:List UInt8} {metadata:Option PlatformMetadata}
  (h:putFile services path gitMode bytes after metadata tree=.ok () tree') :
  tree'=tree.set ⟨⟨path,.file gitMode bytes (fileDigest services bytes)⟩,metadata⟩ := by
 cases passed h
 rfl

lemma applied_set (hsafe:assertSafePath services.unicode node.path role false=.ok ())
  (hpaths:operationPaths operation=[node.path])
  (heffect:effect services operation tree.get=update tree.get node.path (some node)) :
  Applied services operation tree (tree.set node) := by
 refine ⟨rfl,?_,by simpa [hpaths] using classify_of_assertSafePath hsafe⟩
 rw [get_set_eq,heffect]

lemma applied_erase (hsafe:assertSafePath services.unicode path role false=.ok ())
  (hpaths:operationPaths operation=[path])
  (heffect:effect services operation tree.get=update tree.get path none) :
  Applied services operation tree (tree.erase path) := by
 refine ⟨rfl,?_,by simpa [hpaths] using classify_of_assertSafePath hsafe⟩
 rw [get_erase_eq,heffect]

lemma applied_textPatch {unifiedDiff:JsString} {ending:LineEnding} {newline:FinalNewline}
  (h:applyTextPatch services path before after ⟨unifiedDiff,path,ending,newline⟩ tree =
   .ok () tree') :
  Applied services (.textPatch path before after unifiedDiff ending newline) tree tree' := by
 obtain ⟨_,hsafe,h⟩:=examine_bind_ok h
 obtain ⟨node,hnode,h⟩:=examine_bind_ok (passed h)
 have hget:=requireExisting_ok hnode
 obtain ⟨⟨nodePath,content⟩,metadata⟩:=node
 cases content with
 | file gitMode bytes digest =>
   obtain ⟨next,hnext,h⟩:=examine_bind_ok (passed h)
   cases putFile_ok h
   exact applied_set hsafe rfl (by simp [effect,operationPaths,hget,rewrite,hnext])
 | directory | symlink target digest | submodule id => cases h

lemma applied_createText {content:JsString}
  (h:applyCreateText services path content after gitMode tree=.ok () tree') :
  Applied services (.createText path content after gitMode) tree tree' := by
 obtain ⟨_,hsafe,h⟩:=examine_bind_ok h
 cases putFile_ok (passed (passed (passed (passed h))))
 exact applied_set hsafe rfl rfl

lemma applied_createDirectory (h:applyCreateDirectory services path tree=.ok () tree') :
  Applied services (.createDirectory path) tree tree' := by
 obtain ⟨_,hsafe,h⟩:=examine_bind_ok h
 replace h:=passed (passed (passed h))
 cases h
 exact applied_set hsafe rfl rfl

lemma applied_writeBinary {before:Option JsString} {mediaType base64Content:JsString}
  (h:applyWriteBinary services path before base64Content after gitMode tree=.ok () tree') :
  Applied services (.writeBinary path before mediaType base64Content after gitMode) tree
   tree' := by
 obtain ⟨_,hsafe,h⟩:=examine_bind_ok h
 obtain ⟨bytes,hbytes,h⟩:=examine_bind_ok (passed (passed h))
 simp only [decodeBase64] at hbytes
 split_ifs at hbytes
 · cases hbytes
 obtain rfl:=ok.inj hbytes
 cases before with
 | none =>
   cases putFile_ok (passed h)
   exact applied_set hsafe rfl rfl
 | some expected =>
   obtain ⟨existing,hexist,h⟩:=examine_bind_ok h
   cases putFile_ok (passed (passed h))
   exact applied_set hsafe rfl
    (by simp [effect,operationPaths,rewrite,requireExisting_ok hexist])

lemma applied_delete (h:applyDelete services path before tree=.ok () tree') :
  Applied services (.delete path before) tree tree' := by
 obtain ⟨_,hsafe,h⟩:=examine_bind_ok h
 obtain ⟨node,-,h⟩:=examine_bind_ok (passed h)
 obtain ⟨_,h⟩:=deletePath_bind_ok (passed (passed h))
 cases h
 exact applied_erase hsafe rfl rfl

lemma applied_deleteDirectory {digest:JsString}
  (h:applyDeleteDirectory services path digest tree=.ok () tree') :
  Applied services (.deleteDirectory path digest) tree tree' := by
 obtain ⟨_,hsafe,h⟩:=examine_bind_ok h
 obtain ⟨node,-,h⟩:=examine_bind_ok (passed h)
 replace h:=passed h
 obtain ⟨_,-,h⟩:=examine_bind_ok (passed h)
 obtain ⟨_,h⟩:=deletePath_bind_ok (passed h)
 cases h
 exact applied_erase hsafe rfl rfl

lemma applied_setGitMode {current newMode:GitMode}
  (h:applySetGitMode services path before current newMode tree=.ok () tree') :
  Applied services (.setGitMode path before current newMode) tree tree' := by
 obtain ⟨_,hsafe,h⟩:=examine_bind_ok h
 obtain ⟨node,hnode,h⟩:=examine_bind_ok (passed h)
 have hget:=requireExisting_ok hnode
 have hpath:=EphemeralTree.path_of_get hget
 obtain ⟨⟨nodePath,content⟩,metadata⟩:=node
 cases hpath
 cases content with
 | file gitMode bytes digest =>
   replace h:=passed (passed (passed h))
   cases h
   exact applied_set hsafe rfl (by simp [effect,operationPaths,hget,rewrite])
 | directory | symlink target digest | submodule id => cases h

lemma applied_symlink {target:JsString} {before:Option JsString}
  (h:applySymlink services path target before after tree=.ok () tree') :
  Applied services (.symlink path target before after) tree tree' := by
 obtain ⟨_,hsafe,h⟩:=examine_bind_ok h
 obtain ⟨normalized,hnorm,h⟩:=examine_bind_ok (passed (passed h))
 replace h:=passed h
 cases (assertSymlinkTargetContained_ok hnorm).1
 have hsafe:=classify_of_assertSafePath hsafe
 cases before with
 | none =>
   replace h:=passed h
   cases h
   refine ⟨rfl,?_,by simpa [operationPaths] using hsafe⟩
   rw [get_set_eq]
   rfl
 | some expected =>
   obtain ⟨existing,-,h⟩:=examine_bind_ok h
   obtain ⟨_,h⟩:=deletePath_bind_ok (passed (passed h))
   cases h
   refine ⟨rfl,?_,by simpa [operationPaths] using hsafe⟩
   rw [get_set_eq,get_erase_eq,update_idem]
   rfl

lemma applied_move {fromPath toPath:JsString} {destination:Option JsString}
  (h:applyMove services fromPath toPath before destination tree=.ok () tree') :
  Applied services (.move fromPath toPath before destination) tree tree' := by
 obtain ⟨_,hfrom,h⟩:=examine_bind_ok h
 obtain ⟨_,hto,h⟩:=examine_bind_ok h
 obtain ⟨source,hsrc,h⟩:=examine_bind_ok (passed (passed h))
 replace h:=passed (passed (passed h))
 replace h:=passed h
 have hget:=requireExisting_ok hsrc
 have hsafe:∀path∈operationPaths (.move fromPath toPath before destination),
   classifyRelativePath services.unicode path false=none := by
  simpa [operationPaths] using ⟨classify_of_assertSafePath hfrom,classify_of_assertSafePath hto⟩
 split_ifs at h with hrename
 · obtain ⟨temp,htemp,h⟩:=examine_bind_ok h
   obtain ⟨_,h⟩:=deletePath_bind_ok h
   obtain ⟨_,h⟩:=deletePath_bind_ok h
   cases h
   refine ⟨rfl,?_,hsafe⟩
   -- The temporary name was free, so it is free again afterwards.
   have hfree:update tree.get fromPath none temp=none := by
    rw [update_apply,uniqueTempPath_ok htemp,ite_self]
   have hresult:update (update tree.get fromPath none) temp none =
     update tree.get fromPath none := update_eq_self_iff.mpr hfree.symm
   rw [get_set_eq,get_erase_eq,get_set_eq,get_erase_eq]
   simp only [relocate,update_idem,effect,hget,Option.map_some,hresult]
 · obtain ⟨mid,hmid,h⟩:=discardWhen_bind_ok h
   obtain ⟨_,h⟩:=deletePath_bind_ok h
   cases h
   refine ⟨?_,?_,hsafe⟩
   · rcases hmid with rfl | rfl <;> rfl
   · rw [get_set_eq,get_erase_eq]
     simp only [relocate,effect,hget,Option.map_some]
     rcases hmid with rfl | rfl
     · rfl
     · rw [get_erase_eq]
       funext path
       simp only [update_apply]
       split_ifs <;> rfl

lemma applied_of_ok (h:applyOperation services operation tree=.ok () tree') :
  Applied services operation tree tree' := by
 cases operation with
 | textPatch => exact applied_textPatch h
 | createText => exact applied_createText h
 | createDirectory => exact applied_createDirectory h
 | writeBinary => exact applied_writeBinary h
 | delete => exact applied_delete h
 | deleteDirectory => exact applied_deleteDirectory h
 | move => exact applied_move h
 | setGitMode => exact applied_setGitMode h
 | symlink => exact applied_symlink h

structure AppliedAll (services:Services) (operations:List ChangeOperation)
  (tree tree':EphemeralTree) : Prop where
 caseSensitive : tree'.caseSensitive=tree.caseSensitive
 get : tree'.get=run (effect services) operations tree.get
 safe : ∀operation∈operations,∀path∈operationPaths operation,
  classifyRelativePath services.unicode path false=none

lemma appliedAll_of_applyOperations {operations:List ChangeOperation}
  (h:applyOperations services operations tree=.ok () tree') :
  AppliedAll services operations tree tree' := by
 induction operations generalizing tree with
 | nil =>
   cases h
   exact ⟨rfl,rfl,fun _ hmem=>by cases hmem⟩
 | cons operation operations ih =>
   obtain ⟨mid,hfirst,hrest⟩:=bind_ok h
   have happlied:=applied_of_ok hfirst
   have hall:=ih hrest
   refine ⟨hall.caseSensitive.trans happlied.caseSensitive,?_,?_⟩
   · rw [hall.get,happlied.get,run_cons]
   · exact forall_mem_cons.mpr ⟨happlied.safe,hall.safe⟩

lemma appliedAll_of_ok {operations:List ChangeOperation}
  (h:runOperations services operations tree=.ok tree') :
  AppliedAll services operations tree tree' := by
 unfold runOperations at h
 split at h
 · rename_i result hrun
   cases h
   exact appliedAll_of_applyOperations hrun
 · cases h

end Effects

section Acceptance

variable {services:Services}

variable {tree:EphemeralTree}

lemma fromBaseline_ok {entry:BaselineEntry} (h:fromBaseline services entry=.ok node) :
  node=entry := by
 unfold fromBaseline at h
 split at h
 · split_ifs at h
   · cases h
   · exact (ok.inj h).symm
 · split_ifs at h
   · cases h
   · exact (ok.inj h).symm
 · exact (ok.inj h).symm
 · exact (ok.inj h).symm

lemma addEntry_ok {entry:BaselineEntry} {tree':EphemeralTree}
  (h:tree.addEntry services entry=.ok tree') :
  tree'.caseSensitive=tree.caseSensitive ∧ tree'.nodes=tree.nodes++[entry] ∧
   fromBaseline services entry=.ok entry := by
 obtain ⟨_,-,h⟩:=bind_eq_ok h
 obtain ⟨_,hfresh,h⟩:=bind_eq_ok h
 obtain ⟨node,hnode,h⟩:=bind_eq_ok h
 have hentry:=fromBaseline_ok hnode
 rw [hentry] at hnode h
 cases h
 refine ⟨rfl,if_neg fun hany=>?_,hnode⟩
 rw [any_eq_true,← find?_isSome] at hany
 rw [refuseWhen,if_pos (show tree.has _ = true from hany)] at hfresh
 cases hfresh

lemma addEntries_ok {entries:List BaselineEntry} {tree':EphemeralTree}
  (h:entries.foldlM (EphemeralTree.addEntry services) tree=.ok tree') :
  tree'.caseSensitive=tree.caseSensitive ∧ tree'.nodes=tree.nodes++entries ∧
   ∀entry∈entries,fromBaseline services entry=.ok entry := by
 induction entries generalizing tree with
 | nil =>
   cases h
   exact ⟨rfl,(append_nil _).symm,fun _ hmem=>by cases hmem⟩
 | cons entry entries ih =>
   obtain ⟨mid,hfirst,hrest⟩:=bind_eq_ok h
   obtain ⟨hcase,hnodes,hentry⟩:=addEntry_ok hfirst
   obtain ⟨hcase',hnodes',hentries⟩:=ih hrest
   refine ⟨hcase'.trans hcase,?_,forall_mem_cons.mpr ⟨hentry,hentries⟩⟩
   rw [hnodes',hnodes,append_assoc]
   rfl

structure BuiltFrom (services:Services) (baseline:ChangeSetBaseline) (tree:EphemeralTree) :
  Prop where
 caseSensitive : tree.caseSensitive=baseline.caseSensitive
 nodes : tree.nodes=baseline.entries
 digests : ∀entry∈baseline.entries,fromBaseline services entry=.ok entry
 invariants : tree.assertInvariants services=.ok ()

lemma builtFrom_of_ok {baseline:ChangeSetBaseline}
  (h:EphemeralTree.ofEntries services baseline.caseSensitive baseline.entries=.ok tree) :
  BuiltFrom services baseline tree := by
 obtain ⟨built,hbuilt,h⟩:=bind_eq_ok h
 obtain ⟨_,hinv,h⟩:=bind_eq_ok h
 cases h
 obtain ⟨hcase,hnodes,hentries⟩:=addEntries_ok hbuilt
 exact ⟨hcase,hnodes,hentries,hinv⟩

structure Accepted (services:Services) (changeSet:ChangeSet) (baseline:ChangeSetBaseline)
  (result:AppliedCandidateTree) (base final:EphemeralTree) : Prop where
 built : BuiltFrom services baseline base
 chains : assertCanonicalChains services.unicode changeSet.operations base.caseSensitive=.ok ()
 applied : AppliedAll services changeSet.operations base final
 invariants : final.assertInvariants services=.ok ()
 changed : assertDeclaredMutations (fingerprints base) (fingerprints final)
  (declaredPaths changeSet.operations)=.ok result.changedPaths
 entries : result.entries=final.toCandidateEntries
 digest : candidateTreeDigest services result.entries=.ok result.materializedTreeDigest

lemma accepted_of_ok {changeSet:ChangeSet} {baseline:ChangeSetBaseline}
  {result:AppliedCandidateTree}
  (h:validateAndApplyChangeSet services changeSet baseline=.ok result) :
  ∃base final,Accepted services changeSet baseline result base final := by
 obtain ⟨_,-,h⟩:=bind_eq_ok h
 obtain ⟨_,-,h⟩:=bind_eq_ok h
 obtain ⟨_,-,h⟩:=bind_eq_ok h
 obtain ⟨_,-,h⟩:=bind_eq_ok h
 obtain ⟨_,-,h⟩:=bind_eq_ok h
 obtain ⟨base,hbase,h⟩:=bind_eq_ok h
 obtain ⟨_,hchain,h⟩:=bind_eq_ok h
 obtain ⟨final,hfinal,h⟩:=bind_eq_ok h
 obtain ⟨_,hinv,h⟩:=bind_eq_ok h
 obtain ⟨changedPaths,hchanged,h⟩:=bind_eq_ok h
 obtain ⟨treeDigest,hdigest,h⟩:=bind_eq_ok h
 obtain ⟨normalizedDigest,-,h⟩:=bind_eq_ok h
 cases h
 exact ⟨base,final,builtFrom_of_ok hbase,hchain,appliedAll_of_ok hfinal,hinv,
  hchanged,rfl,hdigest⟩

def entryAt (entries:List CandidateEntry) (path:JsString) : Option CandidateEntry :=
 entries.find? (·.path=path)

def baselineEntries (baseline:ChangeSetBaseline) : List CandidateEntry :=
 baseline.entries.map (·.toCandidateEntry)

lemma entryAt_eq_some_iff {entries:List CandidateEntry} (h:(entries.map (·.path)).Nodup)
  {entry:CandidateEntry} :
  entryAt entries path=some entry ↔ entry∈entries ∧ entry.path=path := by
 constructor
 · intro hfind
   exact ⟨mem_of_find?_eq_some hfind,by simpa using find?_some hfind⟩
 · intro ⟨hmem,hpath⟩
   have hexists:(entryAt entries path).isSome := by
    rw [entryAt,find?_isSome]
    exact ⟨entry,hmem,decide_eq_true hpath⟩
   obtain ⟨found,hfound⟩:=Option.isSome_iff_exists.mp hexists
   have hfoundPath:found.path=path := by simpa using find?_some hfound
   rw [hfound,inj_on_of_nodup_map h (mem_of_find?_eq_some hfound) hmem
    (hfoundPath.trans hpath.symm)]

lemma entryAt_of_perm {entries:List CandidateEntry}
  (h:entries.Perm (tree.nodes.map (·.toCandidateEntry))) (path:JsString) :
  entryAt entries path=(tree.get path).map (·.toCandidateEntry) := by
 have hdist:(entries.map (·.path)).Nodup := by
  rw [(h.map _).nodup_iff,map_map]
  exact tree.distinct
 apply Option.ext
 intro entry
 rw [entryAt_eq_some_iff hdist,h.mem_iff,mem_map,Option.map_eq_some_iff]
 constructor
 · rintro ⟨⟨node,hnode,rfl⟩,hpath⟩
   exact ⟨node,by rw [← hpath]; exact EphemeralTree.get_of_mem hnode,rfl⟩
 · rintro ⟨node,hnode,rfl⟩
   exact ⟨⟨node,EphemeralTree.mem_of_get hnode,rfl⟩,EphemeralTree.path_of_get hnode⟩

variable {changeSet:ChangeSet} {baseline:ChangeSetBaseline} {result:AppliedCandidateTree}
 {base final:EphemeralTree}

variable (h:Accepted services changeSet baseline result base final)
include h

lemma Accepted.perm_entries : result.entries.Perm (final.nodes.map (·.toCandidateEntry)) := by
 rw [h.entries]
 exact perm_insertionSort _ _

lemma Accepted.entryAt_result (path:JsString) :
  entryAt result.entries path=(final.get path).map (·.toCandidateEntry) :=
 entryAt_of_perm h.perm_entries path

lemma Accepted.entryAt_baseline (path:JsString) :
  entryAt (baselineEntries baseline) path=(base.get path).map (·.toCandidateEntry) := by
 apply entryAt_of_perm
 rw [baselineEntries,← h.built.nodes]

lemma Accepted.exists_node {entry:CandidateEntry} (hentry:entry∈result.entries) :
  ∃node∈final.nodes,node.toCandidateEntry=entry :=
 mem_map.mp (h.perm_entries.mem_iff.mp hentry)

lemma Accepted.mem_entries (hnode:node∈final.nodes) :
  node.toCandidateEntry∈result.entries :=
 h.perm_entries.mem_iff.mpr (mem_map_of_mem hnode)

end Acceptance

end EpistemicCompiler.ChangeSetEffects
