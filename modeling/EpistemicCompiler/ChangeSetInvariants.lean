import EpistemicCompiler.ChangeSetEffects

set_option autoImplicit false

/-!
# The tree that a change set leaves

The checks of `assertInvariants`, taken together, make the tree a tree: parents are directories,
nothing lies below a symbolic link and siblings have names of their own.
-/
namespace EpistemicCompiler.ChangeSetInvariants
open JsValues RelativePaths ChangeSetTree ChangeSets ChangeSetEffects FallibleRuns LocalUpdates
 List

variable {services:Services} {tree base final:EphemeralTree}

variable {path:JsString} {node:TreeNode}

def extend (dir:JsString) (names:List JsString) : JsString :=
 if dir.length=0 then [slash].intercalate names else dir++slash::[slash].intercalate names

lemma intercalate_cons_cons (name next:JsString) (names:List JsString) :
  [slash].intercalate (name::next::names) =
   name++slash::[slash].intercalate (next::names) := by
 simp [intercalate]

lemma extend_singleton (dir name:JsString) :
  extend dir [name]=if dir.length=0 then name else dir++slash::name := by
 simp [extend,intercalate]

lemma extend_cons (dir:JsString) {name next:JsString} (hname:name≠[])
  (names:List JsString) :
  extend dir (name::next::names)=extend (extend dir [name]) (next::names) := by
 have hlen:(extend dir [name]).length≠0 := by
  rw [extend_singleton]
  split_ifs
  · exact fun h=>hname (length_eq_zero_iff.mp h)
  · simp
 rw [extend.eq_def (extend dir [name]),if_neg hlen,extend_singleton,extend,
  intercalate_cons_cons]
 split_ifs <;> simp

lemma mem_passedPaths {names rest:List JsString} (hnames:names≠[])
  (hnon:∀name∈names,name≠[]) (hrest:rest≠[]) (dir:JsString) :
  extend dir names∈EphemeralTree.passedPaths dir (names++rest) := by
 induction names generalizing dir with
 | nil => exact absurd rfl hnames
 | cons name names ih =>
   cases names with
   | nil =>
     obtain ⟨next,rest,rfl⟩:=exists_cons_of_ne_nil hrest
     rw [extend_singleton]
     exact mem_cons_self
   | cons next names =>
     rw [extend_cons dir (hnon name mem_cons_self)]
     refine mem_cons_of_mem _ ?_
     have hpass:(if dir.length=0 then name else dir++slash::name)=extend dir [name] :=
      (extend_singleton dir name).symm
     rw [hpass]
     exact ih (by simp) (fun n hn=>hnon n (mem_cons_of_mem name hn)) _

lemma not_symlink_of_rejectSymlinkAlias {dir rest:JsString}
  (hparts:∀segment∈segments (dir++slash::rest),segment≠[])
  (h:tree.rejectSymlinkAlias (dir++slash::rest)=.ok ()) (hnode:tree.get dir=some node) :
  node.content.entryType≠.symlink := by
 have hmem:dir∈EphemeralTree.passedPaths [] (segments (dir++slash::rest)) := by
  rw [segments_join] at hparts ⊢
  have := mem_passedPaths (segments_ne_nil dir)
   (fun name hname=>hparts name (mem_append_left _ hname)) (segments_ne_nil rest) []
  rwa [extend,if_pos length_nil,intercalate_segments] at this
 have hcheck:=forM_ok h dir hmem
 obtain ⟨⟨path,content⟩,metadata⟩:=node
 rw [hnode] at hcheck
 intro htype
 cases content with
 | symlink target digest => cases hcheck
 | file gitMode bytes digest | directory | submodule id => cases htype

structure Sound (services:Services) (tree:EphemeralTree) : Prop where
 safe : ∀node∈tree.nodes,classifyRelativePath services.unicode node.path true=none
 noAlias : ∀node∈tree.nodes,tree.rejectSymlinkAlias node.path=.ok ()
 parent : ∀node∈tree.nodes,tree.requireParentDirectory node.path=.ok ()
 target : ∀node∈tree.nodes,EphemeralTree.assertTarget services node=.ok ()
 foldKey : ∀node∈tree.nodes,∀other∈tree.nodes,
  tree.foldKey services node=tree.foldKey services other → node.path=other.path

lemma noteFoldKey_ok {foldKeys foldKeys':List (JsString×JsString)}
  (h:tree.noteFoldKey services foldKeys node=.ok foldKeys') :
  (∀key path,foldKeys.lookup key=some path → foldKeys'.lookup key=some path) ∧
   foldKeys'.lookup (tree.foldKey services node)=some node.path := by
 simp only [EphemeralTree.noteFoldKey] at h
 split at h
 · cases h
 rename_i hnone
 cases h
 refine ⟨fun key path hkey=>?_, by simp⟩
 by_cases heq : key=tree.foldKey services node
 · rw [heq] at hkey ⊢
   rw [hkey,Option.filter_eq_none_iff] at hnone
   have hpath:path=node.path := by simpa using hnone path rfl
   simp [hpath]
 · rw [lookup_cons,beq_eq_false_iff_ne.mpr heq]
   exact hkey

lemma checkNode_ok {seen seen':EphemeralTree.SeenNodes}
  (h:tree.checkNode services seen node=.ok seen') :
  (classifyRelativePath services.unicode node.path true=none ∧
   tree.rejectSymlinkAlias node.path=.ok () ∧ tree.requireParentDirectory node.path=.ok () ∧
   EphemeralTree.assertTarget services node=.ok ()) ∧
  (∀key path,seen.foldKeys.lookup key=some path → seen'.foldKeys.lookup key=some path) ∧
  seen'.foldKeys.lookup (tree.foldKey services node)=some node.path := by
 obtain ⟨_,hsafe,h⟩:=bind_eq_ok h
 obtain ⟨_,halias,h⟩:=bind_eq_ok h
 obtain ⟨_,hparent,h⟩:=bind_eq_ok h
 obtain ⟨_,htarget,h⟩:=bind_eq_ok h
 obtain ⟨identities,-,h⟩:=bind_eq_ok h
 obtain ⟨foldKeys,hfold,h⟩:=bind_eq_ok h
 obtain ⟨_,-,h⟩:=bind_eq_ok h
 cases h
 exact ⟨⟨classify_of_assertSafePath hsafe,halias,hparent,htarget⟩,noteFoldKey_ok hfold⟩

lemma checkNodes_ok {seen seen':EphemeralTree.SeenNodes} {nodes:List TreeNode}
  (h:nodes.foldlM (tree.checkNode services) seen=.ok seen') :
  (∀node∈nodes,classifyRelativePath services.unicode node.path true=none ∧
   tree.rejectSymlinkAlias node.path=.ok () ∧ tree.requireParentDirectory node.path=.ok () ∧
   EphemeralTree.assertTarget services node=.ok ()) ∧
  (∀key path,seen.foldKeys.lookup key=some path → seen'.foldKeys.lookup key=some path) ∧
  ∀node∈nodes,seen'.foldKeys.lookup (tree.foldKey services node)=some node.path := by
 induction nodes generalizing seen with
 | nil =>
   cases h
   exact ⟨fun _ hmem=>(by cases hmem), fun _ _ hkey=>hkey, fun _ hmem=>(by cases hmem)⟩
 | cons node nodes ih =>
   obtain ⟨mid,hfirst,hrest⟩:=bind_eq_ok h
   obtain ⟨hcheck,hkept,hnoted⟩:=checkNode_ok hfirst
   obtain ⟨hcheck',hkept',hnoted'⟩:=ih hrest
   exact ⟨forall_mem_cons.mpr ⟨hcheck,hcheck'⟩,
    fun key path hkey=>hkept' key path (hkept key path hkey),
    forall_mem_cons.mpr ⟨hkept' _ _ hnoted,hnoted'⟩⟩

lemma sound_of_assertInvariants (h:tree.assertInvariants services=.ok ()) :
  Sound services tree := by
 obtain ⟨seen,hnodes,-⟩:=bind_eq_ok h
 obtain ⟨hcheck,-,hnoted⟩:=checkNodes_ok hnodes
 refine ⟨fun n hn=>(hcheck n hn).1, fun n hn=>(hcheck n hn).2.1,
  fun n hn=>(hcheck n hn).2.2.1, fun n hn=>(hcheck n hn).2.2.2, ?_⟩
 intro node hnode other hother hkey
 have hsame:=hnoted node hnode
 rw [hkey,hnoted other hother] at hsame
 exact (Option.some.inj hsame).symm

lemma Sound.parent_directory (h:Sound services tree) (hnode:node∈tree.nodes)
  {parent:JsString} (hparent:parentPath node.path=some parent) :
  ∃dir∈tree.nodes,dir.path=parent ∧ dir.content=.directory := by
 have hcheck:=h.parent node hnode
 simp only [EphemeralTree.requireParentDirectory,hparent] at hcheck
 split at hcheck
 · rename_i path metadata hget
   exact ⟨_,EphemeralTree.mem_of_get hget,EphemeralTree.path_of_get hget,rfl⟩
 · cases hcheck

lemma Sound.not_below_symlink (h:Sound services tree) {link:TreeNode}
  (hnode:node∈tree.nodes) (hlink:link∈tree.nodes)
  (htype:link.content.entryType=.symlink) (rest:JsString) :
  node.path≠link.path++slash::rest := by
 intro hpath
 have hsafe:=fun segment hpart=>
  (classifySegment_none ((SafePath.of_classify (h.safe node hnode)).segments segment hpart)).1
 have halias:=h.noAlias node hnode
 rw [hpath] at hsafe halias
 exact not_symlink_of_rejectSymlinkAlias hsafe halias (EphemeralTree.get_of_mem hlink) htype

lemma Sound.not_namesCollide (h:Sound services tree) {other:TreeNode}
  (hnode:node∈tree.nodes) (hother:other∈tree.nodes)
  (hparent:parentPath node.path=parentPath other.path) :
  namesCollide services.unicode (basename node.path) (basename other.path) tree.caseSensitive =
   false := by
 have hnorm:∀n∈tree.nodes,
   services.unicode.normalize (basename n.path)=basename n.path := fun n hn=>
  (SafePath.of_classify (h.safe n hn)).normal_segment (basename_mem_segments n.path)
 unfold namesCollide
 by_cases hsame : basename node.path=basename other.path
 · rw [if_pos hsame]
 rw [if_neg hsame,if_neg (by rwa [hnorm node hnode,hnorm other hother])]
 -- Equal folded names would be one key, and so one path.
 by_contra hfold
 simp only [Bool.not_eq_false,Bool.and_eq_true,Bool.not_eq_true', decide_eq_true_eq] at hfold
 have hkey:tree.foldKey services node=tree.foldKey services other := by
  simp [EphemeralTree.foldKey,hparent,hfold.1,hfold.2]
 exact hsame (congrArg basename (h.foldKey node hnode other hother hkey))

def Digested (services:Services) (node:TreeNode) : Prop :=
 ∀gitMode bytes digest,node.content=.file gitMode bytes digest →
   digest=services.sha256Hex bytes

lemma digested_rewrite {operation:ChangeOperation} {node:Option TreeNode} {node':TreeNode}
  (hnode:∀n,node=some n → Digested services n)
  (h:rewrite services operation node=some node') : Digested services node' := by
 intro gitMode bytes digest hcontent
 unfold rewrite at h
 split at h
 · split at h <;> cases h
   cases hcontent
   rfl
 · cases h
   cases hcontent
   rfl
 · cases h
   cases hcontent
 · cases h
   cases hcontent
   rfl
 · cases h
   cases hcontent
   exact hnode _ rfl _ _ _ rfl
 · cases h
   cases hcontent
 · cases h

lemma run_invariant {P:TreeNode → Prop}
  (hrewrite:∀operation node node',(∀n,node=some n → P n) →
   rewrite services operation node=some node' → P node')
  (hrelocate:∀node path,P node → P (relocate node path)) {operations:List ChangeOperation}
  {look:Lookup} (h:∀path node,look path=some node → P node) :
  ∀path node,run (effect services) operations look path=some node → P node := by
 induction operations generalizing look with
 | nil => exact h
 | cons operation operations ih =>
   refine ih fun path node hnode=>?_
   rcases effect_cases services hnode with hkept | hrewritten | ⟨origin,source,hsrc,rfl⟩
   · exact h path node hkept
   · exact hrewrite operation (look path) node (h path) hrewritten
   · exact hrelocate source path (h origin source hsrc)

def NoCollision (services:Services) (before after:List CandidateEntry) : Prop :=
 ∀path gitMode bytes digest gitMode' bytes' digest',
   entryAt before path=some ⟨path,.file gitMode bytes digest⟩ →
   entryAt after path=some ⟨path,.file gitMode' bytes' digest'⟩ →
   services.sha256Hex bytes=services.sha256Hex bytes' → bytes=bytes'

lemma snapshotFingerprint_eq_iff {other:TreeNode} (hpath:node.path=other.path)
  (hnode:Digested services node) (hother:Digested services other)
  (hcollision:∀gitMode bytes digest gitMode' bytes' digest',
   node.content=.file gitMode bytes digest → other.content=.file gitMode' bytes' digest' →
   services.sha256Hex bytes=services.sha256Hex bytes' → bytes=bytes') :
  snapshotFingerprint node=snapshotFingerprint other ↔
   node.toCandidateEntry=other.toCandidateEntry := by
 obtain ⟨⟨path,content⟩,metadata⟩:=node
 obtain ⟨⟨path',content'⟩,metadata'⟩:=other
 cases hpath
 constructor
 · intro heq
   cases content with
   | file gitMode bytes digest =>
     cases content' with
     | file gitMode' bytes' digest' =>
       obtain ⟨-,rfl,rfl⟩:=heq
       have hbytes:=hcollision _ _ _ _ _ _ rfl rfl
        ((hnode _ _ _ rfl).symm.trans (hother _ _ _ rfl))
       rw [hbytes]
     | directory | symlink target digest | submodule id => cases heq
   | directory =>
     cases content' with
     | directory => rfl
     | file gitMode' bytes' digest' | symlink target digest | submodule id => cases heq
   | symlink target digest =>
     cases content' with
     | symlink target' digest' =>
       cases heq
       rfl
     | file gitMode' bytes' digest' | directory | submodule id => cases heq
   | submodule id =>
     cases content' with
     | submodule id' =>
       cases heq
       rfl
     | file gitMode' bytes' digest' | directory | symlink target digest => cases heq
 · intro heq
   cases heq
   rfl

lemma lookup_fingerprints :
  (fingerprints tree).lookup path=(tree.get path).map snapshotFingerprint := by
 rw [fingerprints,EphemeralTree.get]
 induction tree.nodes with
 | nil => rfl
 | cons node nodes ih =>
   rw [map_cons,lookup_cons,find?_cons]
   by_cases h : node.path=path
   · simp [h]
   · rw [beq_eq_false_iff_ne.mpr (Ne.symm h),decide_eq_false h]
     exact ih

lemma keys_fingerprints :
  (fingerprints tree).map (·.1)=tree.nodes.map (·.path) := by
 rw [fingerprints,map_map]
 rfl

lemma mem_keys_iff :
  path∈tree.nodes.map (·.path) ↔ (tree.get path).isSome := by
 rw [EphemeralTree.get,find?_isSome,mem_map]
 simp

lemma nodup_bothKeys : (bothKeys (fingerprints base) (fingerprints final)).Nodup := by
 rw [bothKeys,keys_fingerprints,keys_fingerprints]
 refine List.Nodup.append base.distinct (final.distinct.filter _) ?_
 intro path hbase hfinal
 have hnone:=(mem_filter.mp hfinal).2
 rw [lookup_fingerprints] at hnone
 have hsome:=mem_keys_iff.mp hbase
 cases hget : base.get path with
 | none => simp [hget] at hsome
 | some node => simp [hget] at hnone

def pathLt (left right:JsString) : Prop := pathLe left right ∧ left≠right

lemma pairwise_insertionSort_pathLt {paths:List JsString} (h:paths.Nodup) :
  (paths.insertionSort pathLe).Pairwise pathLt := by
 have : Std.Total pathLe:=⟨fun a b=>by
  simpa [pathLe,Bool.or_eq_true] using unitsLe_total a b⟩
 have : IsTrans JsString pathLe:=⟨fun a b c=>unitsLe_trans a b c⟩
 have hsort:=pairwise_insertionSort pathLe paths
 have hnodup:(paths.insertionSort pathLe).Nodup :=
  (perm_insertionSort pathLe paths).nodup_iff.mpr h
 exact hsort.and hnodup

lemma assertDeclaredMutations_ok {declared changedPaths:List JsString}
  (h:assertDeclaredMutations (fingerprints base) (fingerprints final) declared =
   .ok changedPaths) :
  changedPaths.Pairwise pathLt ∧
  (∀path,path∈changedPaths ↔
   (base.get path).map snapshotFingerprint≠(final.get path).map snapshotFingerprint) ∧
  ∀path∈changedPaths,path∈declared := by
 obtain ⟨_,hdecl,h⟩:=bind_eq_ok h
 cases h
 refine ⟨pairwise_insertionSort_pathLt (nodup_bothKeys.filter _),fun path=>?_, ?_⟩
 · rw [mem_insertionSort,mem_filter,lookup_fingerprints,lookup_fingerprints,bothKeys,mem_append,
    mem_filter,keys_fingerprints,keys_fingerprints,mem_keys_iff,mem_keys_iff,lookup_fingerprints]
   cases hbase : base.get path <;> cases hfinal : final.get path <;> simp
 · intro path hpath
   have hcheck:=forM_ok hdecl path ((mem_insertionSort _).mp hpath)
   by_contra hmiss
   rw [if_neg hmiss] at hcheck
   cases hcheck

section

variable {changeSet:ChangeSet} {baseline:ChangeSetBaseline} {result:AppliedCandidateTree}

section

variable (h:Accepted services changeSet baseline result base final)
include h

lemma digested_base : ∀path node,base.get path=some node → Digested services node := by
 intro path node hnode
 have hmem:=EphemeralTree.mem_of_get hnode
 rw [h.built.nodes] at hmem
 have hread:=h.built.digests node hmem
 intro gitMode bytes digest hcontent
 simp only [fromBaseline,hcontent] at hread
 split_ifs at hread with hdigest
 · cases hread
 · exact (not_not.mp hdigest).symm

lemma digested_final : ∀path node,final.get path=some node → Digested services node := by
 rw [h.applied.get]
 exact run_invariant (fun _ _ _=>digested_rewrite) (fun _ _ hnode=>hnode) (digested_base h)

lemma fingerprint_ne_iff
  (hcollision:NoCollision services (baselineEntries baseline) result.entries) (path:JsString) :
  (base.get path).map snapshotFingerprint≠(final.get path).map snapshotFingerprint ↔
   entryAt result.entries path≠entryAt (baselineEntries baseline) path := by
 rw [ne_comm,not_iff_not,h.entryAt_result,h.entryAt_baseline]
 cases hbase : base.get path with
 | none => cases hfinal : final.get path <;> simp
 | some node =>
   cases hfinal : final.get path with
   | none => simp
   | some other =>
     have hpath:=EphemeralTree.path_of_get hbase
     have hpath':=EphemeralTree.path_of_get hfinal
     have hentry:∀n : TreeNode,n.path=path → some n.toCandidateEntry =
       some ⟨path,n.content⟩ := by
      intro n hn
      rw [← hn]
     have hiff:=snapshotFingerprint_eq_iff (hpath.trans hpath'.symm)
      (digested_base h path node hbase) (digested_final h path other hfinal) (by
       intro gitMode bytes digest gitMode' bytes' digest' hcontent hcontent'
       apply hcollision path gitMode bytes digest gitMode' bytes' digest'
       · rw [h.entryAt_baseline,hbase,Option.map_some,hentry node hpath,hcontent]
       · rw [h.entryAt_result,hfinal,Option.map_some,hentry other hpath',hcontent'])
     rw [Option.map_some,Option.map_some,Option.map_some,Option.map_some,Option.some_inj,
      Option.some_inj,eq_comm,hiff,eq_comm]

lemma get_of_protected {segment:JsString} (hpart:segment∈segments path)
  (hgit:isProtectedGitSegment services.unicode segment=true) :
  final.get path=base.get path := by
 rw [h.applied.get]
 refine (isLocal_effect services).run_frame (fun operation hoperation hpath=>?_) base.get
 have hsafe:=SafePath.of_classify (h.applied.safe operation hoperation path hpath)
 have hfree:=(classifySegment_none (hsafe.segments segment hpart)).2.2.2 rfl
 rw [hgit] at hfree
 cases hfree

end

/-- The tree of every accepted change set: parents are directories, nothing passes through a link,
siblings do not collide, `.git` is as it was, and the changed paths are those with another entry. -/
theorem accepted_tree_invariant (services:Services) (changeSet:ChangeSet)
  (baseline:ChangeSetBaseline) (result:AppliedCandidateTree)
  (haccepted:validateAndApplyChangeSet services changeSet baseline=.ok result)
  (hcollision:NoCollision services (baselineEntries baseline) result.entries) :
  (∀entry∈result.entries,∀parent,parentPath entry.path=some parent →
   ∃dir∈result.entries,dir.path=parent ∧ dir.content=.directory) ∧
  (∀entry∈result.entries,∀link∈result.entries,link.content.entryType=.symlink →
   ∀rest,entry.path≠link.path++slash::rest) ∧
  (∀entry∈result.entries,∀other∈result.entries,
   parentPath entry.path=parentPath other.path →
   namesCollide services.unicode (basename entry.path) (basename other.path)
    baseline.caseSensitive=false) ∧
  (∀path,(∃segment∈segments path,isProtectedGitSegment services.unicode segment=true ∨
    segment.map lowerUnit=js ".git") →
   entryAt result.entries path=entryAt (baselineEntries baseline) path) ∧
  result.changedPaths.Pairwise pathLt ∧
  (∀path,path∈result.changedPaths ↔
   entryAt result.entries path≠entryAt (baselineEntries baseline) path) ∧
  ∀path∈result.changedPaths,path∈declaredPaths changeSet.operations := by
 obtain ⟨base,final,h⟩:=accepted_of_ok haccepted
 have hsound:=sound_of_assertInvariants h.invariants
 have hcase:final.caseSensitive=baseline.caseSensitive :=
  h.applied.caseSensitive.trans h.built.caseSensitive
 obtain ⟨hsorted,hchanged,hdeclared⟩:=assertDeclaredMutations_ok h.changed
 refine ⟨?_,?_,?_,?_,hsorted,?_,hdeclared⟩
 · intro entry hentry parent hparent
   obtain ⟨node,hnode,rfl⟩:=h.exists_node hentry
   obtain ⟨dir,hdir,hpath,hcontent⟩:=hsound.parent_directory hnode hparent
   exact ⟨dir.toCandidateEntry,h.mem_entries hdir,hpath,hcontent⟩
 · intro entry hentry link hlink htype rest
   obtain ⟨node,hnode,rfl⟩:=h.exists_node hentry
   obtain ⟨linkNode,hlinkNode,rfl⟩:=h.exists_node hlink
   exact hsound.not_below_symlink hnode hlinkNode htype rest
 · intro entry hentry other hother hparent
   obtain ⟨node,hnode,rfl⟩:=h.exists_node hentry
   obtain ⟨otherNode,hotherNode,rfl⟩:=h.exists_node hother
   rw [← hcase]
   exact hsound.not_namesCollide hnode hotherNode hparent
 · intro path ⟨segment,hsegment,hgit⟩
   have hprotected:=hgit.elim id isProtectedGitSegment_of_lower
   rw [h.entryAt_result,h.entryAt_baseline,get_of_protected h hsegment hprotected]
 · intro path
   rw [hchanged,fingerprint_ne_iff h hcollision]

/-- The hash tells contents of different lengths apart, and a patch adds a byte. -/
def patchServices : Services :=
 { sampleServices with
   sha256Hex:=fun bytes=>js "sha256:"++replicate 64 (0x30+UInt16.ofNat bytes.length)
   applyUnifiedDiff:=fun bytes _=>.ok (bytes++[0x78]) }

def sampleFile (path:String) (bytes:List UInt8) : BaselineEntry :=
 ⟨⟨js path,.file .regular bytes (patchServices.sha256Hex bytes)⟩,none⟩

def patchBaseline : ChangeSetBaseline :=
 sampleBaseline [sampleDirectory ".git",sampleFile "kept" [],sampleFile "patched" []]

def patchChangeSet : ChangeSet :=
 sampleChangeSet [.textPatch (js "patched") (patchServices.sha256Hex [])
  (patchServices.sha256Hex [0x78]) (js "d") .lf .absent]

def fileBytes : EntryContent → Option (List UInt8)
 | .file _ bytes _ => some bytes
 | _ => none

theorem accepted_tree_invariant_sample :
  ∃result,validateAndApplyChangeSet patchServices patchChangeSet patchBaseline=.ok result ∧
    NoCollision patchServices (baselineEntries patchBaseline) result.entries ∧
    result.changedPaths=[js "patched"] ∧
    entryAt result.entries (js "patched")≠entryAt (baselineEntries patchBaseline) (js "patched") ∧
    entryAt result.entries (js "kept")=entryAt (baselineEntries patchBaseline) (js "kept") := by
 have hrun:(validateAndApplyChangeSet patchServices patchChangeSet patchBaseline).toOption.any
   (fun result=>result.changedPaths=[js "patched"] ∧ ∀before∈baselineEntries patchBaseline,
    ∀after∈result.entries,before.path=after.path → ∀bytes∈fileBytes before.content,
     ∀bytes'∈fileBytes after.content,
      patchServices.sha256Hex bytes=patchServices.sha256Hex bytes' → bytes=bytes')=true := by
  decide +kernel
 obtain ⟨result,hresult,hrun⟩:=exists_ok_of_any hrun
 obtain ⟨hchanged,hapart⟩:=of_decide_eq_true hrun
 have hcollision:NoCollision patchServices (baselineEntries patchBaseline) result.entries := by
  intro path gitMode bytes digest gitMode' bytes' digest' hbefore hafter
  exact hapart _ (mem_of_find?_eq_some hbefore) _ (mem_of_find?_eq_some hafter) rfl bytes rfl
   bytes' rfl
 obtain ⟨-,-,-,-,-,hiff,-⟩:=accepted_tree_invariant _ _ _ _ hresult hcollision
 simp only [hchanged,mem_singleton] at hiff
 exact ⟨result,hresult,hcollision,hchanged,(hiff _).mp rfl,
  not_ne_iff.mp (mt (hiff _).mpr (by decide))⟩

end

end EpistemicCompiler.ChangeSetInvariants
