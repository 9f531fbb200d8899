import EpistemicCompiler.ChangeSetInvariants

set_option autoImplicit false

/-!
# One operation on the tree

An operation reads and checks before it writes, and what it writes after its first write cannot
fail, unless it moves a file onto itself. It writes only to the paths that it declares.
-/
namespace EpistemicCompiler.ChangeSetLocality
open JsValues RelativePaths ChangeSetTree ChangeSets ChangeSetEffects ChangeSetInvariants
open FallibleRuns LocalUpdates Function List

variable {α β:Type} {services:Services} {operation:ChangeOperation} {path:JsString}
 {tree:EphemeralTree}

def Careful (x:TreeM α) (tree:EphemeralTree) : Prop :=
 ∀error tree',x tree=.error error tree' → tree'=tree

lemma careful_ok {x:TreeM α} {a:α} {tree':EphemeralTree} (h:x tree=.ok a tree') :
  Careful x tree := by
 intro error failed herror
 rw [h] at herror
 cases herror

lemma careful_examine {check:EphemeralTree → Except ChangeSetError α} {f:α → TreeM β}
  (h:∀a,check tree=.ok a → Careful (f a) tree) : Careful (examine check >>= f) tree := by
 cases hcheck : check tree with
 | ok a => simpa [Careful,bind,EStateM.bind,examine,hcheck] using h a hcheck
 | error error => simp [Careful,bind,EStateM.bind,examine,hcheck]

lemma careful_get {f:EphemeralTree → TreeM β} (h:Careful (f tree) tree) :
  Careful (get >>= f) tree := h

lemma careful_throw {error:ChangeSetError} : Careful (throw error:TreeM α) tree := by
 intro failed tree' herror
 cases herror
 rfl

lemma careful_delete {f:TreeNode → TreeM β}
  (h:∀node,∃b tree',f node (tree.erase path)=.ok b tree') :
  Careful (deletePath path >>= f) tree := by
 rw [deletePath,bind_assoc]
 refine careful_examine fun node _=>?_
 obtain ⟨b,tree',hok⟩:=h node
 exact careful_ok hok

lemma deletePath_ok {f:TreeNode → TreeM β} {node:TreeNode} (h:tree.get path=some node) :
  (deletePath path >>= f) tree=f node (tree.erase path) := by
 simp [deletePath,bind,EStateM.bind,examine,EphemeralTree.requireExisting,h]
 rfl

lemma careful_operation
  (hmove:∀path before expected,operation≠.move path path before (some expected)) :
  Careful (applyOperation services operation) tree := by
 cases operation with
 | textPatch | setGitMode =>
   iterate 3 refine careful_examine fun _ _=>?_
   split
   · iterate 3 refine careful_examine fun _ _=>?_
     exact careful_ok rfl
   · exact careful_throw
 | createText =>
   iterate 6 refine careful_examine fun _ _=>?_
   exact careful_ok rfl
 | createDirectory =>
   iterate 4 refine careful_examine fun _ _=>?_
   exact careful_ok rfl
 | writeBinary path before =>
   iterate 4 refine careful_examine fun _ _=>?_
   cases before with
   | none =>
     iterate 2 refine careful_examine fun _ _=>?_
     exact careful_ok rfl
   | some expected =>
     iterate 4 refine careful_examine fun _ _=>?_
     exact careful_ok rfl
 | delete =>
   iterate 5 refine careful_examine fun _ _=>?_
   exact careful_delete fun _=>⟨_,_,rfl⟩
 | deleteDirectory =>
   iterate 4 refine careful_examine fun _ _=>?_
   refine careful_get ?_
   iterate 3 refine careful_examine fun _ _=>?_
   exact careful_delete fun _=>⟨_,_,rfl⟩
 | symlink path target before =>
   iterate 5 refine careful_examine fun _ _=>?_
   refine careful_get ?_
   cases before with
   | none => exact careful_examine fun _ _=>careful_ok rfl
   | some expected =>
     iterate 3 refine careful_examine fun _ _=>?_
     exact careful_delete fun _=>⟨_,_,rfl⟩
 | move fromPath toPath before destination =>
   refine careful_examine fun _ _=>careful_examine fun _ _=>careful_examine fun _ _=>
    careful_examine fun _ _=>careful_examine fun source hsource=>careful_examine fun _ _=>
     careful_examine fun _ _=>careful_examine fun _ _=>careful_get <|
      careful_examine fun _ hchecked=>?_
   have hget:=requireExisting_ok hsource
   split_ifs with hrename
   · refine careful_examine fun temp _=>careful_delete fun _=>?_
     have hset:((tree.erase fromPath).set (relocate source temp)).get temp =
       some (relocate source temp) := by
      rw [get_set_eq]
      exact update_self ..
     exact ⟨_,_,(deletePath_ok hset).trans rfl⟩
   · cases hfound : tree.get toPath with
     | none => exact careful_delete fun _=>⟨_,_,rfl⟩
     | some found =>
       have hne:fromPath≠toPath := by
        rintro rfl
        cases destination with
        | none => simp [checkDestination,hfound,hrename,fail] at hchecked
        | some expected => exact hmove _ _ _ rfl
       have hleft:(tree.erase toPath).get fromPath=some source := by
        rw [get_erase_eq,update_of_ne hne,hget]
       simp only [discardWhen,Option.isSome_some,if_true,bind_assoc]
       exact careful_delete fun _=>⟨_,_,(deletePath_ok hleft).trans rfl⟩

lemma declared_of_run {operations:List ChangeOperation} {tree':EphemeralTree}
  (h:runOperations services operations tree=.ok tree') : ∃changed,assertDeclaredMutations
   (fingerprints tree) (fingerprints tree') (declaredPaths operations)=.ok changed := by
 have hget:=(appliedAll_of_ok h).get
 suffices hall:∀path∈(bothKeys (fingerprints tree) (fingerprints tree')).filter
   (fun path=>(fingerprints tree).lookup path≠(fingerprints tree').lookup path),
   path∈declaredPaths operations by
  refine ⟨_,(congrArg (· >>= _) (forM_ok_iff.mpr fun path hpath=>?_)).trans rfl⟩
  exact if_pos (hall path hpath)
 intro path hpath
 by_contra hfree
 have hne:=of_decide_eq_true (mem_filter.mp hpath).2
 rw [lookup_fingerprints,lookup_fingerprints,hget] at hne
 refine hne (congrArg _ ((isLocal_effect services).run_frame (fun operation hmem hown=>?_) _).symm)
 exact hfree (mem_flatMap.mpr ⟨operation,hmem,hown⟩)

theorem operation_all_or_nothing (services:Services) (operation:ChangeOperation)
  (tree:EphemeralTree) :
  ((∀path before expected,operation≠.move path path before (some expected)) →
   ∀error tree',applyOperation services operation tree=.error error tree' → tree'=tree) ∧
  (∀tree',applyOperation services operation tree=.ok () tree' →
   ∀path,path ∉ operationPaths operation → tree'.get path=tree.get path) ∧
  ∀operations tree',runOperations services operations tree=.ok tree' → ∃changed,
   assertDeclaredMutations (fingerprints tree) (fingerprints tree') (declaredPaths operations) =
    .ok changed := by
 refine ⟨careful_operation,fun tree' h path hpath=>?_,fun operations tree'=>declared_of_run⟩
 rw [(applied_of_ok h).get]
 exact (isLocal_effect services).frame operation tree.get path hpath

def sampleTree : EphemeralTree :=
 ⟨true,[⟨⟨js "a",.file .regular [] sampleDigest⟩,none⟩],by decide⟩

/-- A file moved to itself with its own digest as the one to be replaced is lost. -/
theorem move_to_itself_deletes : ∃error,applyOperation sampleServices
   (.move (js "a") (js "a") sampleDigest (some sampleDigest)) sampleTree =
    .error error (sampleTree.erase (js "a")) ∧
  (sampleTree.get (js "a")).isSome ∧ (sampleTree.erase (js "a")).get (js "a")=none :=
 ⟨_,rfl,by decide,by decide⟩

theorem operation_all_or_nothing_sample : ∃tree',
  runOperations sampleServices [.createDirectory (js "b")] sampleTree=.ok tree' ∧
   ∃changed,assertDeclaredMutations (fingerprints sampleTree) (fingerprints tree') [js "b"] =
    .ok changed :=
 ⟨_,rfl,(operation_all_or_nothing sampleServices (.createDirectory (js "b")) sampleTree).2.2
  [.createDirectory (js "b")] _ rfl⟩

end EpistemicCompiler.ChangeSetLocality
