import EpistemicCompiler.ChangeSetInvariants

set_option autoImplicit false

/-!
# The order of operations

The chain rules fix the order of the operations on each path, and operations on different paths
commute. So two accepted orders of the same operations lead to the same tree.
-/
namespace EpistemicCompiler.ChangeSetOrder
open JsValues RelativePaths ChangeSetTree ChangeSets ChangeSetEffects ChangeSetInvariants List
 Option Bool
open FallibleRuns LocalUpdates

section

variable {unicode:Unicode} {caseSensitive:Bool}

variable {operations:List ChangeOperation} (kinds:KindsByPath) (path:JsString)

def kindsOf : List OperationKind :=
 (kinds.lookup path).getD []

def kindsAt (operations:List ChangeOperation) : List OperationKind :=
 (operations.filter (path∈operationPaths ·)).map kind

lemma lookup_map_push (other:JsString) (pushed:OperationKind) :
  (kinds.map fun entry=>
    if entry.1=path then (entry.1,entry.2++[pushed]) else entry).lookup other =
   (kinds.lookup other).map fun list=>if other=path then list++[pushed] else list := by
 induction kinds with
 | nil => rfl
 | cons entry kinds ih =>
   obtain ⟨key,list⟩:=entry
   by_cases hkey : other=key
   · by_cases hpath : key=path <;> simp [hkey,hpath]
   · have hbeq:(other == key)=false:=beq_eq_false_iff_ne.mpr hkey
     by_cases hpath : key=path
     · subst hpath
       simpa [lookup_cons,hbeq] using ih
     · simpa [lookup_cons,hbeq,hpath] using ih

lemma lookup_isSome_iff_any : (kinds.lookup path).isSome=kinds.any (·.1=path) := by
 induction kinds with
 | nil => rfl
 | cons entry kinds ih =>
   obtain ⟨key,list⟩:=entry
   by_cases hkey : key=path
   · simp [hkey]
   · rw [lookup_cons,beq_eq_false_iff_ne.mpr (Ne.symm hkey),any_cons,
      decide_eq_false hkey,Bool.false_or]
     exact ih

lemma kindsOf_pushKind (other:JsString) (pushed:OperationKind) :
  kindsOf (pushKind kinds path pushed) other =
   if other=path then kindsOf kinds other++[pushed] else kindsOf kinds other := by
 rw [kindsOf,pushKind,← lookup_isSome_iff_any]
 by_cases hsome : (kinds.lookup path).isSome=true
 · rw [if_pos hsome,lookup_map_push,kindsOf]
   obtain ⟨list,hlist⟩:=isSome_iff_exists.mp hsome
   by_cases hother : other=path
   · simp [hother,hlist]
   · simp [hother]
 · rw [if_neg hsome,lookup_append,kindsOf]
   have hnone:kinds.lookup path=none:=not_isSome_iff_eq_none.mp hsome
   by_cases hother : other=path
   · simp [hother,hnone]
   · have hbeq:(other == path)=false:=beq_eq_false_iff_ne.mpr hother
     simp [hother,lookup_cons,hbeq]

lemma kindsOf_foldl (paths:List JsString) (hpaths:paths.Nodup) (kinds:KindsByPath)
  (pushed:OperationKind) (other:JsString) :
  kindsOf (paths.foldl (fun kinds path=>pushKind kinds path pushed) kinds) other =
   if other∈paths then kindsOf kinds other++[pushed] else kindsOf kinds other := by
 induction paths generalizing kinds with
 | nil => simp
 | cons path paths ih =>
   rw [nodup_cons] at hpaths
   rw [foldl_cons,ih hpaths.2,kindsOf_pushKind]
   by_cases hother : other=path
   · simp [hother,hpaths.1]
   · simp [hother]

lemma nodup_operationPaths {operation:ChangeOperation}
  (h:checkMove unicode caseSensitive operation=.ok ()) : (operationPaths operation).Nodup := by
 cases operation with
 | move fromPath toPath before destination =>
   rw [checkMove] at h
   by_cases hsame : fromPath=toPath
   · rw [if_pos hsame] at h
     cases h
   · simp [operationPaths,hsame]
 | _ => exact nodup_singleton _

lemma kindsOf_noteOperations {kinds kinds':KindsByPath}
  (h:operations.foldlM (noteOperation unicode caseSensitive) kinds=.ok kinds') (path:JsString) :
  kindsOf kinds' path=kindsOf kinds path++kindsAt path operations := by
 induction operations generalizing kinds with
 | nil =>
   cases h
   simp [kindsAt]
 | cons operation operations ih =>
   obtain ⟨mid,hfirst,hrest⟩:=bind_eq_ok h
   obtain ⟨_,hmove,hfirst⟩:=bind_eq_ok hfirst
   cases hfirst
   rw [ih hrest,kindsOf_foldl _ (nodup_operationPaths hmove)]
   by_cases hpath : path∈operationPaths operation
   · simp [kindsAt,hpath]
   · simp [kindsAt,hpath]

lemma mem_of_lookup {kinds:KindsByPath} {path:JsString} {list:List OperationKind}
  (h:kinds.lookup path=some list) : (path,list)∈kinds := by
 obtain ⟨l₁,l₂,rfl,-⟩:=lookup_eq_some_iff.mp h
 simp

lemma isCanonicalKindChain_kindsAt
  (h:assertCanonicalChains unicode operations caseSensitive=.ok ()) (path:JsString) :
  isCanonicalKindChain (kindsAt path operations)=true := by
 obtain ⟨kinds,hkinds,hchains⟩:=bind_eq_ok h
 have hat:kindsOf kinds path=kindsAt path operations := by
  rw [kindsOf_noteOperations hkinds path]
  rfl
 rw [← hat,kindsOf]
 cases hlook : kinds.lookup path with
 | none => rfl
 | some list =>
   have hcheck:=forM_ok hchains (path,list) (mem_of_lookup hlook)
   by_contra hchain
   simp only [getD_some,not_eq_true] at hchain
   simp only [hchain,Bool.not_false,if_true] at hcheck
   cases hcheck

def rank : OperationKind → ℕ
 | .move => 0
 | .textPatch => 1
 | .setGitMode => 2
 | _ => 3

lemma pairwise_rank {kinds:List OperationKind} (h:isCanonicalKindChain kinds=true) :
  kinds.Pairwise fun a b=>rank a<rank b := by
 simp only [isCanonicalKindChain,or_eq_true,decide_eq_true_eq] at h
 rcases h with ((hshort | rfl) | rfl) | rfl
 · match kinds, hshort with
   | [], _ => exact .nil
   | [kind], _ => exact pairwise_singleton _ _
 · decide
 · decide
 · decide

lemma filter_eq_of_chains {operations':List ChangeOperation}
  (hperm:operations.Perm operations')
  (h:assertCanonicalChains unicode operations caseSensitive=.ok ())
  (h':assertCanonicalChains unicode operations' caseSensitive=.ok ()) (path:JsString) :
  operations.filter (path∈operationPaths ·)=operations'.filter (path∈operationPaths ·) := by
 have hsort:=pairwise_map.mp (pairwise_rank (isCanonicalKindChain_kindsAt h path))
 have hsort':=pairwise_map.mp (pairwise_rank (isCanonicalKindChain_kindsAt h' path))
 refine (hperm.filter _).eq_of_pairwise ?_ hsort hsort'
 intro a b _ _ hab hba
 omega

end

section

variable {services:Services} {changeSet changeSet':ChangeSet} {baseline:ChangeSetBaseline}
 {result result':AppliedCandidateTree} {base final base' final':EphemeralTree}

lemma nodup_nodes (tree:EphemeralTree) : tree.nodes.Nodup := tree.distinct.of_map _

lemma perm_nodes (h:final.get=final'.get) : final.nodes.Perm final'.nodes := by
 refine (perm_ext_iff_of_nodup (nodup_nodes final) (nodup_nodes final')).mpr fun node=>?_
 have hmem:∀tree : EphemeralTree,node∈tree.nodes ↔ tree.get node.path=some node :=
  fun tree=>⟨EphemeralTree.get_of_mem,EphemeralTree.mem_of_get⟩
 rw [hmem,hmem,h]

lemma toCandidateEntries_eq (h:final.get=final'.get) :
  final.toCandidateEntries=final'.toCandidateEntries := by
 have : Std.Total EphemeralTree.entryLe:=⟨fun a b=>by
  simpa [EphemeralTree.entryLe,or_eq_true] using unitsLe_total a.path b.path⟩
 have : IsTrans CandidateEntry EphemeralTree.entryLe:=⟨fun a b c=>
  unitsLe_trans a.path b.path c.path⟩
 have hperm:final.toCandidateEntries.Perm final'.toCandidateEntries :=
  (perm_insertionSort _ _).trans (((perm_nodes h).map _).trans (perm_insertionSort _ _).symm)
 refine hperm.eq_of_pairwise ?_ (pairwise_insertionSort _ _) (pairwise_insertionSort _ _)
 intro a b ha hb hab hba
 have hnodup:(final'.toCandidateEntries.map (·.path)).Nodup := by
  rw [EphemeralTree.toCandidateEntries,((perm_insertionSort _ _).map _).nodup_iff, List.map_map]
  exact final'.distinct
 exact inj_on_of_nodup_map hnodup (hperm.mem_iff.mp ha) hb (unitsLe_antisymm hab hba)

lemma changedPaths_eq {declared declared' changedPaths changedPaths':List JsString}
  (hbase:base.get=base'.get) (hfinal:final.get=final'.get)
  (h:assertDeclaredMutations (fingerprints base) (fingerprints final) declared =
   .ok changedPaths)
  (h':assertDeclaredMutations (fingerprints base') (fingerprints final') declared' =
   .ok changedPaths') : changedPaths=changedPaths' := by
 obtain ⟨hsort,hmem,-⟩:=assertDeclaredMutations_ok h
 obtain ⟨hsort',hmem',-⟩:=assertDeclaredMutations_ok h'
 have hsame:∀path,path∈changedPaths ↔ path∈changedPaths' := by
  intro path
  rw [hmem,hmem',hbase,hfinal]
 have hperm:=(perm_ext_iff_of_nodup (hsort.imp And.right) (hsort'.imp And.right)).mpr hsame
 exact hperm.eq_of_pairwise (fun a b _ _ hab hba=>absurd (unitsLe_antisymm hab.1 hba.1) hab.2)
  hsort hsort'

/-- Two accepted orders of the same operations on one baseline give the same result. -/
theorem accepted_order_irrelevant (services:Services) (baseline:ChangeSetBaseline)
  (changeSet changeSet':ChangeSet) (result result':AppliedCandidateTree)
  (hperm:changeSet.operations.Perm changeSet'.operations)
  (haccepted:validateAndApplyChangeSet services changeSet baseline=.ok result)
  (haccepted':validateAndApplyChangeSet services changeSet' baseline=.ok result') :
  result.entries=result'.entries ∧ result.changedPaths=result'.changedPaths ∧
   result.materializedTreeDigest=result'.materializedTreeDigest := by
 obtain ⟨base,final,h⟩:=accepted_of_ok haccepted
 obtain ⟨base',final',h'⟩:=accepted_of_ok haccepted'
 have hbase:base.get=base'.get := by
  funext path
  rw [EphemeralTree.get,EphemeralTree.get,h.built.nodes,h'.built.nodes]
 have hcase:base.caseSensitive=base'.caseSensitive :=
  h.built.caseSensitive.trans h'.built.caseSensitive.symm
 have hchains:=h'.chains
 rw [← hcase] at hchains
 have hfinal:final.get=final'.get := by
  rw [h.applied.get,h'.applied.get,← hbase]
  exact (isLocal_effect services).run_eq hperm (filter_eq_of_chains hperm h.chains hchains) _
 have hentries:result.entries=result'.entries := by
  rw [h.entries,h'.entries,toCandidateEntries_eq hfinal]
 refine ⟨hentries,changedPaths_eq hbase hfinal h.changed h'.changed,?_⟩
 have hdigest:=h.digest
 rw [hentries,h'.digest] at hdigest
 exact (Except.ok.inj hdigest).symm

theorem accepted_order_irrelevant_sample :
  ∃result result',
    validateAndApplyChangeSet sampleServices
     (sampleChangeSet [.createDirectory (js "a"),.createDirectory (js "b")])
     (sampleBaseline [])=.ok result ∧
    validateAndApplyChangeSet sampleServices
     (sampleChangeSet [.createDirectory (js "b"),.createDirectory (js "a")])
     (sampleBaseline [])=.ok result' ∧
    result.entries=result'.entries := by
 obtain ⟨result,hresult⟩:=exists_ok_of_isOk (show (validateAndApplyChangeSet sampleServices
  (sampleChangeSet [.createDirectory (js "a"),.createDirectory (js "b")])
  (sampleBaseline [])).isOk=true by decide +kernel)
 obtain ⟨result',hresult'⟩:=exists_ok_of_isOk (show (validateAndApplyChangeSet sampleServices
  (sampleChangeSet [.createDirectory (js "b"),.createDirectory (js "a")])
  (sampleBaseline [])).isOk=true by decide +kernel)
 exact ⟨result,result',hresult,hresult',
  (accepted_order_irrelevant _ _ _ _ _ _ (List.Perm.swap _ _ _) hresult hresult').1⟩

end

end EpistemicCompiler.ChangeSetOrder
