import EpistemicCompiler.EntryOrder

set_option autoImplicit false

/-!
# Declared orders of digests

The registry of digest domains declares for some arrays that they are sorted, and the functions that
mint a digest carry it out, each in its own way. The ids of obligations and of checks hash their
lists as they are given.
-/
namespace EpistemicCompiler.DigestOrders
open EncodedOrders EntryOrder List Function Bool

section Model

structure OmittedEvidence where
 evidenceId : String
 reason : String

variable {β γ δ D I π:Type}

/-- The payloads of the domains; `rest` stands for the fields that are no declared arrays. -/
inductive DigestPayload (β γ δ:Type) where
 | obligation (requirementIds:List String) (rest:δ)
 | check (obligationIds:List String) (rest:δ)
 | snapshotRoot (root:SnapshotRoot β γ δ)
 | candidateTree (entries:List (Entry β))
 | directoryTree (path:String) (entries:List (Entry β))
 | evidenceEdge (rest:δ) (provenanceIdentities:List String)
 | omissionRoot (pairs:List OmittedEvidence)

abbrev Hash (β γ δ D:Type) := Preimage (DigestPayload β γ δ) → D

variable (hash:Hash β γ δ D)

def Hash.on {P:Type} (wrap:P → DigestPayload β γ δ) (preimage:Preimage P) : D :=
 hash ⟨preimage.domain,preimage.version,wrap preimage.payload⟩

/-- `crockford` is the text of a digest in base 32. -/
def mintObligationId (crockford:D → I) (requirementIds:List String) (rest:δ) : I :=
 crockford (taggedHash hash "obligation-id" (.obligation requirementIds rest))

def mintCheckId (crockford:D → I) (obligationIds:List String) (rest:δ) : I :=
 crockford (taggedHash hash "check-id" (.check obligationIds rest))

def directoryTreeDigest (path:String) (children:List (Entry β)) : D :=
 taggedHash hash "directory-tree" (.directoryTree path
  (children.mergeSort fun left right=>unitsLe left.path right.path))

/-- The sort hides which of several equal identities the `Set` keeps. -/
def identityProvenanceIdentities (isVolatile:π → Bool) (provenanceIdentity:π → String)
  (provenance:List π) : List String :=
 ((provenance.filter (!isVolatile ·)).map provenanceIdentity).dedup.mergeSort unitsLe

def createEvidenceEdge (crockford:D → I) (isVolatile:π → Bool)
  (provenanceIdentity:π → String) (rest:δ) (provenance:List π) : I :=
 crockford (taggedHash hash "evidence-edge"
  (.evidenceEdge rest (identityProvenanceIdentities isVolatile provenanceIdentity provenance)))

def omissionLe (left right:OmittedEvidence) : Bool :=
 let byId:=compareUtf8 left.evidenceId right.evidenceId
 if byId≠0 then byId ≤ 0 else compareUtf8 left.reason right.reason ≤ 0

def omissionRootDigest (pairs:List OmittedEvidence) : D :=
 taggedHash hash "omission-root" (.omissionRoot (pairs.mergeSort omissionLe))

end Model

section Orders

variable {α:Type}

def Unordered {D:Type} (mint:List α → D) (xs:List α) : Prop :=
 ∀ys,ys.Perm xs → mint ys=mint xs

def OnePer (text:α → String) (xs:List α) : Prop :=
 ∀a∈xs,∀b∈xs,text a=text b → a=b

lemma unordered_comp {B D:Type} (f:B → D) (hf:Function.Injective f) (sort:List α → B)
  (xs:List α) : Unordered (fun ys=>f (sort ys)) xs ↔ Unordered sort xs :=
 forall₂_congr fun _ _=>hf.eq_iff

lemma unordered_id_iff (xs:List α) :
  Unordered (fun ys=>ys) xs ↔ ∀a∈xs,∀b∈xs,a=b := by
 have hsame:∀ys : List α,ys.mergeSort (fun _ _=>true)=ys:=fun ys=>
  mergeSort_of_pairwise (pairwise_of_forall fun _ _=>rfl)
 have h:=mergeSort_unordered_iff ⟨fun _ _ _ _ _=>rfl,fun _ _ : α=>rfl⟩ xs
 simp only [hsame,true_implies] at h
 exact h

lemma orders_texts (xs:List String) : Orders unitsLe xs :=
 orders_units id fun _ _ _ _ h=>h

lemma sorts_texts (text:α → String) : Sorts fun a b=>unitsLe (text a) (text b) :=
 ⟨fun _ _ _=>(orders_texts []).trans _ _ _,fun _ _=>(orders_texts []).total _ _⟩

lemma unitsLe_antisymm {s t:String} (h:unitsLe s t=true) (h':unitsLe t s=true) :
  s=t :=
 (orders_texts [s,t]).antisymm s (by simp) t (by simp) h h'

lemma sort_unordered_iff (text:α → String) (xs:List α) :
  Unordered (List.mergeSort · fun a b=>unitsLe (text a) (text b)) xs ↔ OnePer text xs := by
 refine (mergeSort_unordered_iff (sorts_texts text) xs).trans ?_
 constructor
 · intro h a ha b hb heq
   have hle:unitsLe (text a) (text a)=true := by simpa using (sorts_texts text).total a a
   exact h a ha b hb (heq ▸ hle) (heq ▸ hle)
 · exact fun h a ha b hb hab hba=>h a ha b hb (unitsLe_antisymm hab hba)

lemma identities_unordered {π:Type} (isVolatile:π → Bool) (provenanceIdentity:π → String)
  (provenance:List π) :
  Unordered (identityProvenanceIdentities isVolatile provenanceIdentity) provenance := by
 intro others hperm
 refine (sort_unordered_iff id _).mpr (fun _ _ _ _ h=>h) _ ?_
 exact ((hperm.filter _).map _).dedup

lemma omissionLe_eq : omissionLe =
  lexLe (·.evidenceId) unitsLe fun a b=>unitsLe a.reason b.reason := by
 funext a b
 have hzero:compareUtf8 a.evidenceId b.evidenceId=0 ↔ a.evidenceId=b.evidenceId := by
  constructor
  · intro h
    refine unitsLe_antisymm (by simp [unitsLe,h]) ?_
    rw [unitsLe_iff]
    intro hlt
    simp [compareUtf8,hlt] at h
  · intro h
    simp [h,compareUtf8,List.lt_irrefl]
 simp only [omissionLe,lexLe,ne_eq,hzero,unitsLe,ite_not]

lemma omissions_unordered (pairs:List OmittedEvidence) :
  Unordered (List.mergeSort · omissionLe) pairs := by
 have hsorts:Sorts omissionLe:=
  omissionLe_eq ▸ Sorts.lexLe unitsLe_antisymm (sorts_texts id) (sorts_texts _)
 refine (mergeSort_unordered_iff hsorts pairs).mpr fun a _ b _ hab hba=>?_
 rw [omissionLe_eq] at hab hba
 obtain ⟨hid,hab,hba⟩:=lexLe_antisymm unitsLe_antisymm hab hba
 exact (OmittedEvidence.mk.injEq ..).mpr ⟨hid,unitsLe_antisymm hab hba⟩

end Orders

section Results

variable {β γ δ D I:Type}

lemma taggedHash_injective {P:Type} {hash:Preimage P → D} (h:Function.Injective hash)
  (domain:String) : Function.Injective (taggedHash hash domain) := fun a b heq=>by
 have hpreimage:=h heq
 rw [Preimage.mk.injEq] at hpreimage
 exact hpreimage.2.2

lemma on_injective {hash:Hash β γ δ D} (h:Function.Injective hash) {P:Type}
  {wrap:P → DigestPayload β γ δ} (hwrap:Function.Injective wrap) :
  Function.Injective (hash.on wrap) := by
 intro a b heq
 have hpreimage:=h heq
 rw [Preimage.mk.injEq] at hpreimage
 rw [Preimage.mk.injEq]
 exact ⟨hpreimage.1,hpreimage.2.1,hwrap hpreimage.2.2⟩

lemma entries_unordered_iff (entries:List (Entry β)) :
  Unordered sortCandidateEntries entries ↔ OnePer Entry.path entries :=
 sort_unordered_iff Entry.path entries

section Injective

variable {hash:Hash β γ δ D} (hhash:Function.Injective hash)
include hhash

lemma candidateTree_unordered_iff (entries:List (Entry β)) :
  Unordered (candidateTreeDigest (hash.on .candidateTree)) entries ↔ OnePer Entry.path entries := by
 have hon:Function.Injective (hash.on .candidateTree) :=
  on_injective hhash fun _ _ h=>DigestPayload.candidateTree.inj h
 exact (unordered_comp _ (taggedHash_injective hon "candidate-tree") sortCandidateEntries
  entries).trans (entries_unordered_iff entries)

lemma directoryTree_unordered_iff (path:String) (entries:List (Entry β)) :
  Unordered (directoryTreeDigest hash path) entries ↔ OnePer Entry.path entries := by
 refine (unordered_comp (fun sorted=>taggedHash hash "directory-tree"
  (.directoryTree path sorted)) (fun a b h=>?_) sortCandidateEntries entries).trans
  (entries_unordered_iff entries)
 exact (DigestPayload.directoryTree.inj (taggedHash_injective hhash _ h)).2

lemma snapshotRoot_injective :
  Function.Injective (taggedHash (hash.on .snapshotRoot) "snapshot-root") :=
 taggedHash_injective (on_injective hhash fun _ _ h=>DigestPayload.snapshotRoot.inj h) _

lemma snapshotEntries_unordered_iff (root:SnapshotRoot β γ δ) :
  Unordered (fun entries=>snapshotRootDigest (hash.on .snapshotRoot)
   { root with entries:=entries }) root.entries ↔ OnePer Entry.path root.entries := by
 refine (unordered_comp (fun sorted=>taggedHash (hash.on .snapshotRoot) "snapshot-root"
  { sortSnapshotRootPayload root with entries:=sorted }) (fun a b h=>?_)
  sortCandidateEntries root.entries).trans (entries_unordered_iff root.entries)
 exact (SnapshotRoot.mk.inj (snapshotRoot_injective hhash h)).1

lemma snapshotExcluded_unordered_iff (root:SnapshotRoot β γ δ) :
  Unordered (fun excluded=>snapshotRootDigest (hash.on .snapshotRoot)
   { root with excludedPaths:=excluded }) root.excludedPaths ↔
  OnePer ExcludedPath.value root.excludedPaths := by
 refine (unordered_comp (fun sorted=>taggedHash (hash.on .snapshotRoot) "snapshot-root"
  { sortSnapshotRootPayload root with excludedPaths:=sorted }) (fun a b h=>?_)
  (mergeSort · fun a b=>unitsLe a.value b.value) root.excludedPaths).trans
  (sort_unordered_iff ExcludedPath.value root.excludedPaths)
 exact (SnapshotRoot.mk.inj (snapshotRoot_injective hhash h)).2.2.1

end Injective

lemma snapshotIgnored_unordered (hash:Hash β γ δ D) (root:SnapshotRoot β γ δ) :
  Unordered (fun ignored=>snapshotRootDigest (hash.on .snapshotRoot)
   { root with ignoredPathDigests:=ignored }) root.ignoredPathDigests := by
 intro others hperm
 have hsort:=(sort_unordered_iff id root.ignoredPathDigests).mpr (fun _ _ _ _ h=>h) others
  hperm
 simp only [id_eq] at hsort
 simp only [snapshotRootDigest,sortSnapshotRootPayload,hsort]

/-- Which digests depend on the order of a declared array: the ids of obligations and of checks as
soon as two members differ, the digests of trees and of snapshots if different entries have one
path, the others never. -/
theorem digest_unordered_iff (hash:Hash β γ δ D) (hhash:Function.Injective hash)
  (crockford:D → I) (hcrockford:Function.Injective crockford) :
  (∀ids rest,(Unordered (mintObligationId hash crockford · rest) ids ↔
    ∀a∈ids,∀b∈ids,a=b) ∧
   (Unordered (mintCheckId hash crockford · rest) ids ↔ ∀a∈ids,∀b∈ids,a=b)) ∧
  (∀entries,(Unordered (candidateTreeDigest (hash.on .candidateTree)) entries ↔
    OnePer Entry.path entries) ∧
   ∀path,Unordered (directoryTreeDigest hash path) entries ↔ OnePer Entry.path entries) ∧
  (∀root : SnapshotRoot β γ δ,
   (Unordered (fun entries=>snapshotRootDigest (hash.on .snapshotRoot)
     { root with entries:=entries }) root.entries ↔ OnePer Entry.path root.entries) ∧
   Unordered (fun ignored=>snapshotRootDigest (hash.on .snapshotRoot)
    { root with ignoredPathDigests:=ignored }) root.ignoredPathDigests ∧
   (Unordered (fun excluded=>snapshotRootDigest (hash.on .snapshotRoot)
     { root with excludedPaths:=excluded }) root.excludedPaths ↔
    OnePer ExcludedPath.value root.excludedPaths)) ∧
  (∀(π:Type) (isVolatile:π → Bool) (provenanceIdentity:π → String) rest provenance,
   Unordered (createEvidenceEdge hash crockford isVolatile provenanceIdentity rest) provenance) ∧
  ∀pairs,Unordered (omissionRootDigest hash) pairs := by
 refine ⟨fun ids rest=>⟨?_,?_⟩,fun entries=>⟨candidateTree_unordered_iff hhash entries,
  fun path=>directoryTree_unordered_iff hhash path entries⟩,
  fun root=>⟨snapshotEntries_unordered_iff hhash root,snapshotIgnored_unordered hash root,
   snapshotExcluded_unordered_iff hhash root⟩,
  fun π isVolatile provenanceIdentity rest provenance others hperm=>?_,
  fun pairs others hperm=>?_⟩
 · refine (unordered_comp (fun ids=>mintObligationId hash crockford ids rest) (fun a b h=>?_)
    (fun ys=>ys) ids).trans (unordered_id_iff ids)
   exact (DigestPayload.obligation.inj (taggedHash_injective hhash _ (hcrockford h))).1
 · refine (unordered_comp (fun ids=>mintCheckId hash crockford ids rest) (fun a b h=>?_)
    (fun ys=>ys) ids).trans (unordered_id_iff ids)
   exact (DigestPayload.check.inj (taggedHash_injective hhash _ (hcrockford h))).1
 · simp only [createEvidenceEdge,identities_unordered _ _ _ others hperm]
 · simp only [omissionRootDigest,omissions_unordered pairs others hperm]

theorem digest_unordered_iff_sample :
  candidateTreeDigest (Hash.on (id:Hash Unit Unit Unit _) .candidateTree)
   [⟨"b",()⟩,⟨"a",()⟩] =
  candidateTreeDigest (Hash.on (id:Hash Unit Unit Unit _) .candidateTree)
   [⟨"a",()⟩,⟨"b",()⟩] :=
 ((digest_unordered_iff (id:Hash Unit Unit Unit _) injective_id id
  injective_id).2.1 _).1.mpr (by simp [OnePer]) _ (.swap _ _ _)

theorem obligation_id_depends_on_order :
  mintObligationId (id:Hash Unit Unit Unit _) id ["requirement_1","requirement_2"] () ≠
  mintObligationId (id:Hash Unit Unit Unit _) id ["requirement_2","requirement_1"] () := by
 intro h
 simp [mintObligationId,taggedHash] at h

end Results

end EpistemicCompiler.DigestOrders
