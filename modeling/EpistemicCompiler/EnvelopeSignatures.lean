import EpistemicCompiler.EncodedOrders
import EpistemicCompiler.GrantConsumption

set_option autoImplicit false

/-!
# Envelope signatures

The signatures of an envelope are sorted by key, algorithm and time before the envelope is written.
Two that agree in all three are refused, so that the sorted list is the same for every order.
-/
namespace EpistemicCompiler.EnvelopeSignatures
open List JsValues CanonicalJson CanonicalRecords ApprovalGrants EncodedOrders FallibleRuns

section

variable {left right:JsString} {a b:EnvelopeSignature}
 {signatures other:List EnvelopeSignature}

def identity (signature:EnvelopeSignature) : JsString×SignatureAlgorithm×JsString :=
 (signature.keyId,signature.algorithm,signature.signedAt)

def algorithmLe (left right:SignatureAlgorithm) : Bool := unitsLe left.text right.text

def signatureLe : EnvelopeSignature → EnvelopeSignature → Bool :=
 lexLe (·.keyId) unitsLe <| lexLe (·.algorithm) algorithmLe fun a b=>unitsLe a.signedAt b.signedAt

lemma sorts_units {α:Type} (text:α → JsString) : Sorts fun a b=>unitsLe (text a) (text b) :=
 ⟨fun _ _ _=>unitsLe_trans _ _ _,fun _ _=>unitsLe_total _ _⟩

lemma text_injective : Function.Injective SignatureAlgorithm.text := by
 intro left right
 cases left <;> cases right <;> decide

lemma sorts_signatures : Sorts signatureLe :=
 Sorts.lexLe unitsLe_antisymm (sorts_units id)
  (Sorts.lexLe (fun h h'=>text_injective (unitsLe_antisymm h h')) (sorts_units _) (sorts_units _))

lemma compareTexts_le_iff : compareTexts left right ≤ 0 ↔ unitsLe left right=true := by
 unfold compareTexts
 split_ifs with heq hle
 · simpa [heq] using unitsLe_total right right
 · simpa using hle
 · simpa using hle

lemma compareTexts_eq_zero_iff : compareTexts left right=0 ↔ left=right := by
 unfold compareTexts
 split_ifs with heq <;> simp [heq]

lemma compareSignatures_le : decide (compareSignatures a b ≤ 0)=signatureLe a b := by
 rw [Bool.eq_iff_iff,decide_eq_true_eq]
 simp only [compareSignatures,signatureLe,lexLe,ne_eq,ite_not]
 split_ifs <;> exact compareTexts_le_iff

lemma compareSignatures_eq_zero_iff : compareSignatures a b=0 ↔ identity a=identity b := by
 simp only [compareSignatures,identity,Prod.mk.injEq]
 split_ifs with hkey halgorithm
 · simp [compareTexts_eq_zero_iff,hkey]
 · simp [compareTexts_eq_zero_iff,text_injective.eq_iff,halgorithm]
 · rw [compareTexts_eq_zero_iff,and_iff_right (not_not.mp hkey),
    and_iff_right (not_not.mp halgorithm)]

lemma identity_eq_iff : decide (compareSignatures a b=0)=true ↔
  signatureLe a b=true ∧ signatureLe b a=true := by
 rw [decide_eq_true_eq]
 constructor
 · intro h
   have h':=compareSignatures_eq_zero_iff.mpr (compareSignatures_eq_zero_iff.mp h).symm
   simp only [← compareSignatures_le,h,h',le_refl,decide_true,and_self]
 · rintro ⟨hab,hba⟩
   obtain ⟨hkey,hab,hba⟩:=lexLe_antisymm unitsLe_antisymm hab hba
   obtain ⟨halgorithm,hab,hba⟩:=lexLe_antisymm
    (fun h h'=>text_injective (unitsLe_antisymm h h')) hab hba
   rw [compareSignatures_eq_zero_iff,identity,identity,hkey,halgorithm,unitsLe_antisymm hab hba]

lemma sortSignatures_eq : sortSignatures signatures =
  if (signatures.map identity).Nodup then .ok (signatures.mergeSort signatureLe)
  else .error (.digestError "duplicate envelope signature identity") := by
 have hsort:(signatures.mergeSort fun a b=>compareSignatures a b ≤ 0) =
   signatures.mergeSort signatureLe := by simp only [compareSignatures_le]
 have hsorted:=pairwise_mergeSort sorts_signatures.trans sorts_signatures.total signatures
 have hdist:(signatures.mergeSort signatureLe).Pairwise
   (fun a b=>¬ decide (compareSignatures a b=0)=true) ↔ (signatures.map identity).Nodup := by
  rw [← ((mergeSort_perm signatures signatureLe).map identity).nodup_iff,Nodup,pairwise_map]
  simp only [decide_eq_true_eq,compareSignatures_eq_zero_iff,ne_eq]
 have hany:=(any_neighbours_iff sorts_signatures (fun _ _=>identity_eq_iff) hsorted).trans
  (not_congr hdist)
 simp only [sortSignatures,hsort,hany,ite_not]

lemma sortSignatures_perm (h:other ~ signatures) :
  sortSignatures other=sortSignatures signatures := by
 simp only [sortSignatures_eq,(h.map identity).nodup_iff]
 split_ifs with hdist
 · congr 1
   refine (mergeSort_unordered_iff sorts_signatures signatures).mpr
    (fun a ha b hb hab hba=>?_) other h
   have hsame:=identity_eq_iff.mpr ⟨hab,hba⟩
   exact inj_on_of_nodup_map hdist ha hb
    (compareSignatures_eq_zero_iff.mp (of_decide_eq_true hsame))
 · rfl

end

section

variable {α:Type} (toJson:α → JsonValue) (envelope:ArtifactEnvelope α)

theorem signature_order_irrelevant (services:ApprovalServices) {other:List EnvelopeSignature}
  (h:other ~ envelope.signatures) :
  canonicalizeEnvelope toJson { envelope with signatures:=other } services.shortest =
    canonicalizeEnvelope toJson envelope services.shortest ∧
   envelopeObjectDigest services toJson { envelope with signatures:=other } =
    envelopeObjectDigest services toJson envelope ∧
   ∀error,canonicalizeEnvelope toJson envelope services.shortest=.error error ↔
    (¬ (envelope.signatures.map identity).Nodup ∧
      error=.digestError "duplicate envelope signature identity") ∨
    ((envelope.signatures.map identity).Nodup ∧
     ∃reason,error=.canonicalizationError reason ∧
      canonicalize services.shortest (.object (envelopeFields toJson envelope
       (envelope.signatures.mergeSort fun a b=>compareSignatures a b ≤ 0)))=.error reason) := by
 have htext:canonicalizeEnvelope toJson { envelope with signatures:=other } services.shortest =
   canonicalizeEnvelope toJson envelope services.shortest := by
  unfold canonicalizeEnvelope
  rw [sortSignatures_perm h]
  rfl
 refine ⟨htext,by rw [envelopeObjectDigest,envelopeObjectDigest,htext],fun error=>?_⟩
 simp only [canonicalizeEnvelope,sortSignatures_eq,compareSignatures_le]
 split_ifs with hdistinct
 · rw [ok_bind]
   cases canonicalize services.shortest _ <;> simp [Except.mapError,hdistinct,eq_comm]
 · simp [hdistinct,bind,Except.bind,eq_comm]

def sampleEnvelope (payload:JsonValue) (signatures:List EnvelopeSignature) :
  ArtifactEnvelope JsonValue :=
 ⟨[],1,payload,[],signatures⟩

def sampleSignature (keyId:JsString) : EnvelopeSignature := ⟨keyId,.ed25519,[],[],[],[]⟩

theorem signature_order_irrelevant_sample :
  canonicalizeEnvelope id (sampleEnvelope .null [sampleSignature [1],sampleSignature [0]])
    (fun _=>[]) =
   canonicalizeEnvelope id (sampleEnvelope .null [sampleSignature [0],sampleSignature [1]])
    (fun _=>[]) :=
 (signature_order_irrelevant id (sampleEnvelope .null [sampleSignature [0],sampleSignature [1]])
  GrantConsumption.sampleServices (.swap _ _ _)).1

def unpairedEnvelope : ArtifactEnvelope JsonValue := sampleEnvelope (.object [([0xD800],.null)]) []

theorem unpaired_envelope_refused : (unpairedEnvelope.signatures.map identity).Nodup ∧
  ∃error,canonicalizeEnvelope id unpairedEnvelope (fun _=>[])=.error error := by
 refine ⟨nodup_nil,?_⟩
 have hsorted:sortSignatures unpairedEnvelope.signatures=.ok [] := by
  simp [sortSignatures,unpairedEnvelope,sampleEnvelope]
 rw [canonicalizeEnvelope,hsorted,ok_bind]
 cases htext : canonicalize (fun _=>[]) (.object (envelopeFields id unpairedEnvelope [])) with
 | error => exact ⟨_,rfl⟩
 | ok text =>
   have hpayload:=(writable_object.mp ⟨text,htext⟩ (js "payload",.object [([0xD800],.null)])
    (by simp [envelopeFields,unpairedEnvelope,sampleEnvelope])).2
   exact absurd (writable_object.mp hpayload _ mem_cons_self).1 (by decide)

end

end EpistemicCompiler.EnvelopeSignatures
