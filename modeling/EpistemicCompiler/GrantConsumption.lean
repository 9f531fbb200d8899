import EpistemicCompiler.ApprovalGrants
import EpistemicCompiler.CanonicalRecords
import EpistemicCompiler.SingleUse

set_option autoImplicit false

/-!
# Grants are consumed by their envelopes

The register knows a grant by the digest of its envelope, which holds the signature as a base64 text
next to any other keys of the signature object. The signature is checked as bytes.
-/
namespace EpistemicCompiler.GrantConsumption
open JsValues CanonicalJson CanonicalReading CanonicalRoundTrip CanonicalRecords Base64Text List
 Except
open ApprovalGrants SingleUse FallibleRuns TextEncodings

variable {services:ApprovalServices}

variable {first:EnvelopeSignature}

lemma whole_number (n:ℕ) : Whole (number n) := by
 have h:=Whole.number n
 rwa [Int.cast_natCast] at h

lemma grant_keys_nodup (grant:ApprovalGrant) : (grant.fields.map (·.1)).Nodup := by
 unfold ApprovalGrant.fields
 cases grant.binding <;>
  simp only [GrantBinding.fields,map_append,map_cons,map_nil] <;>
  decide

lemma whole_grant (grant:ApprovalGrant) : Whole grant.toJson := by
 refine .object _ (grant_keys_nodup grant) ?_
 unfold ApprovalGrant.fields
 cases grant.binding <;>
  simp only [GrantBinding.fields,cons_append,nil_append,forall_mem_cons] <;>
  simp [Whole.string,whole_number]

lemma binding_eq_of_sortKeys {grant other:ApprovalGrant}
  (h:sortKeys grant.toJson=sortKeys other.toJson) : grant.binding=other.binding := by
 have htext:=text_eq_of_sortKeys (grant_keys_nodup other) h
 obtain ⟨a,b,c,d,e,f,g,i,j,binding⟩:=grant
 obtain ⟨a',b',c',d',e',f',g',i',j',binding'⟩:=other
 cases binding with
 | run action runId =>
   cases binding' with
   | run action' runId' =>
     have hact:action.text=action'.text:=htext 12 rfl rfl
     have hrunId:runId=runId':=htext 11 rfl rfl
     have hsame:action=action' := by
      cases action <;> cases action' <;> first | rfl | exact absurd hact (by decide)
     rw [hrunId,hsame]
   | project action' =>
     have hscope:js "run"=js "project":=htext 10 rfl rfl
     exact absurd hscope (by decide)
 | project action =>
   cases binding' with
   | run action' runId' =>
     have hscope:js "project"=js "run":=htext 10 rfl rfl
     exact absurd hscope (by decide)
   | project action' =>
     have hact:action.text=action'.text:=htext 11 rfl rfl
     have hsame:action=action' := by
      cases action <;> cases action' <;> first | rfl | exact absurd hact (by decide)
     rw [hsame]

lemma grant_eq_of_sortKeys {grant other:ApprovalGrant}
  (h:sortKeys grant.toJson=sortKeys other.toJson) : grant=other := by
 have htext:=text_eq_of_sortKeys (grant_keys_nodup other) h
 have hbind:=binding_eq_of_sortKeys h
 rw [ApprovalGrant.mk.injEq]
 exact ⟨htext 1 rfl rfl,htext 2 rfl rfl,htext 3 rfl rfl,htext 4 rfl rfl,htext 5 rfl rfl,
  htext 6 rfl rfl,htext 7 rfl rfl,htext 8 rfl rfl,htext 9 rfl rfl,hbind⟩

section

variable {α:Type} {toJson:α → JsonValue} {envelope other:ArtifactEnvelope α}
 {signatures signatures':List EnvelopeSignature} {shortest:ℚ → JsString} {text:JsString}

lemma sort_envelopeFields : (envelopeFields toJson envelope signatures).mergeSort fieldLe =
  [(js "payload",toJson envelope.payload),(js "payloadDigest",.string envelope.payloadDigest),
   (js "schemaName",.string envelope.schemaName),
   (js "schemaVersion",number envelope.schemaVersion),
   (js "signatures",.array (signatures.map EnvelopeSignature.toJson))] :=
 sort_fields ((perm_append_comm:[_,_]++[_,_] ~ [_,_]++[_,_]).append_right [_])
  (of_decide_eq_true rfl)

lemma envelope_text (h:canonicalize shortest (.object (envelopeFields toJson envelope
   signatures))=.ok text) :
  ∃payload digest name version signed,
   canonicalize shortest (toJson envelope.payload)=.ok payload ∧
   canonicalize shortest (.string envelope.payloadDigest)=.ok digest ∧
   canonicalize shortest (.string envelope.schemaName)=.ok name ∧
   canonicalize shortest (number envelope.schemaVersion)=.ok version ∧
   canonicalize shortest (.array (signatures.map EnvelopeSignature.toJson))=.ok signed ∧
   text=[0x7B]++(quote (js "payload")++[0x3A]++payload++0x2C ::
    (quote (js "payloadDigest")++[0x3A]++digest++0x2C ::
     (quote (js "schemaName")++[0x3A]++name++0x2C ::
      (quote (js "schemaVersion")++[0x3A]++version++0x2C ::
       (quote (js "signatures")++[0x3A]++signed)))))++[0x7D] := by
 rw [canonicalize,walk,walkFields_eq,mergeSort_fields,sort_envelopeFields] at h
 obtain ⟨parts,hparts,h⟩:=bind_eq_ok h
 cases h
 simp only [map_cons,map_nil,mapM_cons,mapM_nil,bind_ok_iff,fieldText_ok_iff,pure,Except.pure,
  Except.ok.injEq] at hparts
 obtain ⟨_,⟨-,payload,hpayload,rfl⟩,_,⟨_,⟨-,digest,hdigest,rfl⟩,_,⟨_,⟨-,name,hname,rfl⟩,_,
  ⟨_,⟨-,version,hversion,rfl⟩,_,⟨_,⟨-,signed,hsigned,rfl⟩,_,rfl,rfl⟩,rfl⟩,rfl⟩,rfl⟩,rfl⟩:=hparts
 refine ⟨payload,digest,name,version,signed,hpayload,hdigest,hname,hversion,hsigned,?_⟩
 simp only [intercalate_cons,intercalate_singleton]

/-- One envelope as far as its digest can tell: of a signature object every key counts. -/
structure SameEnvelope (shortest:ℚ → JsString) (envelope other:ArtifactEnvelope α) : Prop where
 schemaName : envelope.schemaName=other.schemaName
 schemaVersion : envelope.schemaVersion=other.schemaVersion
 payload : envelope.payload=other.payload
 payloadDigest : envelope.payloadDigest=other.payloadDigest
 signatures : canonicalize shortest (.array (envelope.signatures.map EnvelopeSignature.toJson)) =
  canonicalize shortest (.array (other.signatures.map EnvelopeSignature.toJson))

lemma fields_of_text (hwhole:∀payload,Whole (toJson payload))
  (h:canonicalize shortest (.object (envelopeFields toJson envelope signatures))=.ok text)
  (h':canonicalize shortest (.object (envelopeFields toJson other signatures'))=.ok text) :
  sortKeys (toJson envelope.payload)=sortKeys (toJson other.payload) ∧
   envelope.payloadDigest=other.payloadDigest ∧ envelope.schemaName=other.schemaName ∧
   envelope.schemaVersion=other.schemaVersion ∧
   canonicalize shortest (.array (signatures.map EnvelopeSignature.toJson)) =
    canonicalize shortest (.array (signatures'.map EnvelopeSignature.toJson)) := by
 obtain ⟨_,_,_,_,signed,hpayload,hdigest,hname,hversion,hsigned,rfl⟩:=envelope_text h
 obtain ⟨_,_,_,_,signed',hpayload',hdigest',hname',hversion',hsigned',htext⟩:=envelope_text h'
 have hcancel:∀{key left right:JsString},quote key++0x3A::left=quote key++0x3A::right →
   left=right:=fun h=>(cons.inj (append_cancel_left h)).2
 simp only [append_assoc,cons_append,nil_append,cons.injEq,true_and] at htext
 obtain ⟨hpay,hrest⟩:=sortKeys_eq_of_front (hwhole _) (hwhole _) hpayload hpayload' (hcancel htext)
 obtain ⟨hdigests,hrest⟩ :=
  sortKeys_eq_of_front (.string _) (.string _) hdigest hdigest' (hcancel hrest)
 obtain ⟨hnames,hrest⟩:=sortKeys_eq_of_front (.string _) (.string _) hname hname' (hcancel hrest)
 obtain ⟨hversions,hrest⟩:=sortKeys_eq_of_front (whole_number _) (whole_number _) hversion hversion'
  (hcancel hrest)
 have hsame:signed=signed':=append_cancel_right (hcancel hrest)
 refine ⟨hpay,JsonValue.string.inj hdigests,JsonValue.string.inj hnames,
  Nat.cast_injective (JsNumber.finite.inj (JsonValue.number.inj hversions)),?_⟩
 rw [hsigned,hsigned',hsame]

lemma SameEnvelope.text_eq (h:SameEnvelope shortest envelope other) :
  canonicalize shortest (.object (envelopeFields toJson envelope envelope.signatures)) =
   canonicalize shortest (.object (envelopeFields toJson other other.signatures)) := by
 have hsignatures:=h.signatures
 unfold canonicalize at hsignatures ⊢
 rw [walk,walk,walkFields_eq,walkFields_eq]
 simp only [envelopeFields,map_cons,h.schemaName,h.schemaVersion,h.payload,h.payloadDigest,
  hsignatures]

lemma text_eq_of_hash (hsha:Function.Injective services.sha256) {value other:JsonValue}
  {text':JsString} (h:canonicalize services.shortest value=.ok text)
  (h':canonicalize services.shortest other=.ok text')
  (hhash:sha256Utf8 services text=sha256Utf8 services text') : text=text' :=
 utf8_injective (paired_canonicalize services.paired _ h)
  (paired_canonicalize services.paired _ h') (hsha hhash)

lemma envelopeObjectDigest_ok_iff {digest:JsString} :
  envelopeObjectDigest services toJson envelope=.ok digest ↔
   ∃signatures text,sortSignatures envelope.signatures=.ok signatures ∧
    canonicalize services.shortest (.object (envelopeFields toJson envelope signatures))=.ok text ∧
    sha256Utf8 services text=digest := by
 unfold envelopeObjectDigest canonicalizeEnvelope
 cases sortSignatures envelope.signatures with
 | error failure => simp [bind,Except.bind]
 | ok signatures =>
   rw [ok_bind]
   cases h : canonicalize services.shortest
    (.object (envelopeFields toJson envelope signatures)) <;>
    simp [Except.mapError,h]

end

section

structure Checked (services:ApprovalServices) (input:ConsumeGrantInput)
  (first:EnvelopeSignature) : Prop where
 keyId : first.keyId=input.brokerKeyId
 algorithm : first.algorithm=.ed25519
 certificate : isObjectDigest first.signerCertificateObjectDigest=true
 payload : payloadDigest services input.grant.schemaName input.grant.schemaVersion
  input.grant.payload.toJson=.ok input.grant.payloadDigest
 signed : ∃digest,signatureInputDigest services input.grant first=.ok digest ∧
  services.verify digest (fromBase64 first.signature)=true
 unexpired : unitsLe input.grant.payload.expiresAt input.now=false
 binding : input.grant.payload.binding=grantBindingForSubject input.subject
 subject : approvalObjectDigest services (js "ApprovalSubject") input.subject.toJson =
  .ok input.grant.payload.subjectObjectDigest
 action : input.expectedAction.any (·≠input.grant.payload.binding.action)=false
 mode : input.expectedPromotionMode.any (!modeMatches input.subject ·)=false

lemma refuse_ok_iff {reason:String} {condition:Bool} :
  refuse reason condition=.ok () ↔ condition=false := by
 cases condition <;> simp [refuse]

lemma onlySignature_ok_iff {envelope:ArtifactEnvelope ApprovalGrant} :
  onlySignature envelope=.ok first ↔ envelope.signatures=[first] := by
 unfold onlySignature
 split <;> simp_all

lemma sortSignatures_singleton :
  sortSignatures [first]=.ok [first] := by
 simp [sortSignatures]

variable {input:ConsumeGrantInput} {digest:JsString}

lemma grantDigest_ok_iff :
  grantDigest services input=.ok digest ↔
   ∃first text,input.grant.signatures=[first] ∧ Checked services input first ∧
     canonicalize services.shortest (.object (envelopeFields ApprovalGrant.toJson input.grant
      input.grant.signatures))=.ok text ∧ sha256Utf8 services text=digest := by
 simp only [grantDigest,verifyEnvelopeSignature,bind_ok_iff,Unique.exists_iff,
  PUnit.default_eq_unit,refuse_ok_iff,onlySignature_ok_iff,envelopeObjectDigest_ok_iff]
 constructor
 · rintro ⟨⟨first,hfirst,hkey,hcert,payload,hpay,hsame,signed,hsign,hverifies⟩,
    hexpires,hbind,subject,hsubject,hsubjectSame,hact,hmode,signatures,text,hsorted,htext,hhash⟩
   simp only [Bool.or_eq_false_iff,decide_eq_false_iff_not,not_not,Bool.not_eq_false']
    at hkey hcert hsame hverifies hbind hsubjectSame
   subst hsame hsubjectSame
   rw [hfirst,sortSignatures_singleton] at hsorted
   obtain rfl:=ok.inj hsorted
   exact ⟨first,text,hfirst,⟨hkey.1,hkey.2,hcert,hpay,⟨signed,hsign,hverifies⟩,
    hexpires,hbind,hsubject,hact,hmode⟩,hfirst ▸ htext,hhash⟩
 · rintro ⟨first,text,hfirst,h,htext,hhash⟩
   obtain ⟨signed,hsign,hverifies⟩:=h.signed
   refine ⟨⟨first,hfirst,by simp [h.keyId,h.algorithm],by simp [h.certificate],_,h.payload,
    by simp,signed,hsign,by simp [hverifies]⟩,h.unexpired,by simp [h.binding],_,h.subject,
    by simp,h.action,h.mode,[first],text,?_,hfirst ▸ htext,hhash⟩
   rw [hfirst,sortSignatures_singleton]

lemma canonicalDigest_ok_iff {value:JsonValue} :
  canonicalDigest services value=.ok digest ↔
   ∃text,canonicalize services.shortest value=.ok text ∧
     sha256Utf8 services text=digest := by
 unfold canonicalDigest
 cases canonicalize services.shortest value <;> simp

def grantKey (services:ApprovalServices) (input:ConsumeGrantInput) : Option JsString :=
 (grantDigest services input).toOption

lemma grantKey_eq_some_iff :
  grantKey services input=some digest ↔ grantDigest services input=.ok digest := by
 unfold grantKey
 cases grantDigest services input <;> simp [Except.toOption]

lemma consumed_eq_admitted (registry:GrantConsumptionRegistry)
  (inputs:List ConsumeGrantInput) :
  consumed services registry inputs=admitted (grantKey services) registry inputs := by
 induction inputs generalizing registry with
 | nil => rfl
 | cons input inputs ih =>
   rw [consumed,admitted,consumeGrant,grantKey]
   cases grantDigest services input with
   | error failure => exact ih registry
   | ok digest =>
     by_cases hused : digest∈registry
     · simp [GrantConsumptionRegistry.consume,hused,bind,Except.bind,Except.toOption,ih]
     · simp [GrantConsumptionRegistry.consume,hused,bind,Except.bind,pure,Except.pure,
        Except.toOption,ih]

lemma sameEnvelope_of_grantKey (hsha:Function.Injective services.sha256)
  {other:ConsumeGrantInput} (h:grantKey services input=some digest)
  (h':grantKey services other=some digest) :
  SameEnvelope services.shortest input.grant other.grant := by
 obtain ⟨-,text,-,-,htext,hhash⟩:=grantDigest_ok_iff.mp (grantKey_eq_some_iff.mp h)
 obtain ⟨-,text',-,-,htext',hhash'⟩:=grantDigest_ok_iff.mp (grantKey_eq_some_iff.mp h')
 obtain rfl:=text_eq_of_hash hsha htext htext' (hhash.trans hhash'.symm)
 obtain ⟨hpayload,hdigest,hname,hversion,hsignatures⟩:=fields_of_text whole_grant htext htext'
 exact ⟨hname,hversion,grant_eq_of_sortKeys hpayload,hdigest,hsignatures⟩

/-- Signature objects with distinct keys and whole numbers are told apart by the digest. -/
lemma signature_of_grantKey (hsha:Function.Injective services.sha256)
  {other:ConsumeGrantInput} {first':EnvelopeSignature}
  (h:grantKey services input=some digest) (h':grantKey services other=some digest)
  (hfirst:input.grant.signatures=[first]) (hfirst':other.grant.signatures=[first'])
  (hwhole:Whole first.toJson) (hwhole':Whole first'.toJson) :
  sortKeys first.toJson=sortKeys first'.toJson := by
 have hsame:=(sameEnvelope_of_grantKey hsha h h').signatures
 obtain ⟨-,text,-,-,htext,-⟩:=grantDigest_ok_iff.mp (grantKey_eq_some_iff.mp h)
 obtain ⟨_,_,_,_,signed,-,-,-,-,hsigned,-⟩:=envelope_text htext
 rw [hsigned,hfirst'] at hsame
 rw [hfirst] at hsigned
 have hsort:=sortKeys_eq_of_canonicalize (.array _ (forall_mem_singleton.mpr hwhole))
  (.array _ (forall_mem_singleton.mpr hwhole')) hsigned hsame.symm
 exact (cons.inj (JsonValue.array.inj hsort)).1

lemma grantKey_congr {other:ConsumeGrantInput} {digest':JsString}
  (h:grantKey services input=some digest) (h':grantKey services other=some digest')
  (hsame:SameEnvelope services.shortest input.grant other.grant) :
  grantKey services input=grantKey services other := by
 obtain ⟨-,text,-,-,htext,hhash⟩:=grantDigest_ok_iff.mp (grantKey_eq_some_iff.mp h)
 obtain ⟨-,text',-,-,htext',hhash'⟩:=grantDigest_ok_iff.mp (grantKey_eq_some_iff.mp h')
 rw [hsame.text_eq,htext',ok.injEq] at htext
 rw [h,h',← hhash,← hhash',htext]

end

def Usable (services:ApprovalServices) (registry:GrantConsumptionRegistry)
    (input:ConsumeGrantInput) : Prop :=
 ∃digest,grantDigest services input=.ok digest ∧ digest ∉ registry

/-- The call with another text for the signature and other keys beside those of the contract. -/
def resign (input:ConsumeGrantInput) (text:JsString) (others:Fields) : ConsumeGrantInput :=
 { input with grant:={ input.grant with
   signatures:=input.grant.signatures.map fun first=>
    { first with signature:=text, others:=others } } }

lemma writable_envelope_iff (envelope:ArtifactEnvelope ApprovalGrant)
  (first:EnvelopeSignature) {shortest:ℚ → JsString} :
  Writable shortest (.object (envelopeFields ApprovalGrant.toJson envelope [first])) ↔
   (Writable shortest (.string envelope.schemaName) ∧
    Writable shortest (number envelope.schemaVersion) ∧
    Writable shortest envelope.payload.toJson ∧
    Writable shortest (.string envelope.payloadDigest) ∧
    Writable shortest (.string first.keyId) ∧ Writable shortest (.string first.algorithm.text) ∧
    Writable shortest (.string first.signedAt) ∧
    Writable shortest (.string first.signerCertificateObjectDigest)) ∧
   unpairedSurrogate first.signature=false ∧
   ∀field∈first.others,unpairedSurrogate field.1=false ∧ Writable shortest field.2 := by
 have hkeys:∀key∈[js "schemaName",js "schemaVersion",js "payload",js "payloadDigest",
   js "signatures",js "keyId",js "algorithm",js "signedAt",js "signerCertificateObjectDigest",
   js "signature"],unpairedSurrogate key=false := by decide
 simp only [forall_mem_cons,not_mem_nil,false_implies,implies_true,and_true] at hkeys
 rw [show unpairedSurrogate first.signature=false ↔ Writable shortest (.string first.signature)
  from writable_string.symm]
 simp only [envelopeFields,map_cons,map_nil,forall_mem_cons,not_mem_nil,false_implies,implies_true,
  and_true,writable_object,writable_array,EnvelopeSignature.toJson,EnvelopeSignature.fields,
  cons_append,nil_append,hkeys,true_and,and_assoc]

lemma resign_iff (hverify:∀message bytes bytes',services.verify message bytes=true →
   services.verify message bytes'=true → bytes=bytes') {input:ConsumeGrantInput}
  {digest:JsString} (h:grantDigest services input=.ok digest)
  (hfirst:input.grant.signatures=[first]) (text:JsString) (others:Fields) :
  (∃digest',grantDigest services (resign input text others)=.ok digest') ↔
   fromBase64 text=fromBase64 first.signature ∧ unpairedSurrogate text=false ∧
    ∀field∈others,unpairedSurrogate field.1=false ∧ Writable services.shortest field.2 := by
 obtain ⟨first',written,hfirst',hchecked,hwritten,-⟩:=grantDigest_ok_iff.mp h
 obtain rfl : first'=first:=(cons.inj (hfirst'.symm.trans hfirst)).1
 obtain ⟨signed,hsigned,hverified⟩:=hchecked.signed
 have hsignatures:(resign input text others).grant.signatures =
   [{ first' with signature:=text, others:=others }] := by
  rw [resign,hfirst]
  rfl
 constructor
 · rintro ⟨digest',h'⟩
   obtain ⟨other,written',hother,hchecked',hwritten',-⟩:=grantDigest_ok_iff.mp h'
   obtain rfl:=(cons.inj (hother.symm.trans hsignatures)).1
   obtain ⟨signed',hsigned',hverified'⟩:=hchecked'.signed
   obtain rfl : signed=signed':=ok.inj (hsigned.symm.trans hsigned')
   rw [hsignatures] at hwritten'
   exact ⟨hverify signed _ _ hverified' hverified,
    ((writable_envelope_iff _ _).mp ⟨written',hwritten'⟩).2⟩
 · rintro ⟨hbytes,htext⟩
   -- Only the signature object is another one, so the envelope has a canonical text as before.
   rw [hfirst] at hwritten
   obtain ⟨written',hwritten'⟩:=(writable_envelope_iff (resign input text others).grant
    { first' with signature:=text, others:=others }).mpr
     ⟨((writable_envelope_iff _ _).mp ⟨written,hwritten⟩).1,htext⟩
   refine ⟨_,grantDigest_ok_iff.mpr ⟨_,written',hsignatures,?_,hsignatures ▸ hwritten',rfl⟩⟩
   exact { hchecked with signed:=⟨signed,hsigned,hbytes ▸ hverified⟩ }

/-- No grant is consumed twice exactly when no two usable calls bring one payload in different
envelopes. Of the envelopes that differ in the text of the signature and in keys outside of the
contract, those are accepted whose text reads as the same bytes and that have a canonical text. -/
theorem grant_consumed_once_iff (services:ApprovalServices)
  (hsha:Function.Injective services.sha256)
  (hverify:∀message bytes bytes',services.verify message bytes=true →
   services.verify message bytes'=true → bytes=bytes') :
  (∀registry inputs,(consumed services registry inputs).Pairwise
    (fun a b=>a.grant.payload≠b.grant.payload) ↔
   ∀a∈inputs,∀b∈inputs,Usable services registry a → Usable services registry b →
     a.grant.payload=b.grant.payload → SameEnvelope services.shortest a.grant b.grant) ∧
  ∀input first digest,grantDigest services input=.ok digest →
    input.grant.signatures=[first] → ∀text others,
    ((∃digest',grantDigest services (resign input text others)=.ok digest') ↔
      fromBase64 text=fromBase64 first.signature ∧ unpairedSurrogate text=false ∧
       ∀field∈others,unpairedSurrogate field.1=false ∧ Writable services.shortest field.2) := by
 refine ⟨fun registry inputs=>?_,fun _ _ _ h hfirst=>resign_iff hverify h hfirst⟩
 have hkind:∀(a b:ConsumeGrantInput) (k:JsString),grantKey services a=some k →
   grantKey services b=some k → a.grant.payload=b.grant.payload :=
  fun a b k ha hb=>(sameEnvelope_of_grantKey hsha ha hb).payload
 rw [consumed_eq_admitted]
 refine (admitted_classes_iff (fun a:ConsumeGrantInput=>a.grant.payload) hkind).trans ?_
 simp only [Usable,← grantKey_eq_some_iff]
 constructor
 · intro h a ha b hb hfresh hfresh' hsame
   have hkey:=h a ha b hb hfresh hfresh' hsame
   obtain ⟨k,hk,-⟩:=hfresh
   exact sameEnvelope_of_grantKey hsha hk (hkey ▸ hk)
 · intro h a ha b hb hfresh hfresh' hsame
   have henvelope:=h a ha b hb hfresh hfresh' hsame
   obtain ⟨k,hk,-⟩:=hfresh
   obtain ⟨k',hk',-⟩:=hfresh'
   exact grantKey_congr hk hk' henvelope

def sampleServices : ApprovalServices where
 sha256 bytes := 0x100::bytes.map (·.toUInt16)
 shortest _ := []
 paired _ := rfl
 verify _ bytes := bytes=[0]

def sampleSubject : ApprovalSubject := ⟨.projectTrust,[]⟩

def sampleGrant : ApprovalGrant where
 approvalId := []
 projectId := []
 principalId := []
 challengeObjectDigest := []
 approvalDecisionObjectDigest := []
 subjectObjectDigest := ((approvalObjectDigest sampleServices (js "ApprovalSubject")
  sampleSubject.toJson).toOption).getD []
 policyObjectDigest := []
 issuedAt := []
 expiresAt := js "2"
 binding := .project .projectTrust

def sampleSignature : EnvelopeSignature :=
 ⟨js "broker",.ed25519,[],js "sha256:"++List.replicate 64 0x30,js "AA==",[]⟩

def sampleCall : ConsumeGrantInput where
 grant :=
  { schemaName:=js "ApprovalGrant"
    schemaVersion:=1
    payload:=sampleGrant
    payloadDigest:=((payloadDigest sampleServices (js "ApprovalGrant") 1
     sampleGrant.toJson).toOption).getD []
    signatures:=[sampleSignature] }
 brokerKeyId := js "broker"
 subject := sampleSubject
 now := js "1"
 expectedAction := none
 expectedPromotionMode := none

lemma sampleServices_injective : Function.Injective sampleServices.sha256 := by
 intro bytes bytes' h
 refine map_injective_iff.mpr (fun a b h=>?_) (cons.inj h).2
 have hvalue:=congrArg UInt16.toNat h
 exact UInt8.toNat_inj.mp hvalue

lemma sampleServices_ideal (message:JsString) (bytes bytes':List UInt8)
  (h:sampleServices.verify message bytes=true)
  (h':sampleServices.verify message bytes'=true) : bytes=bytes' :=
 (of_decide_eq_true h).trans (of_decide_eq_true h').symm

lemma sampleServices_paired (bytes:List UInt8) :
  unpairedSurrogate (sampleServices.sha256 bytes)=false := by
 refine unpairedSurrogate_eq_false fun unit hunit=>?_
 have hbelow:unit.toNat ≤ 0x100 := by
  rcases mem_cons.mp hunit with rfl | hunit
  · decide
  · obtain ⟨byte,-,rfl⟩:=mem_map.mp hunit
    exact byte.toNat_lt.le
 simp only [isLead,isTrail,Bool.and_eq_false_iff,decide_eq_false_iff_not,UInt16.not_le,
  UInt16.lt_iff_toNat_lt]
 exact ⟨.inl (by simpa using by omega),.inl (by simpa using by omega)⟩

def Written (result:Approval JsString) : Prop :=
 ∃digest,result=.ok digest ∧ unpairedSurrogate digest=false

section

variable (hpaired:∀bytes,unpairedSurrogate (services.sha256 bytes)=false)
include hpaired

lemma written_canonicalDigest {value:JsonValue} (h:Writable services.shortest value) :
  Written (canonicalDigest services value) := by
 obtain ⟨text,htext⟩:=h
 exact ⟨_,canonicalDigest_ok_iff.mpr ⟨text,htext,rfl⟩,hpaired _⟩

lemma written_taggedHash {domain:JsString} {payload:JsonValue}
  (hdomain:unpairedSurrogate domain=false) (h:Writable services.shortest payload) :
  Written (taggedHash services domain 1 payload) := by
 refine written_canonicalDigest hpaired (writable_record (of_decide_eq_true rfl) ?_)
 simp only [forall_mem_cons]
 exact ⟨writable_string.mpr hdomain,writable_number (by decide),h,by simp⟩

lemma written_payloadDigest {schemaName:JsString} {payload:JsonValue}
  (hname:unpairedSurrogate schemaName=false) (h:Writable services.shortest payload) :
  Written (payloadDigest services schemaName 1 payload) := by
 refine written_taggedHash hpaired (by decide) (writable_record (of_decide_eq_true rfl) ?_)
 simp only [forall_mem_cons]
 exact ⟨writable_string.mpr hname,writable_number (by decide),h,by simp⟩

end

lemma sampleCall_usable : Usable sampleServices [] sampleCall := by
 have hwritten:∀{text},unpairedSurrogate text=false →
   Writable sampleServices.shortest (.string text):=writable_string.mpr
 have hone:Writable sampleServices.shortest (number 1):=writable_number (by decide)
 have hempty:=hwritten (rfl:unpairedSurrogate []=false)
 obtain ⟨subject,hsubject,hsubjectText⟩ : Written (approvalObjectDigest sampleServices
   (js "ApprovalSubject") sampleSubject.toJson) := by
  refine written_payloadDigest sampleServices_paired (by decide) (writable_record (by decide) ?_)
  simp only [sampleSubject,SubjectKind.fields,cons_append,nil_append,forall_mem_cons]
  exact ⟨hone,hwritten (by decide),by simp⟩
 have hgrant:sampleGrant.subjectObjectDigest=subject := by
  simp [sampleGrant,hsubject,Except.toOption]
 have hsubjectDigest:unpairedSurrogate sampleGrant.subjectObjectDigest=false:=hgrant ▸ hsubjectText
 have hpayloadJson:Writable sampleServices.shortest sampleGrant.toJson := by
  refine writable_record (by decide) ?_
  simp only [ApprovalGrant.fields,sampleGrant,GrantBinding.fields,cons_append,nil_append,
   forall_mem_cons]
  exact ⟨hone,hempty,hempty,hempty,hempty,hempty,hwritten hsubjectDigest,hempty,hempty,
   hwritten (by decide),hwritten (by decide),hwritten (by decide),by simp⟩
 obtain ⟨payload,hpayload,hpayloadText⟩:=written_payloadDigest sampleServices_paired
  (by decide:unpairedSurrogate (js "ApprovalGrant")=false) hpayloadJson
 have hcall:sampleCall.grant.payloadDigest=payload := by
  simp [sampleCall,hpayload,Except.toOption]
 have hdigest:unpairedSurrogate sampleCall.grant.payloadDigest=false:=hcall ▸ hpayloadText
 obtain ⟨signed,hsigned,-⟩ : Written (signatureInputDigest sampleServices sampleCall.grant
   sampleSignature) := by
  refine written_taggedHash sampleServices_paired (by decide) (writable_record (by decide) ?_)
  simp only [forall_mem_cons]
  exact ⟨hwritten (by decide),hone,hwritten hdigest,hwritten (by decide),hwritten (by decide),
   hwritten (by decide),hwritten (by decide),by simp⟩
 obtain ⟨text,htext⟩:=(writable_envelope_iff sampleCall.grant sampleSignature).mpr
  ⟨⟨hwritten (by decide),hone,hpayloadJson,hwritten hdigest,hwritten (by decide),
    hwritten (by decide),hwritten (by decide),hwritten (by decide)⟩,by decide,by
    simp [sampleSignature]⟩
 have hbytes:decide (fromBase64 (js "AA==")=[0])=true := by decide
 exact ⟨_,grantDigest_ok_iff.mpr ⟨sampleSignature,text,rfl,
  ⟨rfl,rfl,by decide,hcall ▸ hpayload,⟨signed,hsigned,hbytes⟩,
   by decide,rfl,hgrant ▸ hsubject,rfl,rfl⟩,htext,rfl⟩,not_mem_nil⟩

theorem grant_consumed_once_iff_sample :
  (consumed sampleServices [] [sampleCall,sampleCall]).Pairwise
   (fun a b=>a.grant.payload≠b.grant.payload) := by
 refine ((grant_consumed_once_iff sampleServices sampleServices_injective
  sampleServices_ideal).1 _ _).mpr ?_
 intro a ha b hb _ _ _
 simp only [List.mem_cons,List.not_mem_nil,or_false,or_self] at ha hb
 rw [ha,hb]
 exact ⟨rfl,rfl,rfl,rfl,rfl⟩

/-- The call once more, with a line break behind the text of the signature or with one more key in
the signature object. -/
def repeatedCalls : List ConsumeGrantInput :=
 [resign sampleCall (js "AA=="++[0x0A]) [],resign sampleCall (js "AA==") [(js "note",.null)]]

theorem grant_consumed_twice : repeatedCalls.Forall fun again=>
  again.grant.payload=sampleCall.grant.payload ∧
   consumed sampleServices [] [sampleCall,again]=[sampleCall,again] := by
 obtain ⟨digest,hdigest,-⟩:=sampleCall_usable
 have hkey:=grantKey_eq_some_iff.mpr hdigest
 have htwice:∀again digest',grantDigest sampleServices again=.ok digest' → digest'≠digest →
   consumed sampleServices [] [sampleCall,again]=[sampleCall,again] := by
  intro again digest' h hne
  rw [consumed_eq_admitted,admitted,hkey]
  simp [admitted,grantKey_eq_some_iff.mpr h,hne]
 have hwhole:∀text,Whole (EnvelopeSignature.toJson { sampleSignature with signature:=text }) := by
  refine fun text=>.object _ (of_decide_eq_true rfl) ?_
  simp [sampleSignature,EnvelopeSignature.fields,Whole.string]
 refine ⟨⟨rfl,?_⟩,rfl,?_⟩
 · obtain ⟨digest',hdigest'⟩:=(resign_iff sampleServices_ideal hdigest rfl (js "AA=="++[0x0A])
    []).mpr ⟨by decide,by decide,by simp⟩
   refine htwice _ digest' hdigest' ?_
   rintro rfl
   have hsort:=signature_of_grantKey sampleServices_injective hkey
    (grantKey_eq_some_iff.mpr hdigest') rfl rfl (hwhole _) (hwhole _)
   exact absurd (text_eq_of_sortKeys (by decide) hsort 4 rfl rfl) (by decide)
 · obtain ⟨digest',hdigest'⟩:=(resign_iff sampleServices_ideal hdigest rfl (js "AA==")
    [(js "note",.null)]).mpr ⟨by decide,by decide,forall_mem_singleton.mpr ⟨by decide,_,rfl⟩⟩
   refine htwice _ digest' hdigest' ?_
   rintro rfl
   have hsort:=signature_of_grantKey sampleServices_injective hkey
    (grantKey_eq_some_iff.mpr hdigest') rfl rfl (hwhole _) (.object _ (by decide) (by
     simp [sampleSignature,EnvelopeSignature.fields,Whole.string,Whole.null]))
   obtain ⟨_,hmem,-⟩:=exists_field_of_sortKeys hsort.symm
    (mem_append_right _ (mem_singleton_self (js "note",JsonValue.null)))
   have hkeys:js "note"∈sampleSignature.fields.map (·.1):=mem_map_of_mem hmem
   exact absurd hkeys (by decide)

end EpistemicCompiler.GrantConsumption
