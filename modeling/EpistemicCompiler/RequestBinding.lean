import EpistemicCompiler.LabelledLines
import EpistemicCompiler.RequestFreshness
import EpistemicCompiler.TextEncodings

set_option autoImplicit false

/-!
# What a request signature binds

The signature is over a document of labelled lines, one for each covered component. The bytes of
that document give back the characters of the components, and the digest among them gives back the
body.
-/
namespace EpistemicCompiler.RequestBinding
open JsValues CanonicalJson Base64Text TextEncodings SignedRequests LabelledLines FallibleRuns
 RequestFreshness List

variable {κ:Type} {services:RequestServices κ}

variable (body:List UInt8) {params:SignatureParams}

section Characters

def Plain (text:JsString) : Prop := ∀unit∈text,isLead unit=false ∧ isTrail unit=false

instance (text:JsString) : Decidable (Plain text) :=
 List.decidableBAll (fun unit=>isLead unit=false ∧ isTrail unit=false) text

variable {text:JsString}

lemma scalars_append (h:∀unit∈text,isLead unit=false)
  (rest:JsString) : scalars (text++rest)=text.map scalarOf++scalars rest := by
 induction text with
 | nil => rfl
 | cons unit text ih =>
   rw [cons_append,scalars_cons (h unit mem_cons_self),map_cons,
    cons_append,ih fun other hother=>h other (mem_cons_of_mem _ hother)]

lemma scalars_plain (h:Plain text) (rest:JsString) :
  scalars (text++rest)=scalars text++scalars rest := by
 have hlead:∀unit∈text,isLead unit=false:=fun unit hunit=>(h unit hunit).1
 rw [scalars_append hlead]
 simpa [scalars] using (scalars_append hlead []).symm

lemma newline_mem_of_scalars (h : '\n'∈scalars text) : 0x0A∈text := by
 have hcount:(scalars text).count '\n'=text.count 0x0A :=
  count_scalars (by decide:(0x0A : UInt16)<0x80) text
 rwa [← count_pos_iff,hcount,count_pos_iff] at h

lemma eq_of_scalars {left right:Option JsString} (h:left.map scalars=right.map scalars)
  (hleft:∀value∈left,unpairedSurrogate value=false)
  (hright:∀value∈right,unpairedSurrogate value=false) : left=right := by
 cases left with
 | none => exact (Option.map_eq_none_iff.mp h.symm).symm
 | some value =>
   cases right with
   | none => cases h
   | some value' =>
     exact congrArg some
      (scalars_injective (hleft value rfl) (hright value' rfl) (Option.some.inj h))

end Characters

section Bases

def boundComponents : List JsString :=
 mutationSignatureComponents++[js "if-match",js "content-range"]

def baseMarks : Marks Char := ⟨'"','\n',[':',' ']⟩

def paramsLabel : List Char := "@signature-params".toList

variable {message : MutationMessage}

def entries (services : RequestServices κ) (message : MutationMessage) (covered : List JsString) :
    List (List Char × List Char) :=
 covered.map fun component =>
  (scalars component,scalars ((componentValue services message component).getD []))

theorem boundComponents_plain : ∀ component ∈ boundComponents,
  Plain component ∧ sfString component = [0x22] ++ component ++ [0x22] ∧
   '"' ∉ scalars component ∧ scalars component≠paramsLabel := by
 decide

lemma coveredFor_subset : ∀component∈coveredFor services message,
  component∈boundComponents := by
 intro component hmem
 simp only [coveredFor,mem_append,or_assoc] at hmem
 rw [boundComponents,mem_append]
 rcases hmem with hmem | hmem | hmem
 · exact .inl hmem
 · split_ifs at hmem
   · exact .inr (by simp_all)
   · cases hmem
 · split_ifs at hmem
   · exact .inr (by simp_all)
   · cases hmem

variable {component:JsString} {covered:List JsString}

lemma line_scalars {value:JsString} (h:component∈boundComponents) :
  scalars (sfString component++js ": "++value) =
   line baseMarks (scalars component) (scalars value) := by
 obtain ⟨hplain,hquoted,-,-⟩:=boundComponents_plain component h
 have hquote:Plain [0x22] := by decide
 have hmiddle:Plain (js ": ") := by decide
 rw [hquoted,append_assoc,append_assoc,append_assoc,scalars_plain hquote,
  scalars_plain hplain,scalars_plain hquote,scalars_plain hmiddle]
 rfl

lemma base_scalars {lines:List JsString} (text:JsString)
  (hcovered:∀component∈covered,component∈boundComponents)
  (hlines:covered.mapM (componentLine services message)=some lines) :
  scalars ([0x0A].intercalate (lines++[js "\"@signature-params\": "++text])) =
   document baseMarks paramsLabel (entries services message covered) (scalars text) := by
 induction covered generalizing lines with
 | nil =>
   obtain rfl : []=lines := by simpa using hlines
   have hplain:Plain (js "\"@signature-params\": ") := by decide
   rw [nil_append,intercalate_singleton,scalars_plain hplain]
   rfl
 | cons component covered ih =>
   simp only [mapM_cons,Option.bind_eq_bind,Option.bind_eq_some_iff,Option.pure_def,
    Option.some.injEq] at hlines
   obtain ⟨first,hfirst,rest,hrest,rfl⟩:=hlines
   simp only [componentLine,Option.bind_eq_bind,Option.bind_eq_some_iff,Option.pure_def,
    Option.some.injEq] at hfirst
   obtain ⟨value,hvalue,rfl⟩:=hfirst
   have hnext:=ih (fun other hother=>hcovered other (mem_cons_of_mem _ hother)) hrest
   rw [cons_append,intercalate_cons_of_ne_nil (by simp),append_assoc,
    singleton_append,scalars_append_cons (by decide),scalars_cons (by decide),hnext,
    line_scalars (hcovered component mem_cons_self)]
   simp only [entries,map_cons,document,hvalue]
   rfl

lemma componentValue_isSome {lines:List JsString}
  (hlines:covered.mapM (componentLine services message)=some lines) :
  ∀component∈covered,∃value,componentValue services message component=some value := by
 induction covered generalizing lines with
 | nil => exact fun component h=>absurd h not_mem_nil
 | cons first covered ih =>
   simp only [mapM_cons,Option.bind_eq_bind,Option.bind_eq_some_iff] at hlines
   obtain ⟨line,hline,rest,hrest,-⟩:=hlines
   intro component hmem
   rcases mem_cons.mp hmem with rfl | hmem
   · simp only [componentLine,Option.bind_eq_bind,Option.bind_eq_some_iff] at hline
     obtain ⟨value,hvalue,-⟩:=hline
     exact ⟨value,hvalue⟩
   · exact ih hrest component hmem

def OneLine (services:RequestServices κ) (message:MutationMessage) : Prop :=
 ∀component∈boundComponents,∀value,componentValue services message component=some value →
   0x0A ∉ value

lemma entries_readable (hcovered:∀component∈covered,component∈boundComponents)
  (hline:OneLine services message) :
  ∀entry∈entries services message covered,Readable baseMarks paramsLabel entry := by
 intro entry hentry
 obtain ⟨component,hmem,rfl⟩:=mem_map.mp hentry
 obtain ⟨-,-,hquote,hlabel⟩:=boundComponents_plain component (hcovered component hmem)
 refine ⟨hquote,hlabel,fun hstop=>?_⟩
 cases hvalue : componentValue services message component with
 | none =>
   rw [hvalue] at hstop
   cases hstop
 | some value =>
   rw [hvalue] at hstop
   exact hline component (hcovered component hmem) value hvalue (newline_mem_of_scalars hstop)

lemma base_of_some {base:JsString} (hcovered:params.covered=coveredFor services message)
  (h:buildSignatureBase services message params=some base) :
  scalars base=document baseMarks paramsLabel
    (entries services message (coveredFor services message))
    (scalars (signatureParamsInner services params)) ∧
   ∀component∈coveredFor services message,
     ∃value,componentValue services message component=some value := by
 simp only [buildSignatureBase,Option.bind_eq_bind,Option.bind_eq_some_iff,Option.pure_def,
  Option.some.injEq,hcovered] at h
 obtain ⟨lines,hlines,rfl⟩:=h
 exact ⟨base_scalars _ coveredFor_subset hlines,componentValue_isSome hlines⟩

def headerComponents : List JsString :=
 [js "content-digest",js "content-type",js "content-length",js "operation-id",
  js "x-hec-issued-at",js "x-hec-expires-at",js "x-hec-nonce",js "if-match",js "content-range"]

lemma componentValue_header (h:component∈headerComponents) :
  componentValue services message component =
   headerLookup services message.headers component := by
 have hnames:∀name∈headerComponents,
   name≠js "@method" ∧ name≠js "@authority" ∧ name≠js "@target-uri" := by decide
 obtain ⟨hmethod,hauth,htarget⟩:=hnames component h
 rw [componentValue,if_neg hmethod,if_neg hauth,if_neg htarget]

lemma componentValue_of_not_covered (hcomponent:component∈boundComponents)
  (h:component ∉ coveredFor services message) :
  componentValue services message component=none := by
 have habs:∀{name:JsString},name ∉ (if (headerLookup services message.headers name).isSome
   then [name] else []) → headerLookup services message.headers name=none := by
  intro name hname
  cases hvalue : headerLookup services message.headers name with
  | none => rfl
  | some value => simp [hvalue] at hname
 simp only [coveredFor,mem_append,not_or] at h
 rw [boundComponents,mem_append] at hcomponent
 rcases hcomponent with hcomponent | hcomponent
 · exact absurd hcomponent h.1.1
 · obtain rfl | rfl : component=js "if-match" ∨ component=js "content-range" := by
    simpa using hcomponent
   · exact habs h.1.2
   · exact habs h.2

lemma covered_of_entries {other:MutationMessage}
  (hentries:entries services message (coveredFor services message) =
   entries services other (coveredFor services other))
  (hsome:∀component∈coveredFor services message,
   ∃value,componentValue services message component=some value)
  (hsome':∀component∈coveredFor services other,
   ∃value,componentValue services other component=some value)
  (h:component∈coveredFor services message) :
  (componentValue services message component).map scalars =
   (componentValue services other component).map scalars := by
 have hentry:=mem_map_of_mem (f:=fun component=>
  (scalars component,scalars ((componentValue services message component).getD []))) h
 rw [show map _ _ = entries services message _ from rfl,hentries] at hentry
 obtain ⟨found,hfound,heq⟩:=mem_map.mp hentry
 obtain ⟨hname,hval⟩:=Prod.mk.inj heq
 have hplain:∀name,name∈boundComponents → unpairedSurrogate name=false:=fun name hname=>
  unpairedSurrogate_eq_false (boundComponents_plain name hname).1
 obtain rfl : found=component:=scalars_injective (hplain _ (coveredFor_subset _ hfound))
  (hplain _ (coveredFor_subset _ h)) hname
 obtain ⟨value,hvalue⟩:=hsome found h
 obtain ⟨value',hvalue'⟩:=hsome' found hfound
 rw [hvalue,hvalue'] at hval ⊢
 exact congrArg some hval.symm

lemma component_eq_of_base {other:MutationMessage} {params':SignatureParams}
  {base base':JsString} (hcovered:params.covered=coveredFor services message)
  (hcovered':params'.covered=coveredFor services other)
  (hbase:buildSignatureBase services message params=some base)
  (hbase':buildSignatureBase services other params'=some base')
  (hline:OneLine services message) (hline':OneLine services other) (h:utf8 base'=utf8 base) :
  (∀component∈boundComponents,(componentValue services message component).map scalars =
   (componentValue services other component).map scalars) ∧
  scalars (signatureParamsInner services params) =
   scalars (signatureParamsInner services params') := by
 obtain ⟨hchars,hsome⟩:=base_of_some hcovered hbase
 obtain ⟨hchars',hsome'⟩:=base_of_some hcovered' hbase'
 have hsame:=(scalars_eq_of_utf8 h).symm
 rw [hchars,hchars'] at hsame
 obtain ⟨hentries,hparam⟩:=document_injective (by decide)
  (entries_readable coveredFor_subset hline) (entries_readable coveredFor_subset hline') hsame
 refine ⟨fun component hcomponent=>?_, hparam⟩
 by_cases hmem : component∈coveredFor services message
 · exact covered_of_entries hentries hsome hsome' hmem
 · by_cases hmem' : component∈coveredFor services other
   · exact (covered_of_entries hentries.symm hsome' hsome hmem').symm
   · rw [componentValue_of_not_covered hcomponent hmem,
      componentValue_of_not_covered hcomponent hmem']

end Bases

lemma parseSignature_serializeSignature (bytes:List UInt8) :
  parseSignature (serializeSignature bytes)=some bytes := by
 have htrim:trim (sfByteSequence bytes)=sfByteSequence bytes := by
  simp [trim,sfByteSequence,isJsSpace]
 have hlabel:(signatureLabel++js "=").isPrefixOf (serializeSignature bytes)=true := by
  rw [serializeSignature, isPrefixOf_iff_prefix]
  exact prefix_append _ _
 have hdrop:(serializeSignature bytes).drop (signatureLabel++js "=").length =
   sfByteSequence bytes := by
  rw [serializeSignature,drop_left]
 have hlast:(sfByteSequence bytes).getLast?=some 0x3A:=getLast?_concat
 have hquoted:(sfByteSequence bytes).head?=some 0x3A &&
   (sfByteSequence bytes).getLast?=some 0x3A && 2 ≤ (sfByteSequence bytes).length := by
  rw [hlast]
  simp [sfByteSequence]
 have hinner:((sfByteSequence bytes).drop 1).dropLast=toBase64 bytes := by
  simp [sfByteSequence]
 rw [parseSignature,if_pos hlabel,hdrop,parseSfByteSequence,htrim,if_pos hquoted,hinner,
  fromBase64_toBase64]

lemma signature_of_ok {input:VerifyMutationInput κ}
  (h:verifyMutation services input=.ok params) :
  ∃header signature base,
    headerLookup services input.message.headers (js "signature")=some header ∧
    parseSignature header=some signature ∧
    params.covered=coveredFor services input.message ∧
    headerLookup services input.message.headers (js "content-digest") =
     some (contentDigestSha256 services input.message.body) ∧
    buildSignatureBase services input.message params=some base ∧
    services.verify input.publicKey params.alg (utf8 base) signature=true := by
 simp only [verifyMutation,bind_ok_iff,Unique.exists_iff,PUnit.default_eq_unit,present_ok_iff,
  demand_ok_iff,decide_eq_true_eq] at h
 obtain ⟨-,-,header,hhead,found,-,signature,hsig,-,hcovered,hdigest,-,-,-,-,-,
  -,-,-,-,-,-,-,-,-,-,base,hbase,hverified,hparam⟩ := h
 obtain rfl : found=params:=Except.ok.inj hparam
 exact ⟨header,signature,base,hhead,hsig,hcovered,hdigest,hbase,hverified⟩

lemma digest_plain (bytes:List UInt8) : Plain (contentDigestSha256 services bytes) := by
 intro unit hunit
 rw [contentDigestSha256,mem_append,mem_append,or_assoc] at hunit
 have hfixed:Plain (js "sha-256=:") ∧ Plain (js ":") := by decide
 rcases hunit with hunit | hunit | hunit
 · exact hfixed.1 unit hunit
 · have hlt:=toBase64_lt _ unit hunit
   have hlead:=isLead_iff unit
   have htrail:=isTrail_iff unit
   rw [Bool.eq_false_iff,Bool.eq_false_iff,ne_eq,ne_eq,hlead,htrail]
   omega
 · exact hfixed.2 unit hunit

structure Unbroken (message:MutationMessage) : Prop where
 method : 0x0A ∉ message.method
 authority : 0x0A ∉ message.authority
 targetUri : 0x0A ∉ message.targetUri
 headers : ∀header∈message.headers,0x0A ∉ header.2

lemma oneLine_of_unbroken {message:MutationMessage}
  (hcase:∀text,0x0A ∉ text → 0x0A ∉ services.toUpperCase text ∧ 0x0A ∉ services.toLowerCase text)
  (h:Unbroken message) : OneLine services message := by
 intro component _ value hvalue
 unfold componentValue at hvalue
 split_ifs at hvalue
 · obtain rfl:=Option.some.inj hvalue
   exact (hcase _ h.method).1
 · obtain rfl:=Option.some.inj hvalue
   exact (hcase _ h.authority).2
 · obtain rfl:=Option.some.inj hvalue
   exact h.targetUri
 · obtain ⟨header,hhead,rfl⟩:=Option.map_eq_some_iff.mp hvalue
   exact h.headers header (mem_of_find?_eq_some hhead)

/-- The request that is accepted is the one that has been signed: all components that a signature
can cover agree in their characters, and entirely if both texts are well formed. The body is the one
that the signed digest names. -/
structure SameRequest (services:RequestServices κ) (signed received:MutationMessage) : Prop where
 characters : ∀component∈boundComponents,
  (componentValue services signed component).map scalars =
   (componentValue services received component).map scalars
 texts : ∀component∈boundComponents,
  (∀value∈componentValue services signed component,unpairedSurrogate value=false) →
  (∀value∈componentValue services received component,unpairedSurrogate value=false) →
  componentValue services signed component=componentValue services received component
 digest : (headerLookup services signed.headers (js "content-digest")).map scalars =
  some (scalars (contentDigestSha256 services received.body))
 body : headerLookup services signed.headers (js "content-digest") =
  some (contentDigestSha256 services signed.body) → signed.body=received.body

/-- An ideal signature binds the request: whatever is accepted with the signature of a request is
that request. -/
theorem signature_binds_request (services:RequestServices κ)
  (sign:SignatureAlg → List UInt8 → List UInt8) (input:SignMutationInput)
  (signed:SignedMutation) (received:VerifyMutationInput κ) (params:SignatureParams)
  (hsigned:signMutation services sign input=some signed)
  (haccepted:verifyMutation services received=.ok params)
  (hsignature:(headerLookup services received.message.headers (js "signature")).bind
   parseSignature=parseSignature signed.signature)
  (hideal:∀base,buildSignatureBase services input.message (signMutationParams services input) =
   some base → ∀alg bytes,services.verify received.publicKey alg bytes
    (sign input.alg (utf8 base))=true → bytes=utf8 base)
  (hsha:Function.Injective services.sha256)
  (hcase:∀text,0x0A ∉ text → 0x0A ∉ services.toUpperCase text ∧ 0x0A ∉ services.toLowerCase text)
  (hsent:Unbroken input.message) (hreceived:Unbroken received.message) :
  SameRequest services input.message received.message ∧
   scalars (signatureParamsInner services signed.params) =
    scalars (signatureParamsInner services params) := by
 simp only [signMutation,Option.bind_eq_bind,Option.bind_eq_some_iff,Option.pure_def,
  Option.some.injEq] at hsigned
 obtain ⟨base,hbase,rfl⟩:=hsigned
 obtain ⟨header,signature,base',hheader,hparse,hcovered',hdigest,hbase',hverify⟩ :=
  signature_of_ok haccepted
 rw [hheader,Option.bind_some,hparse,parseSignature_serializeSignature] at hsignature
 obtain rfl:=Option.some.inj hsignature
 have hbytes:=hideal base hbase _ _ hverify
 obtain ⟨hcomponents,hparams⟩:=component_eq_of_base rfl hcovered' hbase hbase'
  (oneLine_of_unbroken hcase hsent) (oneLine_of_unbroken hcase hreceived) hbytes
 have hcharacters:(headerLookup services input.message.headers (js "content-digest")).map scalars =
   some (scalars (contentDigestSha256 services received.message.body)) := by
  have hmem:js "content-digest"∈boundComponents := by decide
  have hheaderMem:js "content-digest"∈headerComponents:=mem_cons_self
  have hvalue:=hcomponents _ hmem
  rw [componentValue_header hheaderMem,componentValue_header hheaderMem,hdigest] at hvalue
  exact hvalue
 refine ⟨⟨hcomponents,fun component hmem hleft hright=>?_, hcharacters,fun hown=>?_⟩,hparams⟩
 · exact eq_of_scalars (hcomponents component hmem) hleft hright
 · rw [hown,Option.map_some,Option.some.injEq] at hcharacters
   have hsame:=scalars_injective (unpairedSurrogate_eq_false (digest_plain _))
    (unpairedSurrogate_eq_false (digest_plain _)) hcharacters
   rw [contentDigestSha256,contentDigestSha256,append_assoc,append_assoc] at hsame
   exact hsha (toBase64_injective (append_cancel_right (append_cancel_left hsame)))

def plainServices : RequestServices Unit where
 toUpperCase := id
 toLowerCase := id
 dateParse := fun text=>some (digitsValue text*1000)
 sha256 := id
 shortest := fun _=>[]
 verify := fun _ _ text signature=>signature=text

def plainHeaders : Headers :=
 [(js "content-digest",contentDigestSha256 plainServices [1]),
   (js "content-type",js "application/octet-stream"),(js "content-length",js "1"),
   (js "operation-id",js "op"),(js "x-hec-issued-at",js "100"),(js "x-hec-expires-at",js "160"),
   (js "x-hec-nonce",sampleNonce)]

def plainRequest : SignMutationInput where
 message := ⟨js "POST",js "localhost",js "https://localhost/jobs",plainHeaders,body⟩
 keyid := js "runner"
 alg := .ed25519
 created := .finite 100
 expires := .finite 160
 nonce := sampleNonce

def plainReceived (signed:SignedMutation) : VerifyMutationInput Unit where
 message := ⟨js "POST",js "localhost",js "https://localhost/jobs",
  plainHeaders++[(js "signature-input",signed.signatureInput),
   (js "signature",signed.signature)],[1]⟩
 publicKey := ()
 nowSeconds := 110
 expectedKeyId := js "runner"

lemma plainServices_ideal (alg:SignatureAlg) (bytes signature:List UInt8)
  (h:plainServices.verify () alg bytes signature=true) : bytes=signature :=
 (of_decide_eq_true h).symm

lemma plain_unbroken {headers:Headers} (h:∀header∈headers,0x0A ∉ header.2) :
  Unbroken ⟨js "POST",js "localhost",js "https://localhost/jobs",headers,body⟩ := by
 have htexts:(0x0A ∉ js "POST") ∧ (0x0A ∉ js "localhost") ∧ 0x0A ∉ js "https://localhost/jobs" := by
  decide
 exact ⟨htexts.1,htexts.2.1,htexts.2.2,h⟩

lemma plainRequest_unbroken : Unbroken (plainRequest body).message :=
 plain_unbroken body (by decide)

lemma plainReceived_accepted :
  ∃signed params,signMutation plainServices (fun _ text=>text) (plainRequest body)=some signed ∧
    verifyMutation plainServices (plainReceived signed)=.ok params ∧
    Unbroken (plainReceived signed).message := by
 -- The body is not read by the signer.
 have hsigner:signMutation plainServices (fun _ text=>text) (plainRequest body) =
   signMutation plainServices (fun _ text=>text) (plainRequest []) := rfl
 have hcheck:((signMutation plainServices (fun _ text=>text) (plainRequest [])).any
   fun signed=>(verifyMutation plainServices (plainReceived signed)).isOk &&
    (plainReceived signed).message.headers.all fun header=>0x0A ∉ header.2)=true := by
  decide +kernel
 obtain ⟨signed,hsign,hcheck⟩:=(Option.any_eq_true _ _).mp hcheck
 rw [Bool.and_eq_true] at hcheck
 obtain ⟨params,hparam⟩:=exists_ok_of_isOk hcheck.1
 refine ⟨signed,params,hsigner.trans hsign,hparam,plain_unbroken [1] fun header hhead=>?_⟩
 exact of_decide_eq_true (all_eq_true.mp hcheck.2 header hhead)

theorem signature_binds_request_sample :
  ∃signed params,signMutation plainServices (fun _ text=>text) (plainRequest [1])=some signed ∧
    verifyMutation plainServices (plainReceived signed)=.ok params ∧
    SameRequest plainServices (plainRequest [1]).message (plainReceived signed).message := by
 obtain ⟨signed,params,hsigned,haccepted,hunbroken⟩:=plainReceived_accepted [1]
 refine ⟨signed,params,hsigned,haccepted,(signature_binds_request plainServices
  (fun _ text=>text) (plainRequest [1]) signed (plainReceived signed) params hsigned haccepted ?_
  (fun base _ alg bytes=>plainServices_ideal alg bytes _) Function.injective_id
  (fun _ h=>⟨h,h⟩) (plainRequest_unbroken [1]) hunbroken).1⟩
 rfl

/-- The request with one body is accepted with the signature of the request with another body, as
the signer takes the digest as it is given. -/
theorem accepted_with_other_body :
  Function.Injective plainServices.sha256 ∧
   (∀alg bytes signature,plainServices.verify () alg bytes signature=true →
    bytes=signature) ∧
   ∃signed params,
     signMutation plainServices (fun _ text=>text) (plainRequest [2])=some signed ∧
     verifyMutation plainServices (plainReceived signed)=.ok params ∧
     Unbroken (plainRequest [2]).message ∧ Unbroken (plainReceived signed).message ∧
     (plainRequest [2]).message.body≠(plainReceived signed).message.body := by
 obtain ⟨signed,params,hsigned,haccepted,hunbroken⟩:=plainReceived_accepted [2]
 exact ⟨Function.injective_id,plainServices_ideal,signed,params,hsigned,haccepted,
  plainRequest_unbroken [2],hunbroken,by simp [plainRequest,plainReceived]⟩

end EpistemicCompiler.RequestBinding
