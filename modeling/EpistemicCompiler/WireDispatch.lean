import EpistemicCompiler.GrantConsumption

set_option autoImplicit false

/-!
# One-shot dispatch

The adapter rebuilds the body from the conversation, compares digests and posts once. Only the
digest of the envelope of the wire request ties what it posts to the approval.
-/
namespace EpistemicCompiler.WireDispatch
open JsValues CanonicalJson CanonicalRoundTrip CanonicalRecords ApprovalGrants GrantConsumption
 List Function
open FallibleRuns

variable {digest:JsString}

section Model

structure Header where
 nameLowercase : JsString
 value : JsString

structure ProviderWireRequest where
 requestEnvelopeObjectDigest : JsString
 deploymentId : JsString
 adapterVersionObjectDigest : JsString
 endpointIdentity : JsString
 providerApiVersion : JsString
 modelRevision : JsString
 nonSecretHeaders : List Header
 bodyObjectDigest : JsString
 bodyByteSize : ℕ
 providerIdempotencyKey : JsString

/-- `document` is the whole payload as JSON. -/
structure CanonicalCloudRequest where
 deploymentId : JsString
 adapterVersionObjectDigest : JsString
 modelRevision : JsString
 document : JsonValue

structure DeploymentCapabilities where
 deploymentId : JsString
 adapterVersionObjectDigest : JsString
 modelRevision : JsString
 document : JsonValue

structure CloudDispatch where
 request : ArtifactEnvelope CanonicalCloudRequest
 conversation : ArtifactEnvelope JsonValue
 egressEndpointIdentity : JsString
 wireRequest : ArtifactEnvelope ProviderWireRequest

structure OneShotAdapterOptions where
 capabilities : DeploymentCapabilities
 approved : Bool
 approvedProviderWireRequestObjectDigest : JsString
 authorization : JsString

structure Post where
 url : JsString
 headers : JsString → Option JsString
 body : List UInt8

inductive Reply where
 | thrown (codes:List String)
 | answered (status:ℕ) (collected:Option (List UInt8))

inductive CloudDispatchResult where
 | notDispatched (reasonCode:String)
 | acceptedOutcomeUnknown
 | completed (outcome:String)

/-- What passes for a digest, the encoding of a body and the reading of a collected answer. The form
of digests is left open since a hash of texts of one length has collisions. -/
structure GatewayServices extends ApprovalServices where
 isPayloadDigest : JsString → Bool
 providerBodyBytes : JsonValue → CanonicalCloudRequest → DeploymentCapabilities →
  Approval (List UInt8)
 resultOf : List UInt8 → CloudDispatchResult

variable (wire:ProviderWireRequest)

def Header.fields (header:Header) : Fields :=
 [(js "nameLowercase",.string header.nameLowercase),(js "value",.string header.value)]

def Header.toJson (header:Header) : JsonValue := .object header.fields

def ProviderWireRequest.fields : Fields :=
 [(js "requestEnvelopeObjectDigest",.string wire.requestEnvelopeObjectDigest),
  (js "deploymentId",.string wire.deploymentId),
  (js "adapterVersionObjectDigest",.string wire.adapterVersionObjectDigest),
  (js "endpointIdentity",.string wire.endpointIdentity),
  (js "providerApiVersion",.string wire.providerApiVersion),
  (js "modelRevision",.string wire.modelRevision),
  (js "bodyObjectDigest",.string wire.bodyObjectDigest),
  (js "providerIdempotencyKey",.string wire.providerIdempotencyKey),
  (js "method",.string (js "POST")),
  (js "bodyMediaType",.string (js "application/json")),
  (js "schemaVersion",number 1),
  (js "bodyByteSize",number wire.bodyByteSize),
  (js "nonSecretHeaders",.array (wire.nonSecretHeaders.map Header.toJson))]

def ProviderWireRequest.toJson : JsonValue := .object wire.fields

section Digests

variable {α:Type} (services:GatewayServices) (toJson:α → JsonValue)

def asPayloadDigest (value:JsString) : Approval JsString :=
 if services.isPayloadDigest value then .ok value else .error (.brandError "payload digest" value)

def envelopeDigest (envelope:ArtifactEnvelope α) : Approval JsString := do
 let digest ← asPayloadDigest services envelope.payloadDigest
 envelopeObjectDigest services.toApprovalServices toJson { envelope with payloadDigest:=digest }

def unsignedEnvelope (schemaName:JsString) (payload:α) : Approval (ArtifactEnvelope α) := do
 let digest ← payloadDigest services.toApprovalServices schemaName 1 (toJson payload)
 pure ⟨schemaName,1,payload,digest,[]⟩

end Digests

def wireDigest (services:GatewayServices) (envelope:ArtifactEnvelope ProviderWireRequest) :
  Approval JsString :=
 envelopeDigest services ProviderWireRequest.toJson envelope

variable (services:GatewayServices) (options:OneShotAdapterOptions) (dispatch:CloudDispatch)
  (transport:Post → Reply)

def wireDispatchBindingsMatch (capabilities:DeploymentCapabilities)
    (reconstructedBody:List UInt8) : Approval Bool := do
 let request:=dispatch.request.payload
 let wire:=dispatch.wireRequest.payload
 let conversationPayload ← payloadDigest services.toApprovalServices
  dispatch.conversation.schemaName dispatch.conversation.schemaVersion dispatch.conversation.payload
 if services.sha256 reconstructedBody≠wire.bodyObjectDigest then pure false
 else do
  let requestDigest ← envelopeDigest services CanonicalCloudRequest.document dispatch.request
  if requestDigest≠wire.requestEnvelopeObjectDigest then pure false
  else do
   let digest ← wireDigest services dispatch.wireRequest
   let unsigned ← unsignedEnvelope services ProviderWireRequest.toJson
    (js "ProviderWireRequest") wire
   let unsignedDigest ← wireDigest services unsigned
   pure (digest=unsignedDigest &&
    wire.providerIdempotencyKey=wire.requestEnvelopeObjectDigest &&
    wire.endpointIdentity=dispatch.egressEndpointIdentity &&
    wire.modelRevision=request.modelRevision &&
    wire.modelRevision=capabilities.modelRevision &&
    wire.adapterVersionObjectDigest=request.adapterVersionObjectDigest &&
    wire.adapterVersionObjectDigest=capabilities.adapterVersionObjectDigest &&
    wire.deploymentId=request.deploymentId &&
    wire.deploymentId=capabilities.deploymentId &&
    dispatch.conversation.payloadDigest=conversationPayload)

/-- An assignment to a fresh record; a text that is assigned to `__proto__` is ignored. -/
def setHeader (headers:JsString → Option JsString) (header:Header) :
  JsString → Option JsString :=
 if header.nameLowercase=js "__proto__" then headers
 else Function.update headers header.nameLowercase (some header.value)

def injectSealedAuthorization (body:List UInt8) (options:OneShotAdapterOptions)
    (wireEnvelopeObjectDigest:JsString) : Option Post :=
 if !options.approved || options.approvedProviderWireRequestObjectDigest≠wireEnvelopeObjectDigest
 then none
 else
  let headers:=wire.nonSecretHeaders.foldl setHeader fun _=>none
  some ⟨wire.endpointIdentity,setHeader headers ⟨js "authorization",options.authorization⟩,body⟩

def prepare : Approval (String ⊕ Post) := do
 let reconstructed ← services.providerBodyBytes dispatch.conversation.payload
  dispatch.request.payload options.capabilities
 let matching ← wireDispatchBindingsMatch services dispatch options.capabilities reconstructed
 if !matching then pure (.inl "WIRE_BINDING_MISMATCH")
 else do
  let digest ← wireDigest services dispatch.wireRequest
  match injectSealedAuthorization dispatch.wireRequest.payload reconstructed options digest with
  | none => pure (.inl "APPROVAL_MISSING")
  | some post => pure (.inr post)

abbrev GatewayM := EStateM ApprovalFailure (List Post)

def postOnce (post:Post) : GatewayM Reply := do
 modify (·++[post])
 pure (transport post)

def provenNotAcceptedCodes : List String :=
 ["ENOTFOUND","EAI_AGAIN","EAI_NODATA","EAI_NONAME","ECONNREFUSED","UND_ERR_CONNECT_TIMEOUT",
  "ERR_NAME_NOT_RESOLVED"]

def settle : Reply → CloudDispatchResult
 | .thrown codes =>
   if codes.any (·∈provenNotAcceptedCodes) then .notDispatched "NOT_DISPATCHED"
   else .acceptedOutcomeUnknown
 | .answered status collected =>
   if status=429 || status=400 || status=401 || status=403 then
    .notDispatched "PROVEN_NOT_ACCEPTED"
   else if status<200 || status ≥ 300 then .acceptedOutcomeUnknown
   else (collected.map services.resultOf).getD .acceptedOutcomeUnknown

def completeOnce : GatewayM CloudDispatchResult :=
 match prepare services options dispatch with
 | .error failure => throw failure
 | .ok (.inl reasonCode) => pure (.notDispatched reasonCode)
 | .ok (.inr post) => do
   let reply ← postOnce transport post
   pure (settle services reply)

def posted : List Post :=
 match completeOnce services options dispatch transport [] with
 | .ok _ posts => posts
 | .error _ posts => posts

end Model

lemma wire_keys_nodup (wire:ProviderWireRequest) : (wire.fields.map (·.1)).Nodup := by
 simp only [ProviderWireRequest.fields,map_cons,map_nil]
 decide

lemma header_keys_nodup (header:Header) : (header.fields.map (·.1)).Nodup := by
 simp only [Header.fields,map_cons,map_nil]
 decide

lemma whole_header (header:Header) : Whole header.toJson := by
 refine .object _ (header_keys_nodup header) ?_
 simp [Header.fields,Whole.string]

lemma whole_array {α:Type} {toJson:α → JsonValue} (h:∀item,Whole (toJson item))
  (items:List α) : Whole (.array (items.map toJson)) := by
 refine .array _ fun item hitem=>?_
 obtain ⟨source,-,rfl⟩:=mem_map.mp hitem
 exact h source

lemma whole_wire (wire:ProviderWireRequest) : Whole wire.toJson := by
 refine .object _ (wire_keys_nodup wire) ?_
 simp [ProviderWireRequest.fields,Whole.string,whole_number,whole_array whole_header]

lemma header_eq_of_sortKeys {header other:Header}
  (h:sortKeys header.toJson=sortKeys other.toJson) : header=other := by
 have htext:=text_eq_of_sortKeys (header_keys_nodup other) h
 rw [Header.mk.injEq]
 exact ⟨htext 0 rfl rfl,htext 1 rfl rfl⟩

lemma wire_eq_of_sortKeys {wire other:ProviderWireRequest}
  (h:sortKeys wire.toJson=sortKeys other.toJson) : wire=other := by
 have hfield:=field_eq_of_sortKeys (wire_keys_nodup other) h
 have htext:=text_eq_of_sortKeys (wire_keys_nodup other) h
 have hsize:wire.bodyByteSize=other.bodyByteSize :=
  Nat.cast_injective (JsNumber.finite.inj (JsonValue.number.inj (hfield 11 rfl rfl)))
 have hhead:wire.nonSecretHeaders=other.nonSecretHeaders := by
  have hitems:=hfield 12 rfl rfl
  rw [sortKeys,sortKeys,sortKeysItems_eq,sortKeysItems_eq,JsonValue.array.injEq,map_map,
   map_map] at hitems
  exact map_injective_iff.mpr (fun _ _=>header_eq_of_sortKeys) hitems
 rw [ProviderWireRequest.mk.injEq]
 exact ⟨htext 0 rfl rfl,htext 1 rfl rfl,htext 2 rfl rfl,htext 3 rfl rfl,htext 4 rfl rfl,
  htext 5 rfl rfl,hhead,htext 6 rfl rfl,hsize,htext 7 rfl rfl⟩

lemma envelopeDigest_ok_iff {α:Type} {services:GatewayServices} {toJson:α → JsonValue}
  {envelope:ArtifactEnvelope α} : envelopeDigest services toJson envelope=.ok digest ↔
   services.isPayloadDigest envelope.payloadDigest=true ∧
    envelopeObjectDigest services.toApprovalServices toJson envelope=.ok digest := by
 unfold envelopeDigest asPayloadDigest
 split_ifs with h <;> simp [h,bind,Except.bind]

lemma payload_eq_of_digest {services:GatewayServices}
  (hsha:Function.Injective services.sha256)
  {envelope other:ArtifactEnvelope ProviderWireRequest}
  (h:wireDigest services envelope=.ok digest) (h':wireDigest services other=.ok digest) :
  envelope.payload=other.payload := by
 obtain ⟨_,text,-,htext,hhash⟩:=envelopeObjectDigest_ok_iff.mp (envelopeDigest_ok_iff.mp h).2
 obtain ⟨_,text',-,htext',hhash'⟩:=envelopeObjectDigest_ok_iff.mp (envelopeDigest_ok_iff.mp h').2
 obtain rfl:=text_eq_of_hash hsha htext htext' (hhash.trans hhash'.symm)
 exact wire_eq_of_sortKeys (fields_of_text whole_wire htext htext').1

section Dispatch

variable {services:GatewayServices} {options:OneShotAdapterOptions} {dispatch:CloudDispatch}

variable (headers:List Header)

def described (name:JsString) : Option JsString :=
 if name=js "__proto__" then none
 else (headers.reverse.find? (·.nameLowercase=name)).map Header.value

lemma foldl_setHeader (name:JsString) :
  headers.foldl setHeader (fun _=>none) name=described headers name := by
 induction headers using reverseRecOn with
 | nil => simp [described]
 | append_singleton headers header ih =>
   rw [foldl_append,foldl_cons,foldl_nil,setHeader]
   by_cases hproto : header.nameLowercase=js "__proto__"
   · rw [if_pos hproto,ih]
     by_cases hname : name=js "__proto__"
     · simp [described,hname]
     · have hne:header.nameLowercase≠name:=fun h=>hname (h ▸ hproto)
       simp [described,hname,hne]
   · rw [if_neg hproto]
     by_cases hname : header.nameLowercase=name
     · subst hname
       simp [described,hproto]
     · rw [update_of_ne (Ne.symm hname),ih]
       simp [described,hname]

/-- What is posted: the request that the wire payload describes, with the credential. -/
structure SentAs (services:GatewayServices) (post:Post) (wire:ProviderWireRequest) : Prop where
 endpoint : post.url=wire.endpointIdentity
 body : services.sha256 post.body=wire.bodyObjectDigest
 headers : ∀name,name≠js "authorization" →
  post.headers name=described wire.nonSecretHeaders name

/-- Where no name is listed with two values the posted headers are those listed. -/
lemma SentAs.headers_iff {post:Post} {wire:ProviderWireRequest} (h:SentAs services post wire)
  (hsame:∀a∈wire.nonSecretHeaders,∀b∈wire.nonSecretHeaders,
   a.nameLowercase=b.nameLowercase → a=b)
  (hproto:∀header∈wire.nonSecretHeaders,header.nameLowercase≠js "__proto__")
  {name:JsString} (hname:name≠js "authorization") (value:JsString) :
  post.headers name=some value ↔ ⟨name,value⟩∈wire.nonSecretHeaders := by
 rw [h.headers name hname,described]
 split_ifs with hprotoName
 · exact iff_of_false (by simp) fun hmem=>hproto _ hmem hprotoName
 · rw [Option.map_eq_some_iff]
   constructor
   · rintro ⟨header,hfound,rfl⟩
     have hheader:header.nameLowercase=name := by simpa using find?_some hfound
     rw [← hheader]
     exact mem_reverse.mp (mem_of_find?_eq_some hfound)
   · intro hmem
     have hsome:(wire.nonSecretHeaders.reverse.find? (·.nameLowercase=name)).isSome=true :=
      find?_isSome.mpr ⟨_,mem_reverse.mpr hmem,by simp⟩
     obtain ⟨header,hfound⟩:=Option.isSome_iff_exists.mp hsome
     have hheader:header.nameLowercase=name := by simpa using find?_some hfound
     rw [hsame header (mem_reverse.mp (mem_of_find?_eq_some hfound)) _ hmem hheader] at hfound
     exact ⟨_,hfound,rfl⟩

lemma prepare_post {post:Post} (h:prepare services options dispatch=.ok (.inr post)) :
  options.approved=true ∧ wireDigest services dispatch.wireRequest =
    .ok options.approvedProviderWireRequestObjectDigest ∧
   SentAs services post dispatch.wireRequest.payload := by
 obtain ⟨body,-,h⟩:=bind_eq_ok h
 obtain ⟨matching,hmatching,h⟩:=bind_eq_ok h
 cases matching with
 | false => cases h
 | true =>
   obtain ⟨digest,hdigest,h⟩:=bind_eq_ok h
   cases hinj : injectSealedAuthorization dispatch.wireRequest.payload body options digest with
   | none => simp [hinj,pure,Except.pure] at h
   | some sent =>
     simp only [hinj,pure,Except.pure,Except.ok.injEq,Sum.inr.injEq] at h
     subst h
     have hbody:services.sha256 body =
       dispatch.wireRequest.payload.bodyObjectDigest := by
      by_contra hne
      obtain ⟨_,-,hmatching⟩:=bind_eq_ok hmatching
      simp only [if_pos hne] at hmatching
      cases hmatching
     unfold injectSealedAuthorization at hinj
     split at hinj
     · cases hinj
     · rename_i hcondition
       rw [Bool.or_eq_true,not_or,Bool.not_eq_true',Bool.not_eq_false,decide_eq_true_eq,not_not]
        at hcondition
       obtain ⟨happroved,rfl⟩:=hcondition
       obtain rfl:=Option.some.inj hinj
       refine ⟨happroved,hdigest,rfl,hbody,fun name hname=>?_⟩
       rw [← foldl_setHeader]
       exact update_of_ne hname _ _

lemma posted_cases (transport:Post → Reply) :
  posted services options dispatch transport=[] ∨
   ∃post,prepare services options dispatch=.ok (.inr post) ∧
    posted services options dispatch transport=[post] := by
 unfold posted completeOnce
 cases prepare services options dispatch with
 | error failure => exact .inl rfl
 | ok outcome =>
   cases outcome with
   | inl reasonCode => exact .inl rfl
   | inr post => exact .inr ⟨post,rfl,rfl⟩

/-- At most one request is posted. It is the one that every wire payload under the approved digest
describes, where the last of several headers of one name counts. -/
theorem posted_as_approved (services:GatewayServices)
  (hsha:Function.Injective services.sha256) (options:OneShotAdapterOptions)
  (dispatch:CloudDispatch) (transport:Post → Reply) :
  posted services options dispatch transport=[] ∨
   ∃post,posted services options dispatch transport=[post] ∧ options.approved=true ∧
    wireDigest services dispatch.wireRequest =
     .ok options.approvedProviderWireRequestObjectDigest ∧
    ∀envelope,wireDigest services envelope =
      .ok options.approvedProviderWireRequestObjectDigest →
     SentAs services post envelope.payload ∧ ∀body,
      services.sha256 body=envelope.payload.bodyObjectDigest →
       body=post.body := by
 refine (posted_cases transport).imp_right ?_
 rintro ⟨post,hprepare,hposted⟩
 obtain ⟨happroved,hdigest,hsent⟩:=prepare_post hprepare
 refine ⟨post,hposted,happroved,hdigest,fun envelope henvelope=>?_⟩
 rw [payload_eq_of_digest hsha henvelope hdigest]
 exact ⟨hsent,fun body hbody=>hsha (hbody.trans hsent.body.symm)⟩

def sampleGateway : GatewayServices :=
 { sampleServices with
   isPayloadDigest:=fun _=>true
   providerBodyBytes:=fun _ _ _=>.ok []
   resultOf:=fun _=>.acceptedOutcomeUnknown }

def Paired (header:Header) : Prop :=
 unpairedSurrogate header.nameLowercase=false ∧ unpairedSurrogate header.value=false

def sampleWire (digest:JsString) (headers:List Header) : ProviderWireRequest :=
 ⟨digest,[],[],[],[],[],headers,sampleServices.sha256 [],0,digest⟩

def sampleRequest : CanonicalCloudRequest := ⟨[],[],[],.null⟩

def samplePost : Post :=
 ⟨[],setHeader (headers.foldl setHeader fun _=>none) ⟨js "authorization",[]⟩,[]⟩

lemma written_envelopeDigest {α:Type} {toJson:α → JsonValue} {name payloadDigest:JsString}
  {payload:α} (hname:unpairedSurrogate name=false)
  (hdigest:unpairedSurrogate payloadDigest=false)
  (h:Writable sampleServices.shortest (toJson payload)) :
  Written (envelopeDigest sampleGateway toJson ⟨name,1,payload,payloadDigest,[]⟩) := by
 have htext:Writable sampleServices.shortest (.object (envelopeFields toJson
   ⟨name,1,payload,payloadDigest,[]⟩ [])) := by
  refine writable_record (of_decide_eq_true rfl) ?_
  simp only [envelopeFields,forall_mem_cons]
  exact ⟨writable_string.mpr hname,writable_number (by decide),h,writable_string.mpr hdigest,
   writable_array.mpr (by simp),by simp⟩
 obtain ⟨text,htext⟩:=htext
 exact ⟨_,envelopeDigest_ok_iff.mpr ⟨rfl,envelopeObjectDigest_ok_iff.mpr
  ⟨[],text,by simp [sortSignatures],htext,rfl⟩⟩,sampleServices_paired _⟩

lemma writable_sampleWire {headers:List Header} (hdigest:unpairedSurrogate digest=false)
  (hheaders:∀header∈headers,Paired header) :
  Writable sampleServices.shortest (sampleWire digest headers).toJson := by
 have hwritten:∀{text},unpairedSurrogate text=false →
   Writable sampleServices.shortest (.string text):=writable_string.mpr
 have hempty:=hwritten (rfl:unpairedSurrogate []=false)
 have hheader:∀header∈headers,Writable sampleServices.shortest header.toJson:=fun header hmem=>by
  refine writable_record (of_decide_eq_true rfl) ?_
  simp only [Header.fields,forall_mem_cons]
  exact ⟨hwritten (hheaders header hmem).1,hwritten (hheaders header hmem).2,by simp⟩
 refine writable_record (of_decide_eq_true rfl) ?_
 simp only [ProviderWireRequest.fields,forall_mem_cons]
 exact ⟨hwritten hdigest,hempty,hempty,hempty,hempty,hempty,hwritten (sampleServices_paired _),
  hwritten hdigest,hwritten (by decide),hwritten (by decide),writable_number (by decide),
  writable_number (Nat.zero_le _),writable_array.mpr (forall_mem_map.mpr hheader),by simp⟩

/-- A dispatch that is sealed as the gateway seals its own is posted, whatever its headers are. -/
lemma exists_posted (headers:List Header) (hheaders:∀header∈headers,Paired header) :
  ∃options dispatch,prepare sampleGateway options dispatch=.ok (.inr (samplePost headers)) ∧
   dispatch.wireRequest.payload.nonSecretHeaders=headers := by
 have hnull:Writable sampleServices.shortest .null:=⟨_,rfl⟩
 have hempty:unpairedSurrogate []=false:=rfl
 have hname:unpairedSurrogate (js "ProviderWireRequest")=false := by decide
 obtain ⟨conversation,hconversation,-⟩:=written_payloadDigest sampleServices_paired hempty hnull
 obtain ⟨request,hrequest,hrequestText⟩ : Written (envelopeDigest sampleGateway
   CanonicalCloudRequest.document ⟨[],1,sampleRequest,[],[]⟩) :=
  written_envelopeDigest hempty hempty hnull
 have hwire:=writable_sampleWire hrequestText hheaders
 obtain ⟨payload,hpayload,hpayloadText⟩:=written_payloadDigest sampleServices_paired hname hwire
 obtain ⟨approved,happroved,-⟩:=written_envelopeDigest hname hpayloadText hwire
 refine ⟨⟨⟨[],[],[],.null⟩,true,approved,[]⟩,⟨⟨[],1,sampleRequest,[],[]⟩,
  ⟨[],1,.null,conversation,[]⟩,[],
  ⟨js "ProviderWireRequest",1,sampleWire request headers,payload,[]⟩⟩,?_,rfl⟩
 have hservices:sampleGateway.toApprovalServices=sampleServices:=rfl
 have hbytes:∀conversation request capabilities,
   sampleGateway.providerBodyBytes conversation request capabilities=.ok []:=fun _ _ _=>rfl
 simp only [prepare,wireDispatchBindingsMatch,hbytes,hservices,hconversation,hrequest,hpayload,
  happroved,wireDigest,unsignedEnvelope,ok_bind,pure_bind]
 simp [sampleWire,sampleRequest,injectSealedAuthorization,samplePost,pure,Except.pure]
 rfl

theorem posted_as_approved_sample : ∃options dispatch post,
  posted sampleGateway options dispatch (fun _=>.thrown [])=[post] ∧
   SentAs sampleGateway post dispatch.wireRequest.payload := by
 obtain ⟨options,dispatch,hprepare,-⟩:=exists_posted [] (by simp)
 have hposted:posted sampleGateway options dispatch (fun _=>.thrown [])=[samplePost []] := by
  rw [posted,completeOnce,hprepare]
  rfl
 rcases posted_as_approved sampleGateway sampleServices_injective options dispatch
  (fun _=>.thrown []) with h | ⟨post,h,-,hdigest,hsent⟩
 · rw [hposted] at h
   cases h
 · exact ⟨options,dispatch,post,h,(hsent _ hdigest).1⟩

def repeatedHeaders : List Header := [⟨js "accept",js "a"⟩,⟨js "accept",js "b"⟩]

/-- Of two headers of one name in the approved payload only the second is posted. -/
theorem repeated_header_dropped : ∃options dispatch post,
  Injective sampleGateway.sha256 ∧
  posted sampleGateway options dispatch (fun _=>.thrown [])=[post] ∧
  wireDigest sampleGateway dispatch.wireRequest =
   .ok options.approvedProviderWireRequestObjectDigest ∧
  ⟨js "accept",js "a"⟩∈dispatch.wireRequest.payload.nonSecretHeaders ∧
  post.headers (js "accept")=some (js "b") := by
 have hpaired:∀header∈repeatedHeaders,Paired header := by
  simp only [repeatedHeaders,forall_mem_cons,Paired]
  exact ⟨by decide,by decide,by simp⟩
 obtain ⟨options,dispatch,hprepare,hheaders⟩:=exists_posted repeatedHeaders hpaired
 obtain ⟨-,hdigest,-⟩:=prepare_post hprepare
 refine ⟨options,dispatch,samplePost repeatedHeaders,sampleServices_injective,?_,hdigest,?_,?_⟩
 · rw [posted,completeOnce,hprepare]
   rfl
 · rw [hheaders]
   exact mem_cons_self
 · decide

end Dispatch

end EpistemicCompiler.WireDispatch
