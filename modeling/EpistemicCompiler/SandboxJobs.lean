import EpistemicCompiler.ApprovalGrants
import EpistemicCompiler.SingleUse

set_option autoImplicit false

/-!
# Signed sandbox jobs

Up to the first thing it waits for, a call of `executeSandboxJob` is one step: it reads the signed
job, enters its nonce and checks the job against the context. Then a backend is probed, and run if
it is available; meanwhile other calls may begin.
-/
namespace EpistemicCompiler.SandboxJobs
open JsValues CanonicalJson Base64Text ApprovalGrants SingleUse List

structure EnvelopeShape where
 schemaName : JsString
 schemaVersion : JsNumber
 payload : JsonValue
 payloadDigest : JsString
 signatures : List EnvelopeSignature

def property (value:JsonValue) (name:String) : JsonValue :=
 match value with
 | .object fields => ((fields.find? (·.1=js name)).map (·.2)).getD (.other .undefined)
 | _ => .other .undefined

def textOf : JsonValue → Option JsString
 | .string text => some text
 | _ => none

def numberOf : JsonValue → Option JsNumber
 | .number value => some value
 | _ => none

def algorithmOf (text:JsString) : Option SignatureAlgorithm :=
 [SignatureAlgorithm.ed25519,.ecdsaP256Sha256].find? (·.text=text)

def otherKeys : JsonValue → Fields
 | .object fields => fields.filter fun field=>
   field.1 ∉ [js "keyId",js "algorithm",js "signedAt",js "signerCertificateObjectDigest",
    js "signature"]
 | _ => []

/-- `isEnvelopeSignature`, with the signature that it accepts. -/
def signatureOf (value:JsonValue) : Option EnvelopeSignature := do
 let keyId ← textOf (property value "keyId")
 let algorithm ← algorithmOf (← textOf (property value "algorithm"))
 let signedAt ← textOf (property value "signedAt")
 let certificate ← textOf (property value "signerCertificateObjectDigest")
 let signature ← textOf (property value "signature")
 pure ⟨keyId,algorithm,signedAt,certificate,signature,otherKeys value⟩

def parseEnvelope (input:JsonValue) : Option EnvelopeShape := do
 let schemaName ← textOf (property input "schemaName")
 let schemaVersion ← numberOf (property input "schemaVersion")
 let payloadDigest ← textOf (property input "payloadDigest")
 match property input "signatures" with
 | .array items =>
   let signatures ← items.mapM signatureOf
   pure ⟨schemaName,schemaVersion,property input "payload",payloadDigest,signatures⟩
 | _ => none

/-- The digests of envelopes, which are none where the digest throws, and what verifies under the
control key. -/
structure ControlServices where
 payloadDigest : JsString → JsNumber → JsonValue → Option JsString
 signatureInputDigest : EnvelopeShape → EnvelopeSignature → Option JsString
 envelopeObjectDigest : EnvelopeShape → Option JsString
 verify : JsString → List UInt8 → Bool

def verifyDetached (services:ControlServices) (envelope:EnvelopeShape) : Option Bool := do
 let digest ← services.payloadDigest envelope.schemaName envelope.schemaVersion envelope.payload
 match envelope.signatures with
 | [] => return false
 | signature::_ =>
   if digest≠envelope.payloadDigest || signature.algorithm≠.ed25519 then return false
   let input ← services.signatureInputDigest envelope signature
   return services.verify input (fromBase64 signature.signature)

section Jobs

structure SandboxJob where
 projectId : JsString
 runId : JsString
 operationId : JsString
 leaseGeneration : JsNumber
 targetRunnerId : JsString
 resolvedCommandSpecObjectDigest : JsString
 inputTreeRootDigest : JsString
 environmentRecipeObjectDigest : JsString
 sandboxImageObjectDigest : JsString
 safetyProfileObjectDigest : JsString
 issuedAt : JsString
 expiresAt : JsString
 nonce : JsString

def jobOf (payload:JsonValue) : Option SandboxJob := do
 let text:=fun name=>textOf (property payload name)
 pure ⟨← text "projectId",← text "runId",← text "operationId",
  ← numberOf (property payload "leaseGeneration"),← text "targetRunnerId",
  ← text "resolvedCommandSpecObjectDigest",← text "inputTreeRootDigest",
  ← text "environmentRecipeObjectDigest",← text "sandboxImageObjectDigest",
  ← text "safetyProfileObjectDigest",← text "issuedAt",← text "expiresAt",← text "nonce"⟩

structure SafetyProfile where
 cpuMillis : JsNumber
 memoryBytes : JsNumber
 processCount : JsNumber
 diskBytes : JsNumber
 wallClockMillis : JsNumber
 deriving DecidableEq

structure Grant where
 projectId : JsString
 revokedAt : Option JsString

/-- The command, the recipe and the profile go to the backend as they are. -/
structure SandboxExecutionContext where
 now : JsString
 runnerId : JsString
 runnerCertificateDigest : JsString
 runnerCertificateSerial : JsString
 control : ControlServices
 /-- The `revokedAt` of the certificate with this serial and key. -/
 lookupBySerialAndSpki : JsString → JsString → Option (Option JsString)
 listGrants : JsString → List Grant
 currentLeaseGeneration : JsNumber
 expectedInputRoot : JsString
 expectedImageDigest : JsString
 recipe : JsonValue
 command : JsonValue
 safetyProfile : SafetyProfile

variable (context:SandboxExecutionContext)

def hasProjectGrant (projectId:JsString) : Bool :=
 let digest:=context.runnerCertificateDigest
 let spki:=if (js "sha256:").isPrefixOf digest then digest.drop 7 else digest
 match context.lookupBySerialAndSpki context.runnerCertificateSerial spki with
 | some none => (context.listGrants context.runnerId).any fun grant=>
   grant.projectId=projectId && grant.revokedAt.isNone
 | _ => false

inductive ReasonCode where
 | extraProperties
 | signatureInvalid
 | expired
 | nonceReplay
 | leaseMismatch
 | audienceMismatch
 | grantMissing
 | imageDigestMismatch
 | inputRootMismatch
 | schemaInvalid

inductive Refusal where
 | rejected (reason:ReasonCode)
 | thrown

variable (checkJob:JsonValue → Bool)

def readSigned (input:JsonValue) : Except Refusal SandboxJob :=
 match parseEnvelope input with
 | none => .error (.rejected .schemaInvalid)
 | some envelope =>
   if envelope.schemaName≠js "SandboxJob" then .error (.rejected .schemaInvalid)
   else match context.control.envelopeObjectDigest envelope, envelope.payload with
   | none, _ | _, .null | _, .other .undefined => .error .thrown
   | some _, payload =>
     match if checkJob payload then jobOf payload else none with
     | none => .error (.rejected .extraProperties)
     | some job =>
       match verifyDetached context.control envelope with
       | none => .error .thrown
       | some false => .error (.rejected .signatureInvalid)
       | some true => .ok job

def authorize (job:SandboxJob) : Option ReasonCode :=
 if !unitsLe job.issuedAt context.now || !unitsLe context.now job.expiresAt ||
   unitsLe job.expiresAt job.issuedAt then some .expired
 else if job.targetRunnerId≠context.runnerId then some .audienceMismatch
 else if !hasProjectGrant context job.projectId then some .grantMissing
 else if job.leaseGeneration≠context.currentLeaseGeneration then some .leaseMismatch
 else if job.sandboxImageObjectDigest≠context.expectedImageDigest then some .imageDigestMismatch
 else if job.inputTreeRootDigest≠context.expectedInputRoot then some .inputRootMismatch
 else none

/-- `executeSandboxJob` up to `dispatch`, with the nonces that are consumed afterwards. -/
def accept (consumed:List JsString) (input:JsonValue) :
    Except Refusal SandboxJob×List JsString :=
 match readSigned context checkJob input with
 | .error refusal => (.error refusal,consumed)
 | .ok job =>
   if job.nonce∈consumed then (.error (.rejected .nonceReplay),consumed)
   else match authorize context job with
   | some reason => (.error (.rejected reason),job.nonce::consumed)
   | none => (.ok job,job.nonce::consumed)

end Jobs

section Runs

structure Call where
 input : JsonValue
 context : SandboxExecutionContext
 job : SandboxJob

inductive Move where
 | execute (input:JsonValue) (context:SandboxExecutionContext)
 | probed (index:ℕ) (available:Bool)

structure State where
 consumed : List JsString
 waiting : List Call
 invoked : List Call

variable (checkJob:JsonValue → Bool)

def step (s:State) : Move → State
 | .execute input context =>
   match accept context checkJob s.consumed input with
   | (.ok job,consumed) => { s with consumed, waiting:=⟨input,context,job⟩::s.waiting }
   | (.error _,consumed) => { s with consumed }
 | .probed index available =>
   match s.waiting[index]? with
   | none => s
   | some call =>
     { s with
       waiting:=s.waiting.eraseIdx index
       invoked:=if available then call::s.invoked else s.invoked }

def run (consumed:List JsString) (moves:List Move) : State :=
 moves.foldl (step checkJob) ⟨consumed,[],[]⟩

def Signed (context:SandboxExecutionContext) (input:JsonValue) (job:SandboxJob) : Prop :=
 ∃envelope,parseEnvelope input=some envelope ∧ envelope.schemaName=js "SandboxJob" ∧
  checkJob envelope.payload=true ∧ jobOf envelope.payload=some job ∧
  verifyDetached context.control envelope=some true

structure Authorized (call:Call) : Prop where
 signed : Signed checkJob call.context call.input call.job
 started : unitsLe call.job.issuedAt call.context.now=true
 alive : unitsLe call.context.now call.job.expiresAt=true
 audience : call.job.targetRunnerId=call.context.runnerId
 granted : hasProjectGrant call.context call.job.projectId=true
 lease : call.job.leaseGeneration=call.context.currentLeaseGeneration
 image : call.job.sandboxImageObjectDigest=call.context.expectedImageDigest
 inputRoot : call.job.inputTreeRootDigest=call.context.expectedInputRoot

variable {checkJob} {context:SandboxExecutionContext} {input:JsonValue} {job:SandboxJob}

lemma signed_of_readSigned (h:readSigned context checkJob input=.ok job) :
  Signed checkJob context input job := by
 unfold readSigned at h
 split at h
 · cases h
 · rename_i envelope henv
   split_ifs at h with hname
   split at h
   · cases h
   · cases h
   · cases h
   · split at h
     · cases h
     · rename_i hjob
       split at h
       · cases h
       · cases h
       · rename_i hverified
         cases h
         obtain ⟨hcheck,hjob⟩:=Option.ite_none_right_eq_some.mp hjob
         exact ⟨envelope,henv,not_not.mp hname,hcheck,hjob,hverified⟩

lemma authorized_of_authorize (hsign:Signed checkJob context input job)
  (h:authorize context job=none) : Authorized checkJob ⟨input,context,job⟩ := by
 unfold authorize at h
 split_ifs at h with hwindow haudience hgrant hlease himage hroot
 simp only [Bool.or_eq_true,Bool.not_eq_true',not_or,Bool.not_eq_false] at hwindow
 exact ⟨hsign,hwindow.1.1,hwindow.1.2,not_not.mp haudience,by simpa using hgrant,
  not_not.mp hlease,not_not.mp himage,not_not.mp hroot⟩

section Passed

variable (checkJob)

def nonceOf (execution:JsonValue×SandboxExecutionContext) : Option JsString :=
 match readSigned execution.2 checkJob execution.1 with
 | .ok job => some job.nonce
 | .error _ => none

def callOf (execution:JsonValue×SandboxExecutionContext) : Option Call :=
 match readSigned execution.2 checkJob execution.1 with
 | .ok job =>
   if (authorize execution.2 job).isNone then some ⟨execution.1,execution.2,job⟩ else none
 | .error _ => none

def executions (moves:List Move) : List (JsonValue×SandboxExecutionContext) :=
 moves.filterMap fun
  | .execute input context => some (input,context)
  | .probed _ _ => none

lemma probed_subperm (s:State) (index:ℕ) (available:Bool) :
  (step checkJob s (.probed index available)).waiting ++
   (step checkJob s (.probed index available)).invoked <+~ s.waiting++s.invoked := by
 cases hcall : s.waiting[index]? with
 | none => simpa only [step,hcall] using Subperm.refl _
 | some call =>
   obtain ⟨hindex,rfl⟩:=List.getElem?_eq_some_iff.mp hcall
   simp only [step,hcall]
   cases available with
   | false => exact ((eraseIdx_sublist _ _).append_right _).subperm
   | true =>
     exact (perm_middle.trans ((getElem_cons_eraseIdx_perm hindex).append_right _)).subperm

lemma passed_subperm (moves:List Move) (s:State) :
  (moves.foldl (step checkJob) s).waiting++(moves.foldl (step checkJob) s).invoked <+~
   (admitted (nonceOf checkJob) s.consumed (executions moves)).filterMap (callOf checkJob) ++
    (s.waiting++s.invoked) := by
 induction moves generalizing s with
 | nil => exact Subperm.refl _
 | cons move moves ih =>
   refine (ih (step checkJob s move)).trans ?_
   cases move with
   | probed index available =>
     have hconsumed:(step checkJob s (.probed index available)).consumed=s.consumed := by
      simp only [step]
      split <;> rfl
     rw [hconsumed]
     exact (subperm_append_left _).mpr (probed_subperm checkJob s index available)
   | execute input context =>
     have hitems:executions (.execute input context::moves) =
       (input,context)::executions moves := rfl
     rw [hitems]
     cases hread : readSigned context checkJob input with
     | error refusal => simp [step,accept,hread,nonceOf,admitted,Subperm.refl]
     | ok job =>
       by_cases hused : job.nonce∈s.consumed
       · simp [step,accept,hread,nonceOf,hused,admitted,Subperm.refl]
       · cases hauth : authorize context job with
         | some reason =>
           simp [step,accept,hread,nonceOf,hused,hauth,callOf,admitted,Subperm.refl]
         | none =>
           simp only [step,accept,hread,hused,hauth,if_false,admitted,nonceOf]
           have hcall:callOf checkJob (input,context)=some ⟨input,context,job⟩ := by
            simp [callOf,hread,hauth]
           rw [filterMap_cons_some hcall]
           exact perm_middle.subperm

variable {checkJob}

lemma mem_executions {moves:List Move} :
  (input,context)∈executions moves ↔ .execute input context∈moves := by
 refine mem_filterMap.trans ⟨?_,fun h=>⟨_,h,rfl⟩⟩
 rintro ⟨_ | _,hmove,heq⟩
 · cases heq
   exact hmove
 · cases heq

lemma callOf_eq_some {execution:JsonValue×SandboxExecutionContext} {call:Call}
  (h:callOf checkJob execution=some call) : Authorized checkJob call ∧
   execution=(call.input,call.context) ∧ nonceOf checkJob execution=some call.job.nonce := by
 unfold callOf at h
 split at h
 · rename_i job hread
   obtain ⟨hauth,h⟩:=Option.ite_none_right_eq_some.mp h
   cases h
   refine ⟨authorized_of_authorize (signed_of_readSigned hread) (by simpa using hauth),rfl,?_⟩
   simp [nonceOf,hread]
 · cases h

end Passed

lemma invoked_calls (consumed:List JsString) (moves:List Move) :
  (∀call∈(run checkJob consumed moves).invoked,
    callOf checkJob (call.input,call.context)=some call ∧
    Move.execute call.input call.context∈moves ∧ call.job.nonce ∉ consumed) ∧
   ((run checkJob consumed moves).invoked.map (·.job.nonce)).Nodup := by
 have hpass:=passed_subperm checkJob moves ⟨consumed,[],[]⟩
 rw [append_nil,append_nil] at hpass
 have hsub:=(sublist_append_right (run checkJob consumed moves).waiting _).subperm.trans hpass
 refine ⟨fun call hcall=>?_,?_⟩
 · obtain ⟨execution,hexec,hcall⟩:=mem_filterMap.mp (hsub.subset hcall)
   obtain ⟨hmem,nonce,hnonce,hfresh⟩:=fresh_of_mem_admitted hexec
   obtain ⟨-,rfl,hkey⟩:=callOf_eq_some hcall
   rw [hkey] at hnonce
   cases hnonce
   exact ⟨hcall,mem_executions.mp hmem,hfresh⟩
 · obtain ⟨calls,hperm,hcalls⟩:=hsub
   refine (hperm.map (·.job.nonce)).nodup_iff.mp (Nodup.sublist (hcalls.map _) ?_)
   rw [Nodup,pairwise_map,pairwise_filterMap]
   refine admitted_pairwise.imp fun hne x hx y hy heq=>hne ?_
   rw [(callOf_eq_some hx).2.2,(callOf_eq_some hy).2.2,heq]

structure ObjectDigests where
 command : JsonValue → JsString
 recipe : JsonValue → JsString
 safetyProfile : SafetyProfile → JsString

/-- The backend gets what the signed job names. -/
structure Named (digests:ObjectDigests) (call:Call) : Prop where
 command : digests.command call.context.command=call.job.resolvedCommandSpecObjectDigest
 recipe : digests.recipe call.context.recipe=call.job.environmentRecipeObjectDigest
 safetyProfile :
  digests.safetyProfile call.context.safetyProfile=call.job.safetyProfileObjectDigest

/-- Whatever calls overlap, a backend runs for authorized jobs alone and for no nonce twice; it gets
what they name exactly if every call that passes the checks brings a context with just that. -/
theorem runs_signed_iff (checkJob:JsonValue → Bool) (digests:ObjectDigests)
  (allowed:JsonValue → SandboxExecutionContext → Prop) :
  (∀consumed moves,(∀input context,Move.execute input context∈moves →
     allowed input context) →
    (∀call∈(run checkJob consumed moves).invoked,Authorized checkJob call ∧
      Named digests call ∧ call.job.nonce ∉ consumed) ∧
     ((run checkJob consumed moves).invoked.map (·.job.nonce)).Nodup) ↔
   ∀input context call,allowed input context →
    callOf checkJob (input,context)=some call → Named digests call := by
 constructor
 · intro h input context call hallowed hcall
   obtain ⟨-,heq,-⟩:=callOf_eq_some hcall
   cases heq
   have hrun:(run checkJob [] [.execute call.input call.context,.probed 0 true]).invoked =
     [call] := by
    unfold callOf at hcall
    split at hcall
    · rename_i job hread
      obtain ⟨hauthorize,heq⟩:=Option.ite_none_right_eq_some.mp hcall
      simpa [run,step,accept,hread,Option.isNone_iff_eq_none.mp hauthorize] using heq
    · cases hcall
   refine ((h [] [.execute call.input call.context,.probed 0 true] ?_).1 call ?_).2.1
   · intro input context hmem
     simp only [mem_cons,Move.execute.injEq,reduceCtorEq,not_mem_nil,or_false] at hmem
     rwa [hmem.1,hmem.2]
   · rw [hrun]
     exact mem_singleton_self _
 · intro h consumed moves hallowed
   obtain ⟨hcalls,hnodup⟩:=invoked_calls consumed moves
   refine ⟨fun call hmem=>?_,hnodup⟩
   obtain ⟨hcall,hmove,hfresh⟩:=hcalls call hmem
   exact ⟨(callOf_eq_some hcall).1,h _ _ call (hallowed _ _ hmove) hcall,hfresh⟩

end Runs

def sampleInput : JsonValue :=
 .object [(js "schemaName",.string (js "SandboxJob")),(js "schemaVersion",.number (.finite 1)),
  (js "payloadDigest",.string []),
  (js "payload",.object ((js "expiresAt",.string (js "1")) ::
   (js "leaseGeneration",.number (.finite 1)) ::
   ["projectId","runId","operationId","targetRunnerId","resolvedCommandSpecObjectDigest",
    "inputTreeRootDigest","environmentRecipeObjectDigest","sandboxImageObjectDigest",
    "safetyProfileObjectDigest","issuedAt","nonce"].map fun name=>(js name,.string []))),
  (js "signatures",.array [.object ((js "algorithm",.string (js "Ed25519")) ::
   ["keyId","signedAt","signerCertificateObjectDigest","signature"].map fun name=>
    (js name,.string []))])]

def sampleContext (command:JsonValue) (limit:JsNumber) : SandboxExecutionContext where
 now := []
 runnerId := []
 runnerCertificateDigest := []
 runnerCertificateSerial := []
 control := ⟨fun _ _ _=>some [],fun _ _=>some [],fun _=>some [],fun _ _=>true⟩
 lookupBySerialAndSpki _ _ := some none
 listGrants _ := [⟨[],none⟩]
 currentLeaseGeneration := .finite 1
 expectedInputRoot := []
 expectedImageDigest := []
 recipe := command
 command
 safetyProfile := ⟨limit,limit,limit,limit,limit⟩

def sampleJob : SandboxJob := ⟨[],[],[],.finite 1,[],[],[],[],[],[],[],js "1",[]⟩

/-- One signed job runs with either of two commands, recipes and profiles; for digests that tell the
commands apart it cannot name both. -/
theorem unbound_command : ∃x y : Call,x.input=y.input ∧ x.job=y.job ∧
  x.context.command≠y.context.command ∧ x.context.recipe≠y.context.recipe ∧
  x.context.safetyProfile≠y.context.safetyProfile ∧
  (run (fun _=>true) [] [.execute x.input x.context,.probed 0 true]).invoked=[x] ∧
  (run (fun _=>true) [] [.execute y.input y.context,.probed 0 true]).invoked=[y] ∧
  ∀digests : ObjectDigests,digests.command x.context.command≠digests.command y.context.command →
   Named digests x → ¬ Named digests y :=
 ⟨⟨sampleInput,sampleContext .null (.finite 1),sampleJob⟩,
  ⟨sampleInput,sampleContext (.bool true) (.finite 2),sampleJob⟩,rfl,rfl,nofun,nofun,by decide,
  rfl,rfl,fun _ hdigest hx hy=>hdigest (hx.command.trans hy.command.symm)⟩

end EpistemicCompiler.SandboxJobs
