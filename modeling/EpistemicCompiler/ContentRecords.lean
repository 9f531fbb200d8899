import EpistemicCompiler.Classifications

set_option autoImplicit false

/-!
# Storage records of the content store

Calls on one digest run one after another under its lock, so a history is the list of calls in the
order in which they end. What a call finds on disk and how the key is unwrapped is part of the call.
-/
namespace EpistemicCompiler.ContentRecords
open Classifications List Option Except

inductive EncryptionAlgorithm where
 | aes256Gcm
 | xchacha20Poly1305

inductive CasErrorCode where
 | notFound
 | corrupt
 | truncated
 | invalidKey
 | other (reason:String)

structure Sealing where
 algorithm : EncryptionAlgorithm
 keyId : String
 nonce : List UInt8

/-- The digest of an object stands for its bytes. -/
structure ArtifactStorageRecord where
 projectId : String
 object : List UInt8
 mediaType : String
 classification : DataClassification
 sealing : Sealing
 createdAt : String
 schemaName : Option String

structure PutObjectInput where
 projectId : String
 bytes : List UInt8
 mediaType : String
 classification : DataClassification
 schemaName : Option String
 securityCritical : Bool

structure PutObjectResult where
 storageRecord : ArtifactStorageRecord
 reusedExisting : Bool

inductive Installed where
 | installed
 | taken (verified:Except CasErrorCode (Option Sealing))

/-- What the file system and the keys answer: the verified object that is there, the sealing of the
file that was staged, what became of its installation, and whether it could be read back. -/
structure Answers where
 existing : Except CasErrorCode (Option Sealing)
 staged : Except CasErrorCode Sealing
 install : Except CasErrorCode Installed
 readBack : Except CasErrorCode Unit
 now : String

structure Call where
 input : PutObjectInput
 answers : Answers

abbrev Key := String×List UInt8

def Call.key (call:Call) : Key := (call.input.projectId,call.input.bytes)

abbrev Sink := Key → Option ArtifactStorageRecord

def buildStorageRecord (call:Call) (sealing:Sealing) : ArtifactStorageRecord where
 projectId := call.input.projectId
 object := call.input.bytes
 mediaType := call.input.mediaType
 classification := call.input.classification
 sealing := sealing
 createdAt := call.answers.now
 schemaName := call.input.schemaName

def persist (sink:Sink) (key:Key) (record:ArtifactStorageRecord) : Sink :=
 fun other=>if other=key then some ((sink key).getD record) else sink other

def recordFor (sink:Sink) (call:Call) (sealing:Sealing) :
    Except CasErrorCode PutObjectResult×Sink :=
 match sink call.key with
 | some existing => (.ok ⟨existing,true⟩,sink)
 | none =>
   let record:=buildStorageRecord call sealing
   (.ok ⟨record,true⟩,persist sink call.key record)

def putLocked (sink:Sink) (call:Call) : Except CasErrorCode PutObjectResult×Sink :=
 match call.answers.existing with
 | .error code => (.error code,sink)
 | .ok (some sealing) => recordFor sink call sealing
 | .ok none =>
   match call.answers.staged, call.answers.install with
   | .error code, _ => (.error code,sink)
   | .ok _, .error code => (.error code,sink)
   | .ok _, .ok (.taken (.error code)) => (.error code,sink)
   | .ok _, .ok (.taken (.ok (some sealing))) => recordFor sink call sealing
   | .ok _, .ok (.taken (.ok none)) => (.error .corrupt,sink)
   | .ok sealing, .ok .installed =>
     let record:=buildStorageRecord call sealing
     let result:=if call.input.securityCritical then
         call.answers.readBack.map fun _=>(⟨record,false⟩ : PutObjectResult)
      else .ok ⟨record,false⟩
     (result,persist sink call.key record)

def sinkAfter (sink:Sink) (calls:List Call) : Sink :=
 calls.foldl (fun sink call=>(putLocked sink call).2) sink

def classPut (sink:Sink) (call:Call) (key:Key) : List DataClassification :=
 if call.key=key ∧ (putLocked sink call).1.isOk then [call.input.classification] else []

/-- The classes under which the object of a key was put by the calls that returned. -/
def classesPut : Sink → List Call → Key → List DataClassification
 | _, [], _ => []
 | sink, call::calls, key =>
   classPut sink call key++classesPut (putLocked sink call).2 calls key

section Histories

variable {sink:Sink} {call:Call} {key:Key} {calls front back:List Call}

def Anew (answers:Answers) : Prop :=
 ∃sealing,answers.existing=.ok none ∧ answers.staged=.ok sealing ∧
   answers.install=.ok .installed

lemma persist_kept (record:ArtifactStorageRecord) {other:Key}
  {kept:ArtifactStorageRecord} (h:sink other=some kept) :
  persist sink key record other=some kept := by
 by_cases hkey : other=key
 · simp [persist,hkey,hkey ▸ h]
 · simp [persist,hkey,h]

lemma putLocked_keeps {kept:ArtifactStorageRecord} (h:sink key=some kept) :
  (putLocked sink call).2 key=some kept := by
 unfold putLocked recordFor
 split
 · exact h
 · split
   · exact h
   · exact persist_kept _ h
 · split
   · exact h
   · exact h
   · exact h
   · split
     · exact h
     · exact persist_kept _ h
   · exact h
   · exact persist_kept _ h

structure Returns (sink sink':Sink) (call:Call) (record kept:ArtifactStorageRecord) : Prop where
 stays : sink' call.key=some kept
 old : ∀before,sink call.key=some before → kept=before
 fresh : sink call.key=none → kept.classification=call.input.classification
 anew : Anew call.answers → record.classification=call.input.classification
 reused : ¬Anew call.answers → record=kept

variable {result:PutObjectResult}

lemma recordFor_returns {sealing:Sealing}
  (hreused:¬Anew call.answers) (h:(recordFor sink call sealing).1=.ok result) :
  ∃kept,Returns sink (recordFor sink call sealing).2 call result.storageRecord kept := by
 unfold recordFor at h ⊢
 cases hsink : sink call.key with
 | some before =>
   simp only [hsink,ok.injEq] at h ⊢
   subst h
   refine ⟨before,hsink,fun _ hbefore=>some.inj (hsink.symm.trans hbefore), fun hnone=>?_,
    fun hanew=>absurd hanew hreused, fun _=>rfl⟩
   rw [hsink] at hnone
   cases hnone
 | none =>
   simp only [hsink,ok.injEq] at h ⊢
   subst h
   refine ⟨buildStorageRecord call sealing,by simp [persist,hsink],fun _ hbefore=>?_,
    fun _=>rfl, fun hanew=>absurd hanew hreused, fun _=>rfl⟩
   rw [hsink] at hbefore
   cases hbefore

lemma putLocked_returns (h:(putLocked sink call).1=.ok result) :
  ∃kept,Returns sink (putLocked sink call).2 call result.storageRecord kept := by
 cases hexist : call.answers.existing with
 | error code =>
   simp [putLocked,hexist] at h
 | ok existing =>
   cases existing with
   | some sealing =>
     have hput:putLocked sink call=recordFor sink call sealing := by
      simp [putLocked,hexist]
     rw [hput] at h ⊢
     refine recordFor_returns ?_ h
     rintro ⟨_,hnone,-⟩
     rw [hexist] at hnone
     cases hnone
   | none =>
     cases hstaged : call.answers.staged with
     | error code => simp [putLocked,hexist,hstaged] at h
     | ok sealing =>
       cases hinstall : call.answers.install with
       | error code => simp [putLocked,hexist,hstaged,hinstall] at h
       | ok install =>
         cases install with
         | taken verified =>
           have hreused:¬Anew call.answers := by
            rintro ⟨_,-,-,hinstalled⟩
            rw [hinstall] at hinstalled
            cases hinstalled
           rcases verified with code | _ | found
           · simp [putLocked,hexist,hstaged,hinstall] at h
           · simp [putLocked,hexist,hstaged,hinstall] at h
           · have hput:putLocked sink call=recordFor sink call found := by
              simp [putLocked,hexist,hstaged,hinstall]
             rw [hput] at h ⊢
             exact recordFor_returns hreused h
         | installed =>
           have hanew:Anew call.answers:=⟨sealing,hexist,hstaged,hinstall⟩
           have hsink:(putLocked sink call).2 =
             persist sink call.key (buildStorageRecord call sealing) := by
            simp [putLocked,hexist,hstaged,hinstall]
           have hrecord:result.storageRecord=buildStorageRecord call sealing := by
            simp only [putLocked,hexist,hstaged,hinstall] at h
            split_ifs at h
            · cases hread : call.answers.readBack with
              | error code =>
                rw [hread] at h
                cases h
              | ok _ =>
                rw [hread] at h
                cases h
                rfl
            · cases h
              rfl
           rw [hsink,hrecord]
           refine ⟨(sink call.key).getD (buildStorageRecord call sealing),by simp [persist],?_,?_,
            fun _=>rfl, fun hreused=>absurd hanew hreused⟩
           · intro before hbefore
             rw [hbefore,getD_some]
           · intro hnone
             rw [hnone]
             rfl

lemma sinkAfter_concat :
  sinkAfter sink (front++[call])=(putLocked (sinkAfter sink front) call).2 := by
 simp [sinkAfter]

lemma classesPut_concat :
  classesPut sink (front++[call]) key =
   classesPut sink front key++classPut (sinkAfter sink front) call key := by
 induction front generalizing sink with
 | nil => simp [classesPut,sinkAfter]
 | cons first front ih => simp [classesPut,sinkAfter,ih]

/-- The record of every call that returned, and the one that is kept, is classified at least as high
as the object was ever put. -/
def NeverUnder (sink:Sink) (calls:List Call) : Prop :=
 ∀front call back result,calls=front++call::back →
   (putLocked (sinkAfter sink front) call).1=.ok result →
   ∀put∈classesPut sink (front++[call]) call.key,
     put ≤ result.storageRecord.classification ∧
      ∃kept,sinkAfter sink (front++[call]) call.key=some kept ∧ put ≤ kept.classification

/-- A call that returns does not exceed the record that it finds, and if it writes the object anew
it does not fall below the earlier ones either. -/
def Level (sink:Sink) (calls:List Call) : Prop :=
 ∀front call back,calls=front++call::back →
   (putLocked (sinkAfter sink front) call).1.isOk=true →
   (∀kept,sinkAfter sink front call.key=some kept →
    call.input.classification ≤ kept.classification) ∧
   (Anew call.answers → ∀put∈classesPut sink front call.key,put ≤ call.input.classification)

lemma mem_classesPut_concat {put:DataClassification}
  (h:(putLocked (sinkAfter sink front) call).1=.ok result) :
  put∈classesPut sink (front++[call]) call.key ↔
   put∈classesPut sink front call.key ∨ put=call.input.classification := by
 simp [classesPut_concat,classPut,h,Except.isOk,Except.toBool]

lemma Level.kept (h:Level sink calls) (front back:List Call) (hcalls:calls=front++back)
  (key:Key) : ∀put∈classesPut sink front key,∃kept,sinkAfter sink front key=some kept ∧
   put ≤ kept.classification := by
 induction front using reverseRecOn generalizing back with
 | nil => simp [classesPut]
 | append_singleton front call ih =>
   intro put hput
   have hsplit:calls=front++call::back := by simpa using hcalls
   rw [classesPut_concat,mem_append] at hput
   rw [sinkAfter_concat]
   rcases hput with hput | hput
   · obtain ⟨kept,hkept,hle⟩:=ih _ hsplit put hput
     exact ⟨kept,putLocked_keeps hkept,hle⟩
   · unfold classPut at hput
     split_ifs at hput with hcall
     · obtain ⟨rfl,hok⟩:=hcall
       obtain rfl:=mem_singleton.mp hput
       cases hresult : (putLocked (sinkAfter sink front) call).1 with
       | error code =>
         rw [hresult] at hok
         cases hok
       | ok result =>
         obtain ⟨kept,hreturns⟩:=putLocked_returns hresult
         refine ⟨kept,hreturns.stays,?_⟩
         cases hsink : sinkAfter sink front call.key with
         | none => exact (hreturns.fresh hsink).ge
         | some before =>
           rw [hreturns.old before hsink]
           exact (h front call back hsplit hok).1 before hsink
     · cases hput

/-- Stored content is never under-classified exactly when the puts of an object stay on the level of
its first record. -/
theorem neverUnder_iff_level (sink:Sink) (calls:List Call) :
  NeverUnder sink calls ↔ Level sink calls := by
 constructor
 · intro h front call back hsplit hok
   cases hresult : (putLocked (sinkAfter sink front) call).1 with
   | error code =>
     rw [hresult] at hok
     cases hok
   | ok result =>
     obtain ⟨kept,hreturns⟩:=putLocked_returns hresult
     have hcovered:=h front call back result hsplit hresult
     constructor
     · intro before hbefore
       obtain ⟨-,kept',hkept',hle⟩ :=
        hcovered call.input.classification ((mem_classesPut_concat hresult).mpr (.inr rfl))
       rw [sinkAfter_concat,hreturns.stays,some.injEq] at hkept'
       rwa [← hkept',hreturns.old before hbefore] at hle
     · intro hanew put hput
       rw [← hreturns.anew hanew]
       exact (hcovered put ((mem_classesPut_concat hresult).mpr (.inl hput))).1
 · intro h front call back result hsplit hresult put hput
   obtain ⟨kept,hreturns⟩:=putLocked_returns hresult
   obtain ⟨hbelow,habove⟩:=h front call back hsplit (by rw [hresult]; rfl)
   have hkept:sinkAfter sink (front++[call]) call.key=some kept := by
    rw [sinkAfter_concat,hreturns.stays]
   have hle:put ≤ kept.classification := by
    obtain ⟨kept',hkept',hle⟩:=h.kept (front++[call]) back (by simpa using hsplit) call.key
     put hput
    rw [hkept,some.injEq] at hkept'
    rwa [hkept']
   refine ⟨?_,kept,hkept,hle⟩
   by_cases hanew : Anew call.answers
   · rw [hreturns.anew hanew]
     rcases (mem_classesPut_concat hresult).mp hput with hput | rfl
     · exact habove hanew put hput
     · exact le_rfl
   · rw [hreturns.reused hanew]
     exact hle

def samplePut (classification:DataClassification) (existing:Option Sealing) : Call where
 input := ⟨"p",[0],"text/plain",classification,none,false⟩
 answers := ⟨.ok existing,.ok ⟨.aes256Gcm,"k",[]⟩,.ok .installed,.ok (),"t"⟩

/-- The object is put as public first and as restricted afterwards. -/
theorem restricted_put_returns_public :
  ¬NeverUnder (fun _=>none) [samplePut .publicData none,
   samplePut .restricted (some ⟨.aes256Gcm,"k",[]⟩)] := by
 intro h
 obtain ⟨hle,-⟩:=h [samplePut .publicData none] _ [] _ rfl rfl .restricted (by decide)
 revert hle
 decide

end Histories

end EpistemicCompiler.ContentRecords
