import Mathlib.Data.List.Induction
import EpistemicCompiler.Base64Text
import EpistemicCompiler.OperationStore

set_option autoImplicit false

/-!
# Runs of operation-store calls

Each call is read off as its effect on the row of one operation. Finality of finished
operations and the fencing of leases are invariants of any sequence of calls.
-/
namespace EpistemicCompiler.OperationHistory
open RunStates FallibleRuns StoreTransactions OperationStore List Option

section Rows

variable {table:OperationTable} {p o:String} {row:OperationRow}

lemma readOperation_key (h:readOperation table p o=some row) :
  row.projectId=p ∧ row.operationId=o := by
 simpa [OperationRow.hasKey] using find?_some h

lemma requireOperation_ok (h:requireOperation table p o=.ok row) :
  readOperation table p o=some row := by
 unfold requireOperation at h
 split at h
 · cases h
 · rename_i found hfound
   cases h
   exact hfound

lemma readOperation_map (f:OperationRow → OperationRow)
  (hf:∀row,(f row).projectId=row.projectId ∧ (f row).operationId=row.operationId)
  (p o:String) : readOperation (table.map f) p o=(readOperation table p o).map f := by
 unfold readOperation
 rw [find?_map]
 congr 2
 funext row
 simp [OperationRow.hasKey,hf row]

section Update

variable (f:OperationRow → OperationRow)
 (hf:∀row,(f row).projectId=row.projectId ∧ (f row).operationId=row.operationId)

include hf

lemma readOperation_update_self (table:OperationTable) (p o:String) :
  readOperation (updateOperation table p o f) p o=(readOperation table p o).map f := by
 rw [updateOperation,readOperation_map]
 · refine map_congr fun row hrow=>?_
   simp [OperationRow.hasKey,readOperation_key hrow]
 · intro row
   split
   · exact hf row
   · exact ⟨rfl,rfl⟩

lemma readOperation_update_other (table:OperationTable) {p' o':String}
  (hne:¬ (p=p' ∧ o=o')) :
  readOperation (updateOperation table p' o' f) p o=readOperation table p o := by
 rw [updateOperation,readOperation_map]
 · refine (map_congr fun row hrow=>?_).trans map_id'
   obtain ⟨rfl,rfl⟩:=readOperation_key hrow
   exact if_neg (by simpa [OperationRow.hasKey] using hne)
 · intro row
   split
   · exact hf row
   · exact ⟨rfl,rfl⟩

end Update

end Rows

section Specs

variable {leaseTokenHash:LeaseToken → String} {tables:OtherTables} {p:String}
 {table table':OperationTable}

lemma enqueueOperation_ok {input:EnqueueOperationInput} {row:OperationRow}
  (h:enqueueOperation tables p input table=.ok (row,table')) :
  table'=table ∨
   (readOperation table p input.operationId=none ∧ table'=table++[row] ∧
    row.projectId=p ∧ row.operationId=input.operationId ∧ row.status=.ready ∧
    row.leaseGeneration=0) := by
 unfold enqueueOperation at h
 split at h
 on_goal 1 => cases h
 split at h
 on_goal 1 => cases h
 split at h
 · split at h
   · cases h
   · cases h
     exact .inl rfl
 · rename_i hnone
   split at h
   · split at h
     · obtain ⟨found,-,h⟩:=bind_eq_ok h
       cases h
       exact .inl rfl
     · cases h
   · cases h
     exact .inr ⟨hnone,rfl,rfl,rfl,rfl,rfl⟩

lemma assertLiveLease_ok {row:OperationRow} {token:LeaseToken} {owner:String}
  {now:Timestamp} (h:assertLiveLease leaseTokenHash row token owner now=.ok ()) :
  ∃leaseUntil,row.status=.leased owner leaseUntil (leaseTokenHash token) := by
 unfold assertLiveLease at h
 split at h
 on_goal 2 => cases h
 rename_i storedOwner leaseUntil storedHash hstatus
 split at h
 on_goal 1 => cases h
 split at h
 on_goal 1 => cases h
 rename_i howner
 split at h
 on_goal 1 => cases h
 rename_i htoken
 rw [not_not] at howner htoken
 exact ⟨leaseUntil,by rw [hstatus,howner,htoken]⟩

lemma holder_ok {α:Type} {operationId:String} {token:LeaseToken} {owner:String}
  {now:Timestamp} {rest:OperationRow → Except StoreError α} {a:α}
  (h:(do
   let row ← requireOperation table p operationId
   assertLiveLease leaseTokenHash row token owner now
   rest row)=.ok a) :
  ∃row leaseUntil,readOperation table p operationId=some row ∧
    row.status=.leased owner leaseUntil (leaseTokenHash token) ∧ rest row=.ok a := by
 obtain ⟨row,hrow,h⟩:=bind_eq_ok h
 obtain ⟨_,hlive,h⟩:=bind_eq_ok h
 obtain ⟨leaseUntil,hstatus⟩:=assertLiveLease_ok hlive
 exact ⟨row,leaseUntil,requireOperation_ok hrow,hstatus,h⟩

lemma assertClaimable_ok {row:OperationRow} {now:Timestamp}
  (h:assertClaimable row now=.ok ()) :
  row.status=.ready ∨ (row.reclaimable ∧
   ((∃owner leaseUntil hash,row.status=.leased owner leaseUntil hash ∧ leaseUntil<now) ∨
     (∃digest,row.status=.failed digest ∨ row.status=.unknown digest))) := by
 unfold assertClaimable at h
 split at h
 · cases h
 · cases h
 · exact .inl (by assumption)
 · rename_i owner leaseUntil hash hstatus
   split at h
   on_goal 1 => cases h
   rename_i hreclaim
   split at h
   on_goal 1 => cases h
   rename_i hlate
   exact .inr ⟨not_not.mp hreclaim, .inl ⟨owner,leaseUntil,hash,hstatus,String.not_le.mp hlate⟩⟩
 · split at h
   on_goal 1 => cases h
   exact .inr ⟨not_not.mp (by assumption),.inr ⟨_,.inl (by assumption)⟩⟩
 · split at h
   on_goal 1 => cases h
   exact .inr ⟨not_not.mp (by assumption),.inr ⟨_,.inr (by assumption)⟩⟩

end Specs

section Ledger

variable (leaseTokenHash:LeaseToken → String) (p o:String)

structure LeaseGrant where
 owner : String
 token : LeaseToken
 generation : ℕ

/-- What the workers of one operation know: the leases granted, newest first, and the end of
the newest one unless its holder completed or failed the operation. -/
structure LeaseLedger where
 grants : List LeaseGrant
 outstanding : Option Timestamp

def LeaseLedger.empty : LeaseLedger := ⟨[],none⟩

def recordAnswer {α:Type} (projectId operationId:String) (ledger:LeaseLedger)
    (recorded:α → LeaseLedger) : Except StoreError α → LeaseLedger
 | .ok a => if p=projectId ∧ o=operationId then recorded a else ledger
 | .error _ => ledger

def recordCall (table:OperationTable) (ledger:LeaseLedger) : OperationCall → LeaseLedger
 | .lease projectId input token =>
   recordAnswer p o projectId input.operationId ledger
    (fun result=>
     ⟨⟨input.owner,result.token,result.generation⟩::ledger.grants,some result.leaseUntil⟩)
    (executeWrite (leaseOperation leaseTokenHash projectId input token) table).1
 | .heartbeat projectId input =>
   recordAnswer p o projectId input.operationId ledger
    (fun _=>{ ledger with outstanding:=some input.leaseUntil })
    (executeWrite (heartbeatOperation leaseTokenHash projectId input) table).1
 | .complete tables projectId input =>
   recordAnswer p o projectId input.operationId ledger
    (fun _=>{ ledger with outstanding:=none })
    (executeWrite (completeOperation leaseTokenHash tables projectId input) table).1
 | .fail tables projectId input =>
   recordAnswer p o projectId input.operationId ledger
    (fun _=>{ ledger with outstanding:=none })
    (executeWrite (failOperation leaseTokenHash tables projectId input) table).1
 | .expireLeases owner leaseUntil =>
   -- The store moves the end of every lease of the owner.
   match (readOperation table p o).map OperationRow.status with
   | some (OperationStatus.leased storedOwner _ _) =>
     if storedOwner=owner then { ledger with outstanding:=some leaseUntil } else ledger
   | _ => ledger
 | .enqueue .. | .markUnknown .. => ledger

inductive CallEffect (call:OperationCall) (ledger:LeaseLedger) :
  Option OperationRow → Option OperationRow → LeaseLedger → Prop
 | idle (row:Option OperationRow) : CallEffect call ledger row row ledger
 | created (row:OperationRow) (hstatus:row.status=.ready)
   (hgeneration:row.leaseGeneration=0) : CallEffect call ledger none (some row) ledger
 | granted (row:OperationRow) (owner:String) (leaseUntil now:Timestamp)
   (token:LeaseToken) (hclaim:assertClaimable row now=.ok ()) :
   CallEffect call ledger (some row)
    (some (row.grantLease owner leaseUntil (leaseTokenHash token) (row.leaseGeneration+1)
     now))
    ⟨⟨owner,token,row.leaseGeneration+1⟩::ledger.grants,some leaseUntil⟩
 | moved (row row':OperationRow) (owner hash:String) (before leaseUntil:Timestamp)
   (hstatus:row.status=.leased owner before hash)
   (hstatus':row'.status=.leased owner leaseUntil hash)
   (hgeneration:row'.leaseGeneration=row.leaseGeneration)
   (hreclaimable:row'.reclaimable=row.reclaimable) :
   CallEffect call ledger (some row) (some row')
    { ledger with outstanding:=some leaseUntil }
 | released (row:OperationRow) (owner hash:String) (before updatedAt:Timestamp)
   (status:OperationStatus) (hstatus:row.status=.leased owner before hash)
   (hreleased:∃digest,status=.succeeded digest ∨ status=.failed digest) :
   CallEffect call ledger (some row) (some (row.setStatus status updatedAt))
    { ledger with outstanding:=none }
 | lost (row:OperationRow) (tables:OtherTables) (input:MarkOperationUnknownInput)
   (hcall:call=.markUnknown tables p input) (hkey:input.operationId=o) :
   CallEffect call ledger (some row)
    (some (row.setStatus (.unknown input.errorDigest) input.updatedAt)) ledger

variable (table:OperationTable) (ledger:LeaseLedger)

abbrev Effect (call:OperationCall) : Prop :=
 CallEffect leaseTokenHash p o call ledger (readOperation table p o)
  (readOperation (applyCall leaseTokenHash table call) p o)
  (recordCall leaseTokenHash p o table ledger call)

lemma enqueue_effect (tables:OtherTables) (projectId:String) (input:EnqueueOperationInput) :
  Effect leaseTokenHash p o table ledger (.enqueue tables projectId input) := by
 simp only [Effect,applyCall,recordCall]
 rcases executeWrite_cases (enqueueOperation tables projectId input) table with
  ⟨row,table',hwork,hwrite⟩ | ⟨e,-,hwrite⟩
 · rw [hwrite]
   rcases enqueueOperation_ok hwork with rfl | ⟨hnone,rfl,hp,ho,hstatus,hgeneration⟩
   · exact .idle _
   · by_cases hkey : p=projectId ∧ o=input.operationId
     · obtain ⟨rfl,rfl⟩:=hkey
       have hcreated:readOperation (table++[row]) p input.operationId=some row := by
        have hself:row.hasKey p input.operationId=true := by
         simp [OperationRow.hasKey,hp,ho]
        unfold readOperation at hnone ⊢
        rw [find?_append,hnone]
        simp [hself]
       rw [hnone,hcreated]
       exact .created row hstatus hgeneration
     · have hsame:readOperation (table++[row]) p o=readOperation table p o := by
        have hother:row.hasKey p o=false := by
         simp only [OperationRow.hasKey,hp,ho,decide_eq_false_iff_not]
         rintro ⟨rfl,rfl⟩
         exact hkey ⟨rfl,rfl⟩
        simp [readOperation,find?_append,hother]
       rw [hsame]
       exact .idle _
 · rw [hwrite]
   exact .idle _

lemma update_effect {α:Type} {call:OperationCall}
  {work:OperationTable → Except StoreError (α×OperationTable)}
  {projectId operationId:String} {recorded:α → LeaseLedger}
  (hwork:∀a table',work table=.ok (a,table') →
   ∃row f,readOperation table projectId operationId=some row ∧
     table'=updateOperation table projectId operationId f ∧
     (∀r : OperationRow,(f r).projectId=r.projectId ∧ (f r).operationId=r.operationId) ∧
     (p=projectId ∧ o=operationId →
      CallEffect leaseTokenHash p o call ledger (some row) (some (f row)) (recorded a))) :
  CallEffect leaseTokenHash p o call ledger (readOperation table p o)
   (readOperation (executeWrite work table).2 p o)
   (recordAnswer p o projectId operationId ledger recorded (executeWrite work table).1) := by
 rcases executeWrite_cases work table with ⟨a,table',ha,hwrite⟩ | ⟨e,-,hwrite⟩
 · obtain ⟨row,f,hrow,rfl,hf,heffect⟩:=hwork a table' ha
   rw [hwrite]
   simp only [recordAnswer]
   by_cases hkey : p=projectId ∧ o=operationId
   · rw [if_pos hkey]
     obtain ⟨rfl,rfl⟩:=hkey
     rw [readOperation_update_self f hf,hrow]
     exact heffect ⟨rfl,rfl⟩
   · rw [if_neg hkey,readOperation_update_other f hf table hkey]
     exact .idle _
 · rw [hwrite]
   exact .idle _

lemma lease_effect (projectId:String) (input:LeaseOperationInput) (token:LeaseToken) :
  Effect leaseTokenHash p o table ledger (.lease projectId input token) := by
 refine update_effect _ _ _ _ _ fun result table' hwork=>?_
 obtain ⟨row,hrow,h⟩:=bind_eq_ok hwork
 obtain ⟨_,hclaim,h⟩:=bind_eq_ok h
 cases h
 exact ⟨row,_,requireOperation_ok hrow,rfl,fun _=>⟨rfl,rfl⟩,
  fun _=>.granted row _ _ _ token hclaim⟩

lemma heartbeat_effect (projectId:String) (input:HeartbeatInput) :
  Effect leaseTokenHash p o table ledger (.heartbeat projectId input) := by
 refine update_effect _ _ _ _ _ fun _ table' hwork=>?_
 obtain ⟨row,leaseUntil,hrow,hstatus,h⟩:=holder_ok hwork
 obtain ⟨_,-,h⟩:=bind_eq_ok h
 obtain ⟨_,-,h⟩:=bind_eq_ok h
 cases h
 refine ⟨row,_,hrow,rfl,fun _=>?_,fun _=>?_⟩
 · unfold OperationRow.renewLease
   split <;> exact ⟨rfl,rfl⟩
 refine .moved row _ input.owner _ leaseUntil _ hstatus ?_ ?_ ?_
 all_goals simp only [OperationRow.renewLease,hstatus,OperationRow.setStatus]

section

variable (tables:OtherTables) (projectId:String)

lemma release_effect :
  (∀input,Effect leaseTokenHash p o table ledger (.complete tables projectId input)) ∧
   ∀input,Effect leaseTokenHash p o table ledger (.fail tables projectId input) := by
 constructor
 all_goals
  intro input
  refine update_effect _ _ _ _ _ fun done table' hwork=>?_
  obtain ⟨row,leaseUntil,hrow,hstatus,h⟩:=holder_ok hwork
  obtain ⟨_,-,h⟩:=bind_eq_ok h
  obtain ⟨_,-,h⟩:=bind_eq_ok h
  obtain ⟨_,-,h⟩:=bind_eq_ok h
  cases h
  refine ⟨row,_,hrow,rfl,fun _=>⟨rfl,rfl⟩,fun _=>?_⟩
  exact .released row _ _ leaseUntil _ _ hstatus ⟨_,by first | exact .inl rfl | exact .inr rfl⟩

lemma markUnknown_effect (input:MarkOperationUnknownInput) :
  Effect leaseTokenHash p o table ledger (.markUnknown tables projectId input) := by
 have hconst:ledger=recordAnswer p o projectId input.operationId ledger (fun _=>ledger)
   (executeWrite (markOperationUnknown tables projectId input) table).1 := by
  cases (executeWrite (markOperationUnknown tables projectId input) table).1 <;>
   simp [recordAnswer]
 simp only [Effect,applyCall,recordCall]
 nth_rewrite 2 [hconst]
 refine update_effect _ _ _ _ _ fun done table' hwork=>?_
 obtain ⟨row,hrow,h⟩:=bind_eq_ok hwork
 obtain ⟨_,-,h⟩:=bind_eq_ok h
 obtain ⟨_,-,h⟩:=bind_eq_ok h
 cases h
 refine ⟨row,_,requireOperation_ok hrow,rfl,fun _=>⟨rfl,rfl⟩, ?_⟩
 rintro ⟨rfl,rfl⟩
 exact .lost row tables input rfl rfl

end 

lemma expireLeases_effect (owner:String) (leaseUntil:Timestamp) :
  Effect leaseTokenHash p o table ledger (.expireLeases owner leaseUntil) := by
 simp only [Effect,applyCall,recordCall,expireLeasesForOwner]
 have hkey:∀row : OperationRow,(row.expireLease owner leaseUntil).projectId=row.projectId ∧
   (row.expireLease owner leaseUntil).operationId=row.operationId := by
  intro row
  unfold OperationRow.expireLease
  split
  · split <;> exact ⟨rfl,rfl⟩
  · exact ⟨rfl,rfl⟩
 rw [readOperation_map _ hkey]
 cases hrow : readOperation table p o with
 | none => exact .idle _
 | some row =>
   simp only [map_some]
   cases hstatus : row.status with
   | leased storedOwner before hash =>
     by_cases howner : storedOwner=owner
     · simp only [howner,if_true]
       refine .moved row _ owner hash before _ (howner ▸ hstatus) ?_ ?_ ?_
       all_goals simp only [OperationRow.expireLease,hstatus,howner,if_true]
     · have hsame:row.expireLease owner leaseUntil=row := by
        simp only [OperationRow.expireLease,hstatus,if_neg howner]
       simp only [if_neg howner,hsame]
       exact .idle _
   | _ =>
     have hsame:row.expireLease owner leaseUntil=row := by
      simp only [OperationRow.expireLease,hstatus]
     rw [hsame]
     exact .idle _

lemma applyCall_effect (call:OperationCall) : Effect leaseTokenHash p o table ledger call := by
 cases call with
 | enqueue tables projectId input => exact enqueue_effect ..
 | lease projectId input token => exact lease_effect ..
 | heartbeat projectId input => exact heartbeat_effect ..
 | complete tables projectId input => exact (release_effect ..).1 input
 | fail tables projectId input => exact (release_effect ..).2 input
 | markUnknown tables projectId input => exact markUnknown_effect ..
 | expireLeases owner leaseUntil => exact expireLeases_effect ..

end Ledger

def sampleTokenHash (token:LeaseToken) : String :=
 String.ofList (token.map fun b=>Char.ofNat b.toNat)

lemma sampleTokenHash_injective : Function.Injective sampleTokenHash :=
 Base64Text.ofList_bytes_injective

def sampleTables : OtherTables := ⟨fun _=>true, fun _=>true⟩

def sampleEnqueue : OperationCall :=
 .enqueue sampleTables "project"
  ⟨"op_1","run_1",.compileContext,"dedupe","sha256:input","2026-01-01T00:00:00.000Z"⟩

def sampleLease (owner:String) (leaseUntil now:Timestamp) : LeaseOperationInput :=
 ⟨"op_1",owner,leaseUntil,now⟩

def leasedCalls : List OperationCall := [
 sampleEnqueue,
 .lease "project" (sampleLease "a" "2026-01-01T00:00:11.000Z" "2026-01-01T00:00:01.000Z") [1]]

def sampleUnknown : OperationCall :=
 .markUnknown sampleTables "project" ⟨"op_1","sha256:error","2026-01-01T00:00:02.000Z"⟩

def sampleComplete : OperationCall :=
 .complete sampleTables "project" ⟨"op_1",[1],"a","sha256:result",
  "2026-01-01T00:00:02.000Z","2026-01-01T00:00:02.000Z",none⟩

def isFinished : OperationStatus → Bool
 | .succeeded _ | .cancelled => true
 | _ => false

lemma not_claimable_of_finished {row:OperationRow} (hfinished:isFinished row.status)
  (now:Timestamp) : assertClaimable row now≠.ok () := by
 intro h
 rcases assertClaimable_ok h with hs | ⟨-,⟨_,_,_,hs,-⟩ | ⟨_,hs | hs⟩⟩ <;>
  simp [hs,isFinished] at hfinished

lemma CallEffect.finished {leaseTokenHash:LeaseToken → String} {p o:String}
  {call:OperationCall} {ledger ledger':LeaseLedger} {row:OperationRow}
  {row':Option OperationRow}
  (h:CallEffect leaseTokenHash p o call ledger (some row) row' ledger')
  (hfinished:isFinished row.status)
  (hspares:∀tables input,call=.markUnknown tables p input → input.operationId≠o) :
  row'=some row := by
 cases h with
 | idle => rfl
 | granted _ owner leaseUntil now token hclaim =>
   exact absurd hclaim (not_claimable_of_finished hfinished _)
 | moved _ row' owner hash before leaseUntil hstatus => simp [hstatus,isFinished] at hfinished
 | released _ owner hash before updatedAt status hstatus =>
   simp [hstatus,isFinished] at hfinished
 | lost _ tables input hcall hkey => exact absurd hkey (hspares tables input hcall)

lemma runCalls_finished (leaseTokenHash:LeaseToken → String) {p o:String}
  {row:OperationRow} (hfinished:isFinished row.status) (calls:List OperationCall)
  (hspares:∀tables input,.markUnknown tables p input∈calls → input.operationId≠o)
  (table:OperationTable) (hrow:readOperation table p o=some row) :
  readOperation (runCalls leaseTokenHash table calls) p o=some row := by
 induction calls generalizing table with
 | nil => exact hrow
 | cons call calls ih =>
   refine ih (fun tables input hmem=>hspares tables input (mem_cons_of_mem _ hmem))
    (applyCall leaseTokenHash table call) ?_
   have heffect:=applyCall_effect leaseTokenHash p o table .empty call
   rw [Effect,hrow] at heffect
   exact heffect.finished hfinished fun tables input hcall=>
    hspares tables input (hcall ▸ mem_cons_self)

/-- A completed operation is marked unknown and then leased by another worker. -/
theorem finished_reopened :
  (readOperation (runCalls sampleTokenHash [] (leasedCalls++[sampleComplete])) "project"
   "op_1").map (·.status)=some (.succeeded "sha256:result") ∧
  (readOperation (runCalls sampleTokenHash [] (leasedCalls++[sampleComplete,sampleUnknown]))
   "project" "op_1").map (·.status)=some (.unknown "sha256:error") ∧
  (readOperation (runCalls sampleTokenHash [] (leasedCalls++[sampleComplete,sampleUnknown,
   .lease "project" (sampleLease "b" "2026-01-01T00:00:13.000Z" "2026-01-01T00:00:03.000Z")
    [2]])) "project" "op_1").map (·.leaseGeneration)=some 2 := by
 decide

/-- A succeeded or cancelled operation keeps its row and cannot be leased again, as long as no
later `markOperationUnknown` names it. -/
theorem finished_final (leaseTokenHash:LeaseToken → String) (table:OperationTable)
  (p o:String) (row:OperationRow) (before after:List OperationCall)
  (hrow:readOperation (runCalls leaseTokenHash table before) p o=some row)
  (hfinished:isFinished row.status)
  (hspared:∀tables input,.markUnknown tables p input∈after → input.operationId≠o) :
  readOperation (runCalls leaseTokenHash table (before++after)) p o=some row ∧
   ∀input token,input.operationId=o → ∃e,leaseOperation leaseTokenHash p input token
     (runCalls leaseTokenHash table (before++after))=.error e := by
 have hkept:readOperation (runCalls leaseTokenHash table (before++after)) p o=some row := by
  unfold runCalls
  rw [foldl_append]
  exact runCalls_finished leaseTokenHash hfinished after hspared _ hrow
 refine ⟨hkept,fun input token hkey=>?_⟩
 subst hkey
 cases hlease : leaseOperation leaseTokenHash p input token
   (runCalls leaseTokenHash table (before++after)) with
 | error e => exact ⟨e,rfl⟩
 | ok result =>
   obtain ⟨row',hrow',hlease⟩:=bind_eq_ok hlease
   obtain ⟨_,hclaim,-⟩:=bind_eq_ok hlease
   rw [requireOperation_ok hrow',some.injEq] at hkept
   exact absurd hclaim (hkept ▸ not_claimable_of_finished hfinished _)

theorem finished_final_sample :
  ∃row,readOperation (runCalls sampleTokenHash [] (leasedCalls++[sampleComplete]))
    "project" "op_1"=some row ∧
    readOperation (runCalls sampleTokenHash [] ((leasedCalls++[sampleComplete]) ++
     [.lease "project" (sampleLease "b" "2026-01-01T00:00:13.000Z" "2026-01-01T00:00:12.000Z")
      [2]])) "project" "op_1"=some row := by
 have hstatus:(readOperation (runCalls sampleTokenHash [] (leasedCalls++[sampleComplete]))
   "project" "op_1").map (·.status)=some (.succeeded "sha256:result") := by
  decide
 obtain ⟨row,hrow,hrowStatus⟩:=map_eq_some_iff.mp hstatus
 exact ⟨row,hrow,(finished_final sampleTokenHash [] "project" "op_1" row _ _ hrow
  (by rw [hrowStatus]; rfl) (by simp)).1⟩

section Fencing

variable (leaseTokenHash:LeaseToken → String) (p o:String)

def history (table:OperationTable) (calls:List OperationCall) :
    OperationTable×LeaseLedger :=
 calls.foldl (fun s call=>(applyCall leaseTokenHash s.1 call,
  recordCall leaseTokenHash p o s.1 s.2 call)) (table,.empty)

lemma history_snoc (table:OperationTable) (calls:List OperationCall) (call:OperationCall) :
  history leaseTokenHash p o table (calls++[call]) =
   (applyCall leaseTokenHash (history leaseTokenHash p o table calls).1 call,
    recordCall leaseTokenHash p o (history leaseTokenHash p o table calls).1
     (history leaseTokenHash p o table calls).2 call) := by
 simp [history]

lemma history_table (table:OperationTable) (calls:List OperationCall) :
  (history leaseTokenHash p o table calls).1=runCalls leaseTokenHash table calls := by
 induction calls using reverseRecOn with
 | nil => rfl
 | append_singleton calls call ih => rw [history_snoc,ih]; simp [runCalls]

/-- How the row of an operation and its ledger hang together after any calls. -/
structure Fenced (row:OperationRow) (ledger:LeaseLedger) : Prop where
 decreasing : (ledger.grants.map (·.generation)).Pairwise (· > ·)
 bounded : ∀grant∈ledger.grants,grant.generation ≤ row.leaseGeneration
 ready : row.status=.ready → ledger=.empty
 leased : ∀owner leaseUntil hash,row.status=.leased owner leaseUntil hash →
  ledger.outstanding=some leaseUntil ∧ ∃grant rest,ledger.grants=grant::rest ∧
   grant.owner=owner ∧ leaseTokenHash grant.token=hash ∧
   grant.generation=row.leaseGeneration
 once : row.reclaimable=false → ledger.grants.length ≤ 1

def FencedOption (ledger:LeaseLedger) : Option OperationRow → Prop
 | none => ledger=.empty
 | some row => Fenced leaseTokenHash row ledger

/-- An unreleased lease of a reclaimable operation is still the one in the row. -/
def Held (row:Option OperationRow) (ledger:LeaseLedger) : Prop :=
 ∀r u,row=some r → r.reclaimable → ledger.outstanding=some u →
   ∃owner hash,r.status=.leased owner u hash

variable {leaseTokenHash p o} {call:OperationCall} {ledger ledger':LeaseLedger}
 {row row':Option OperationRow}

section

variable (h:CallEffect leaseTokenHash p o call ledger row row' ledger')
 (hf:FencedOption leaseTokenHash ledger row)
include h hf

lemma CallEffect.fenced : FencedOption leaseTokenHash ledger' row' := by
 cases h with
 | idle => exact hf
 | created r hstatus hgeneration =>
   obtain rfl : ledger=.empty:=hf
   exact ⟨.nil,by simp [LeaseLedger.empty],fun _=>rfl, by simp [hstatus],
    by simp [LeaseLedger.empty]⟩
 | granted r owner leaseUntil now token hclaim =>
   refine ⟨?_,?_,nofun,?_,?_⟩
   · refine pairwise_cons.mpr ⟨fun g hg=>?_, hf.decreasing⟩
     obtain ⟨grant,hgrant,rfl⟩:=mem_map.mp hg
     exact Nat.lt_succ_of_le (hf.bounded grant hgrant)
   · intro grant hgrant
     rcases mem_cons.mp hgrant with rfl | hgrant
     · exact le_rfl
     · exact Nat.le_succ_of_le (hf.bounded grant hgrant)
   · intro owner' leaseUntil' hash hstatus
     cases hstatus
     exact ⟨rfl,_,_,rfl,rfl,rfl,rfl⟩
   · intro hreclaimable
     change r.reclaimable=false at hreclaimable
     -- Only a ready row of such a kind can be claimed, and it was never leased before.
     rcases assertClaimable_ok hclaim with hready | ⟨hreclaim,-⟩
     · simp [hf.ready hready,LeaseLedger.empty]
     · exact absurd hreclaim (by simp [hreclaimable])
 | moved r r' owner hash before leaseUntil hstatus hstatus' hgeneration hreclaimable =>
   refine ⟨hf.decreasing,by rw [hgeneration]; exact hf.bounded,by simp [hstatus'],?_,
    by rw [hreclaimable]; exact hf.once⟩
   intro owner' leaseUntil' hash' hleased
   rw [hstatus'] at hleased
   cases hleased
   obtain ⟨-,hgrant⟩:=hf.leased _ _ _ hstatus
   exact ⟨rfl,by rw [hgeneration]; exact hgrant⟩
 | released r owner hash before updatedAt status hstatus hreleased =>
   obtain ⟨digest,rfl | rfl⟩:=hreleased <;>
    exact ⟨hf.decreasing,hf.bounded,nofun,nofun,hf.once⟩
 | lost r tables input hcall hkey =>
   exact ⟨hf.decreasing,hf.bounded,nofun,nofun,hf.once⟩

lemma CallEffect.held (hh:Held row ledger)
  (hunknown:∀tables input r,call=.markUnknown tables p input → input.operationId=o →
   row=some r → r.reclaimable → ∀owner u hash,r.status≠.leased owner u hash) :
  Held row' ledger' := by
 intro r' u hr' hreclaim hout
 cases h with
 | idle => exact hh r' u hr' hreclaim hout
 | created r hstatus hgeneration =>
   obtain rfl : ledger=.empty:=hf
   cases hout
 | granted r owner leaseUntil now token hclaim =>
   cases hr'
   cases hout
   exact ⟨owner,_,rfl⟩
 | moved r _ owner hash before leaseUntil hstatus hstatus' hgeneration hreclaimable =>
   cases hr'
   cases hout
   exact ⟨owner,hash,hstatus'⟩
 | released r owner hash before updatedAt status hstatus hreleased => cases hout
 | lost r tables input hcall hkey =>
   cases hr'
   obtain ⟨owner,hash,hleased⟩:=hh r u rfl hreclaim hout
   exact absurd hleased (hunknown tables input r hcall hkey rfl hreclaim owner u hash)

end 

lemma history_fenced (table:OperationTable) (hnew:readOperation table p o=none)
  (calls:List OperationCall) :
  FencedOption leaseTokenHash (history leaseTokenHash p o table calls).2
   (readOperation (history leaseTokenHash p o table calls).1 p o) := by
 induction calls using reverseRecOn with
 | nil =>
   change FencedOption leaseTokenHash .empty (readOperation table p o)
   rw [hnew]
   rfl
 | append_singleton calls call ih =>
   rw [history_snoc]
   exact (applyCall_effect leaseTokenHash p o _ _ call).fenced ih

/-- No call of the run marks the operation unknown while a lease of it is running and it could
be leased again. -/
def UnknownSparesLease (leaseTokenHash:LeaseToken → String) (p o:String)
    (table:OperationTable) (calls:List OperationCall) : Prop :=
 ∀before tables input after row,calls=before++.markUnknown tables p input::after →
   input.operationId=o → readOperation (runCalls leaseTokenHash table before) p o=some row →
   row.reclaimable → ∀owner leaseUntil hash,row.status≠.leased owner leaseUntil hash

lemma history_held (table:OperationTable) (hnew:readOperation table p o=none)
  (calls:List OperationCall) (hunknown:UnknownSparesLease leaseTokenHash p o table calls) :
  Held (readOperation (history leaseTokenHash p o table calls).1 p o)
   (history leaseTokenHash p o table calls).2 := by
 induction calls using reverseRecOn with
 | nil =>
   intro r u hr
   change readOperation table p o=some r at hr
   rw [hnew] at hr
   cases hr
 | append_singleton calls call ih =>
   have hfront:UnknownSparesLease leaseTokenHash p o table calls :=
    fun before tables input after row hcalls=>hunknown before tables input (after++[call]) row
     (by rw [hcalls]; simp)
   rw [history_snoc]
   refine (applyCall_effect leaseTokenHash p o _ _ call).held (history_fenced table hnew calls)
    (ih hfront) fun tables input r hcall hkey hr=>?_
   rw [history_table] at hr
   exact hunknown calls tables input [] r (by rw [hcall]) hkey hr

/-- The caller owns the newest lease, and the row is still at its generation. -/
def HoldsNewestLease (p o:String) (after:OperationTable×LeaseLedger) (owner:String)
    (token:LeaseToken) : Prop :=
 ∃grant rest,after.2.grants=grant::rest ∧ grant.owner=owner ∧ grant.token=token ∧
   (readOperation after.1 p o).map (·.leaseGeneration)=some grant.generation

lemma holdsNewestLease_of_ok (hinj:Function.Injective leaseTokenHash)
  {after:OperationTable×LeaseLedger} {α:Type} {owner:String} {token:LeaseToken}
  {now:Timestamp} {rest:OperationRow → Except StoreError α} {a:α}
  (hf:∀row,readOperation after.1 p o=some row → Fenced leaseTokenHash row after.2)
  (h:(do
   let row ← requireOperation after.1 p o
   assertLiveLease leaseTokenHash row token owner now
   rest row)=.ok a) : HoldsNewestLease p o after owner token := by
 obtain ⟨row,_,hrow,hstatus,-⟩:=holder_ok h
 obtain ⟨-,grant,rest,hgrant,howner,htoken,hgeneration⟩:=(hf row hrow).leased _ _ _ hstatus
 exact ⟨grant,rest,hgrant,howner,hinj htoken,by rw [hrow,hgeneration]; rfl⟩

/-- The second worker leases the operation nine seconds before the lease of the first ends. -/
theorem running_lease_taken_over :
  ∃input token result table' leaseUntil,input.operationId = "op_1" ∧
    leaseOperation sampleTokenHash "project" input token
     (history sampleTokenHash "project" "op_1" [] (leasedCalls++[sampleUnknown])).1 =
      .ok (result,table') ∧
    (history sampleTokenHash "project" "op_1" [] (leasedCalls++[sampleUnknown])).2.outstanding =
     some leaseUntil ∧ input.now ≤ leaseUntil := by
 refine ⟨sampleLease "b" "2026-01-01T00:00:13.000Z" "2026-01-01T00:00:03.000Z",[2],?_⟩
 obtain ⟨r,hlease⟩:=exists_ok_of_isOk (show (leaseOperation sampleTokenHash "project"
  (sampleLease "b" "2026-01-01T00:00:13.000Z" "2026-01-01T00:00:03.000Z") [2]
  (history sampleTokenHash "project" "op_1" [] (leasedCalls++[sampleUnknown])).1).isOk=true
  by decide)
 exact ⟨r.1,r.2,"2026-01-01T00:00:11.000Z",rfl,hlease,by decide,by decide⟩

/-- Whatever the workers call and in whatever order: generations only grow, only the holder of
the newest lease acts on it, a running lease is not taken over, and an operation of a kind that
cannot be reclaimed is leased at most once. -/
theorem lease_fencing (leaseTokenHash:LeaseToken → String)
  (hinj:Function.Injective leaseTokenHash) (p o:String) (table:OperationTable)
  (hnew:readOperation table p o=none) (calls:List OperationCall)
  (hunknown:UnknownSparesLease leaseTokenHash p o table calls)
  (after:OperationTable×LeaseLedger) (hafter:after=history leaseTokenHash p o table calls) :
  (after.2.grants.map (·.generation)).Pairwise (· > ·) ∧
  (∀input table',input.operationId=o →
   heartbeatOperation leaseTokenHash p input after.1=.ok ((),table') →
   HoldsNewestLease p o after input.owner input.token) ∧
  (∀tables input done table',input.operationId=o →
   completeOperation leaseTokenHash tables p input after.1=.ok (done,table') →
   HoldsNewestLease p o after input.owner input.token) ∧
  (∀tables input done table',input.operationId=o →
   failOperation leaseTokenHash tables p input after.1=.ok (done,table') →
   HoldsNewestLease p o after input.owner input.token) ∧
  (∀input token result table' leaseUntil,input.operationId=o →
   leaseOperation leaseTokenHash p input token after.1=.ok (result,table') →
   after.2.outstanding=some leaseUntil → leaseUntil < input.now) ∧
  (∀row,readOperation after.1 p o=some row →
   row.operationKind ∉ reclaimableOperationKinds → after.2.grants.length ≤ 1) := by
 have hfenced:=@history_fenced leaseTokenHash p o table hnew calls
 have hheld:=history_held table hnew calls hunknown
 rw [← hafter] at hfenced hheld
 have hrowFenced:∀row,readOperation after.1 p o=some row →
   Fenced leaseTokenHash row after.2 := by
  intro row hrow
  rw [hrow] at hfenced
  exact hfenced
 refine ⟨?_,?_,?_,?_,?_,?_⟩
 · cases hrow : readOperation after.1 p o with
   | none =>
     rw [hrow] at hfenced
     rw [show after.2=.empty from hfenced]
     exact .nil
   | some row => exact (hrowFenced row hrow).decreasing
 · rintro input table' rfl h
   exact holdsNewestLease_of_ok hinj hrowFenced h
 · rintro tables input done table' rfl h
   exact holdsNewestLease_of_ok hinj hrowFenced h
 · rintro tables input done table' rfl h
   exact holdsNewestLease_of_ok hinj hrowFenced h
 · rintro input token result table' leaseUntil rfl h hout
   obtain ⟨row,hrow,h⟩:=bind_eq_ok h
   obtain ⟨_,hclaim,-⟩:=bind_eq_ok h
   replace hrow:=requireOperation_ok hrow
   rcases assertClaimable_ok hclaim with hready | ⟨hreclaim,hclaimable⟩
   · rw [(hrowFenced row hrow).ready hready] at hout
     cases hout
   · obtain ⟨owner,hash,hleased⟩:=hheld row leaseUntil hrow hreclaim hout
     rcases hclaimable with ⟨_,_,_,hstatus,hlate⟩ | ⟨_,hstatus | hstatus⟩ <;>
      rw [hleased] at hstatus <;> cases hstatus
     exact hlate
 · intro row hrow hkind
   refine (hrowFenced row hrow).once ?_
   rw [row.reclaimable_eq]
   simpa using hkind

theorem lease_fencing_sample :
  ∃grant rest,(history sampleTokenHash "project" "op_1" [] leasedCalls).2.grants =
    grant::rest ∧ grant.owner = "a" ∧ grant.token=[1] := by
 have hspared:UnknownSparesLease sampleTokenHash "project" "op_1" [] leasedCalls := by
  intro before tables input after row hcalls
  have hmem:OperationCall.markUnknown tables "project" input∈leasedCalls := by
   rw [hcalls]
   simp
  simp [leasedCalls,sampleEnqueue] at hmem
 have hfencing:=lease_fencing sampleTokenHash sampleTokenHash_injective "project" "op_1" [] rfl
  leasedCalls hspared _ rfl
 obtain ⟨r,hdone⟩:=exists_ok_of_isOk (show (completeOperation sampleTokenHash sampleTables "project"
  ⟨"op_1",[1],"a","sha256:result","2026-01-01T00:00:02.000Z","2026-01-01T00:00:02.000Z",none⟩
  (history sampleTokenHash "project" "op_1" [] leasedCalls).1).isOk=true by decide)
 obtain ⟨grant,rest,hgrants,howner,htoken,-⟩ :=
  hfencing.2.2.1 sampleTables _ r.1 r.2 rfl hdone
 exact ⟨grant,rest,hgrants,howner,htoken⟩

end Fencing

end EpistemicCompiler.OperationHistory
