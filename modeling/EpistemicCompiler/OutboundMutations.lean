import Mathlib
import EpistemicCompiler.PromotionWorld
import EpistemicCompiler.SharedPrograms

set_option autoImplicit false

/-!
# Signed calls of the runner

A signed call leaves a row in the runner's store before it puts anything on the wire. The row walks
from prepared over in flight to completed or to an unknown outcome; each write is one step.
-/
namespace EpistemicCompiler.OutboundMutations
open Option
open PromotionWorld (Json)
open StepPrograms StepPrograms.StepProgram

abbrev Bytes := List UInt8

inductive RunnerError where
 | io
 | sqlite
 | protocol (message:String)
 | canonicalJson
 | conflict
 | dpapi
 | http (message:String)
 | random
 deriving DecidableEq

inductive OutboundState where
 | prepared
 | inFlight
 | completed
 | outcomeUnknown
 deriving DecidableEq

structure MutationRow where
 projectId : Option String
 method : String
 targetUri : String
 digest : String
 body : Bytes
 state : OutboundState
 response : Option Bytes

inductive MutationPrepare where
 | send (operationId:String) (body:Bytes)
 | resumeCompleted (operationId:String) (response:Bytes)
 | outcomeUnknown (operationId:String)

structure HttpResponse where
 status : UInt16
 headers : List (String×String)
 body : Bytes
 deriving DecidableEq

/-- A request that has left the runner, with what came back for it. Unsigned requests carry no
operation id. -/
structure Exchange where
 operationId : Option String
 httpMethod : String
 path : String
 body : Bytes
 reply : Except RunnerError HttpResponse

structure World where
 mutations : String → Option MutationRow
 wire : List Exchange

/-- The libraries the runner calls: `serde_json`, its canonicaliser, SHA-256 and base64. -/
structure Env where
 fromSlice : Bytes → Option Json
 toVec : Json → Option Bytes
 canonicalJson : Json → Option Bytes
 sha256DigestTagged : Bytes → String
 encode : Bytes → String
 decode : String → Option Bytes

structure Env.Lawful (env:Env) : Prop where
 fromSlice_toVec : ∀value bytes,env.toVec value=some bytes → env.fromSlice bytes=some value
 decode_encode : ∀bytes,env.decode (env.encode bytes)=some bytes

/-- A store function fails before its write (clock, lock, encryption, statement) or after it (the
sync to disk). -/
structure StoreFault where
 before : Option RunnerError
 after : Option RunnerError

structure Weather where
 load : Option RunnerError
 insert : StoreFault
 inFlight : StoreFault
 signing : Option RunnerError
 connect : Option RunnerError
 reply : Except RunnerError HttpResponse
 completed : StoreFault
 outcomeUnknown : StoreFault

structure ApiClient where
 schemeHost : String

structure Call where
 operationId : String
 projectId : Option String
 method : String
 httpMethod : String
 path : String
 body : Bytes
 signed : Bool

variable (env:Env) (fault:StoreFault) (weather:Weather)

variable (operationId:String)

abbrev Action (α:Type) := StepProgram World RunnerError α

def failWith : Option RunnerError → Action Unit
 | none => pure ()
 | some e => throw e

def ofExcept {α:Type} (r:Except RunnerError α) : Action α := .done r

def canonicalOrRaw (body:Bytes) : Except RunnerError Bytes :=
 match env.fromSlice body with
 | some value =>
   match env.canonicalJson value with
   | some bytes => .ok bytes
   | none => .error .canonicalJson
 | none => .ok body

def requestDigest (body:Bytes) : Except RunnerError String :=
 (canonicalOrRaw env body).map env.sha256DigestTagged

def insertMutation (row:MutationRow) : Action Unit :=
 atomic fun w=>
  match w.mutations operationId with
  | some _ => (.error .sqlite,w)
  | none => (.ok (),{ w with mutations:=Function.update w.mutations operationId (some row) })

def updateMutation (states:List OutboundState) (change:MutationRow → MutationRow) : Action ℕ :=
 atomic fun w=>
  match w.mutations operationId with
  | some row =>
    if row.state∈states then
     (.ok 1,{ w with mutations:=Function.update w.mutations operationId (some (change row)) })
    else (.ok 0,w)
  | none => (.ok 0,w)

def resumeMutation (digest:String) (existing:MutationRow) :
    Except RunnerError MutationPrepare :=
 if existing.digest≠digest then .error .conflict
 else
  match existing.state with
  | .prepared => .ok (.send operationId existing.body)
  | .completed =>
    match existing.response with
    | some response => .ok (.resumeCompleted operationId response)
    | none => .error (.protocol "completed mutation missing response")
  | .inFlight => .ok (.outcomeUnknown operationId)
  | .outcomeUnknown => .ok (.outcomeUnknown operationId)

def prepareMutation (projectId:Option String) (method targetUri:String) (body:Bytes) :
    Action MutationPrepare := do
 let digest ← ofExcept (requestDigest env body)
 failWith weather.load
 match ← read fun w=>w.mutations operationId with
 | some existing => ofExcept (resumeMutation operationId digest existing)
 | none =>
   failWith weather.insert.before
   insertMutation operationId ⟨projectId,method,targetUri,digest,body,.prepared,none⟩
   failWith weather.insert.after
   pure (.send operationId body)

def markInFlight : Action Unit := do
 failWith fault.before
 let changed ← updateMutation operationId [.prepared] fun row=>{ row with state:=.inFlight }
 if changed≠1 then throw .conflict
 failWith fault.after

def markCompleted (response:Bytes) : Action Unit := do
 failWith fault.before
 let changed ← updateMutation operationId [.prepared,.inFlight] fun row=>
  { row with state:=.completed, response:=some response }
 if changed≠1 then throw .conflict
 failWith fault.after

def markOutcomeUnknown : Action Unit := do
 failWith fault.before
 let _ ← updateMutation operationId [.inFlight] fun row=>{ row with state:=.outcomeUnknown }
 failWith fault.after

def reconcileOnOpen (w:World) : World :=
 { w with
   mutations:=fun id=>(w.mutations id).map fun row=>
    if row.state=.inFlight then { row with state:=.outcomeUnknown } else row }

def storedResponse (response:HttpResponse) : Json :=
 .object [("body",.string (env.encode response.body)),
  ("headers",.array (response.headers.map fun header=>
   .array [.string header.1,.string header.2])),
  ("status",.number response.status.toNat)]

def serializeStoredResponse (response:HttpResponse) : Except RunnerError Bytes :=
 match env.toVec (storedResponse env response) with
 | some bytes => .ok bytes
 | none => .error .canonicalJson

def parseHeader (item:Json) : Option (String×String) := do
 let pair ← item.asArray
 let name ← pair.head?.bind Json.asStr
 let value ← (pair[1]?).bind Json.asStr
 pure (name,value)

def parseStatus (value:Json) : Option UInt16 := do
 let status ← (value.get "status").bind Json.asU64
 if status<2 ^ 64 then some (UInt16.ofNat status) else none

def parseStoredResponse (bytes:Bytes) : Except RunnerError HttpResponse := do
 let value ← (env.fromSlice bytes).elim (.error .canonicalJson) .ok
 let status ← (parseStatus value).elim (.error (.protocol "stored response status")) .ok
 let encoded ← ((value.get "body").bind Json.asStr).elim
  (.error (.protocol "stored response body")) .ok
 let body ← (env.decode encoded).elim (.error (.protocol "stored response b64")) .ok
 let headers:=(((value.get "headers").bind Json.asArray).getD []).filterMap parseHeader
 pure ⟨status,headers,body⟩

def unknownOutcome : RunnerError :=
 .protocol "in-flight mutation outcome is unknown; not sending a different body"

/-- Connecting can fail; once the request is written, all that is left is to wait for a reply. -/
def roundtrip (operationId:Option String) (c:Call) : Action HttpResponse := do
 failWith weather.connect
 write fun w=>
  { w with wire:=w.wire++[⟨operationId,c.httpMethod,c.path,c.body,weather.reply⟩] }
 ofExcept weather.reply

def settle (result:Except RunnerError HttpResponse) : Action Unit :=
 match result with
 | .ok response => do
   let stored ← ofExcept (serializeStoredResponse env response)
   match ← attempt (markCompleted weather.completed operationId stored) with
   | .ok () => pure ()
   | .error error => do
     markOutcomeUnknown weather.outcomeUnknown operationId
     throw error
 | .error _ => markOutcomeUnknown weather.outcomeUnknown operationId

def sendSigned (c:Call) : Action HttpResponse := do
 markInFlight weather.inFlight c.operationId
 failWith weather.signing
 let result ← attempt (roundtrip weather (some c.operationId) c)
 settle env weather c.operationId result
 ofExcept result

def call (client:ApiClient) (weather:Weather) (c:Call) : Action HttpResponse := do
 let targetUri:=client.schemeHost++c.path
 if c.signed then
  match ← prepareMutation env weather c.operationId c.projectId c.method targetUri c.body with
  | .resumeCompleted _ response => ofExcept (parseStoredResponse env response)
  | .outcomeUnknown _ => throw unknownOutcome
  | .send _ _ => sendSigned env weather c
 else roundtrip weather none c

lemma parseHeaders (headers:List (String×String)) :
  (headers.map fun header=>Json.array [.string header.1,.string header.2]).filterMap
   parseHeader=headers := by
 rw [List.filterMap_map]
 exact List.filterMap_some

lemma parse_serialize {env:Env} (henv:env.Lawful) {response:HttpResponse} {bytes:Bytes}
  (h:serializeStoredResponse env response=.ok bytes) :
  parseStoredResponse env bytes=.ok response := by
 have hvec:env.toVec (storedResponse env response)=some bytes := by
  unfold serializeStoredResponse at h
  split at h
  · rename_i hbytes
    rw [hbytes,Except.ok.inj h]
  · cases h
 have hstatus:parseStatus (storedResponse env response)=some response.status := by
  have hlt:response.status.toNat<2 ^ 64 := by
   have := response.status.toNat_lt
   omega
  have hget:(storedResponse env response).get "status" =
   some (.number response.status.toNat) := rfl
  simp only [parseStatus,hget,bind_some,Json.asU64,bind_eq_bind,if_pos hlt, UInt16.ofNat_toNat]
 have hbody:((storedResponse env response).get "body").bind Json.asStr =
   some (env.encode response.body) := rfl
 have hhead:((storedResponse env response).get "headers").bind Json.asArray =
   some (response.headers.map fun header=>
    Json.array [.string header.1,.string header.2]) := rfl
 unfold parseStoredResponse
 rw [henv.fromSlice_toVec _ _ hvec,elim_some]
 simp only [Bind.bind,Except.bind,hstatus,hbody,hhead,henv.decode_encode,Option.elim_some,
  getD_some,parseHeaders]
 rfl

end EpistemicCompiler.OutboundMutations
