import EpistemicCompiler.Base64Text
import EpistemicCompiler.OutboundMutations

set_option autoImplicit false

/-!
# Signed requests leave the runner once

Any number of calls run at the same time; a crash ends all of them, and the next process marks what
they left in flight. The row of an operation id admits one call to the wire.
-/
namespace EpistemicCompiler.OutboundDelivery
open StepPrograms StepPrograms.StepProgram SharedPrograms OutboundMutations List Option Function
 Except

variable (client:ApiClient) (weather:Weather) {x:Exchange}

section Protocol

inductive Phase where
 | idle
 | flying
 | sent (reply:Except RunnerError HttpResponse)
 | stored
 | finished

variable (fault:StoreFault)

def Phase.airborne : Phase → Bool
 | .flying => true
 | .sent _ => true
 | _ => false

def setRow (w:World) (id:String) (row:MutationRow) : World :=
 { w with mutations:=Function.update w.mutations id (some row) }

def transmit (w:World) (x:Exchange) : World := { w with wire:=w.wire++[x] }

inductive Moves (env:Env) (id:String) : Phase → World → World → Phase → Prop where
 | stay {phase:Phase} {w:World} : Moves env id phase w w phase
 | unsigned {phase:Phase} {w:World} {x:Exchange} (h:x.operationId=none) :
   Moves env id phase w (transmit w x) phase
 | insert {w:World} {row:MutationRow} (hnone:w.mutations id=none)
   (hstate:row.state=.prepared) : Moves env id .idle w (setRow w id row) .idle
 | depart {w:World} {row:MutationRow} (hrow:w.mutations id=some row)
   (hstate:row.state=.prepared) :
   Moves env id .idle w (setRow w id { row with state:=.inFlight }) .flying
 | send {w:World} {x:Exchange} (h:x.operationId=some id) :
   Moves env id .flying w (transmit w x) (.sent x.reply)
 | complete {w:World} {row:MutationRow} {response:HttpResponse} {bytes:Bytes}
   (hrow:w.mutations id=some row) (hstate:row.state=.prepared ∨ row.state=.inFlight)
   (hbytes:serializeStoredResponse env response=.ok bytes) :
   Moves env id (.sent (.ok response)) w
    (setRow w id { row with state:=.completed, response:=some bytes }) .stored
 | giveUp {phase:Phase} {w:World} {row:MutationRow}
   (hphase:phase.airborne=true ∨ phase=.stored) (hrow:w.mutations id=some row)
   (hstate:row.state=.inFlight) :
   Moves env id phase w (setRow w id { row with state:=.outcomeUnknown }) .finished

variable {env:Env} {id:String} {phase:Phase}

lemma follows_failWith {Q:Except RunnerError Unit → Phase → Prop} (fault:Option RunnerError)
  (hok:Q (.ok ()) phase) (herror:∀e,Q (.error e) phase) :
  Follows (Moves env id) Q (failWith fault) phase := by
 cases fault with
 | none => exact hok
 | some e => exact herror e

lemma follows_ofExcept {α β:Type} {r:Except RunnerError α} {f:α → Action β}
  {R:Except RunnerError β → Phase → Prop}
  (hok:∀a,r=.ok a → Follows (Moves env id) R (f a) phase) (herror:∀e,R (.error e) phase) :
  Follows (Moves env id) R (OutboundMutations.ofExcept r >>= f) phase := by
 apply Follows.bind
 cases r with
 | ok a => exact hok a rfl
 | error e => exact herror e

lemma follows_read {α β:Type} {f:World → α} {g:α → Action β}
  {R:Except RunnerError β → Phase → Prop} (h:∀a,Follows (Moves env id) R (g a) phase) :
  Follows (Moves env id) R (StepProgram.read f >>= g) phase :=
 fun w=>⟨phase,.stay,h (f w)⟩

lemma follows_updateMutation (phase':Phase) {Q:Except RunnerError ℕ → Phase → Prop}
  {states:List OutboundState} {change:MutationRow → MutationRow}
  (hmove:∀w row,w.mutations id=some row → row.state∈states →
   Moves env id phase w (setRow w id (change row)) phase') (hchanged:Q (.ok 1) phase')
  (hsame:Q (.ok 0) phase) : Follows (Moves env id) Q (updateMutation id states change) phase := by
 apply Follows.atomic
 intro w
 cases hrow : w.mutations id with
 | none => exact ⟨phase,.stay,hsame⟩
 | some row =>
   by_cases hstate : row.state∈states
   · simp only [if_pos hstate]
     exact ⟨phase',hmove w row hrow hstate,hchanged⟩
   · simp only [if_neg hstate]
     exact ⟨phase,.stay,hsame⟩

lemma follows_markInFlight :
  Follows (Moves env id) (fun r phase=>r=.ok () → phase=.flying) (markInFlight fault id)
   .idle := by
 refine .bind (follows_failWith _ ?_ fun _ h=>by cases h)
 refine .bind (follows_updateMutation .flying (fun w row hrow hstate=>?_) ?_ ?_)
 · exact .depart hrow (mem_singleton.mp hstate)
 · exact follows_failWith _ (fun _=>rfl) fun _ h=>by cases h
 · exact fun h=>by cases h

lemma follows_markCompleted {response:HttpResponse} {bytes:Bytes}
  (hbytes:serializeStoredResponse env response=.ok bytes) :
  Follows (Moves env id) (fun _ phase=>phase.airborne=true ∨ phase=.stored)
   (markCompleted fault id bytes) (.sent (.ok response)) := by
 refine .bind (follows_failWith _ ?_ fun _=>.inl rfl)
 refine .bind (follows_updateMutation .stored (fun w row hrow hstate=>?_) ?_ ?_)
 · exact .complete hrow (by simpa using hstate) hbytes
 · exact follows_failWith _ (.inr rfl) fun _=>.inr rfl
 · exact .inl rfl

lemma follows_markOutcomeUnknown (hphase:phase.airborne=true ∨ phase=.stored) :
  Follows (Moves env id) (fun _ _=>True) (markOutcomeUnknown fault id) phase := by
 refine .bind (follows_failWith _ ?_ fun _=>trivial)
 refine .bind (follows_updateMutation .finished (fun w row hrow hstate=>?_) ?_ ?_)
 · exact .giveUp hphase hrow (mem_singleton.mp hstate)
 · exact follows_failWith _ trivial fun _=>trivial
 · exact follows_failWith _ trivial fun _=>trivial

lemma follows_roundtrip (c:Call) :
  Follows (Moves env c.operationId) (fun r phase=>phase.airborne=true ∧
    ∀response,r=.ok response → phase=.sent (.ok response))
   (roundtrip weather (some c.operationId) c) .flying := by
 refine .bind (follows_failWith _ ?_ fun _=>⟨rfl,fun _ h=>by cases h⟩)
 refine .bind (.write (fun _=>.send rfl) ⟨rfl,?_⟩)
 intro response hreply
 exact congrArg Phase.sent hreply

lemma follows_settle (result:Except RunnerError HttpResponse) (hphase:phase.airborne=true)
  (hresult:∀response,result=.ok response → phase=.sent (.ok response)) :
  Follows (Moves env id) (fun _ _=>True) (settle env weather id result) phase := by
 cases result with
 | error e => exact follows_markOutcomeUnknown _ (.inl hphase)
 | ok response =>
   refine follows_ofExcept (fun bytes hbytes=>?_) fun _=>trivial
   rw [hresult response rfl]
   refine .bind (.attempt ((follows_markCompleted _ hbytes).post ?_))
   intro r phase hr
   cases r with
   | ok a => trivial
   | error e =>
     refine .bind ((follows_markOutcomeUnknown _ hr).post fun r _ _=>?_)
     cases r <;> trivial

lemma follows_sendSigned (c:Call) :
  Follows (Moves env c.operationId) (fun _ _=>True) (sendSigned env weather c) .idle := by
 refine .bind ((follows_markInFlight _).post fun r phase hr=>?_)
 cases r with
 | error e => trivial
 | ok a =>
   rw [hr rfl]
   refine .bind (follows_failWith _ ?_ fun _=>trivial)
   refine .bind (.attempt ((follows_roundtrip weather c).post ?_))
   intro result phase hphase
   refine .bind ((follows_settle weather result hphase.1 hphase.2).post fun r _ _=>?_)
   cases r <;> trivial

lemma follows_insertMutation {row:MutationRow} (hstate:row.state=.prepared) :
  Follows (Moves env id) (fun _ phase=>phase=.idle) (insertMutation id row) .idle := by
 apply Follows.atomic
 intro w
 cases hrow : w.mutations id with
 | some existing => exact ⟨.idle,.stay,rfl⟩
 | none => exact ⟨.idle,.insert hrow hstate,rfl⟩

lemma follows_prepareMutation (projectId:Option String) (method targetUri:String)
  (body:Bytes) :
  Follows (Moves env id) (fun _ phase=>phase=.idle)
   (prepareMutation env weather id projectId method targetUri body) .idle := by
 refine follows_ofExcept (fun digest _=>?_) fun _=>rfl
 refine .bind (follows_failWith _ ?_ fun _=>rfl)
 refine follows_read fun existing=>?_
 cases existing with
 | some existing => rfl
 | none =>
   refine .bind (follows_failWith _ ?_ fun _=>rfl)
   refine .bind ((follows_insertMutation rfl).post fun r phase hphase=>?_)
   rw [hphase]
   cases r with
   | error e => rfl
   | ok a => exact .bind (follows_failWith _ rfl fun _=>rfl)

lemma follows_call (c:Call) :
  Follows (Moves env c.operationId) (fun _ _=>True) (call env client weather c) .idle := by
 unfold call
 cases c.signed with
 | false =>
   refine .bind (follows_failWith _ ?_ fun _=>trivial)
   exact .bind (.write (fun _=>.unsigned rfl) trivial)
 | true =>
   refine .bind ((follows_prepareMutation _ _ _ _ _).post fun r phase hphase=>?_)
   rw [hphase]
   cases r with
   | error e => trivial
   | ok prepared =>
     cases prepared with
     | send id body => exact follows_sendSigned weather c
     | resumeCompleted id response => trivial
     | outcomeUnknown id => trivial

end Protocol

section Ledger

variable {env:Env} {id other:String} {phase phase':Phase} {w w':World}

def sent (w:World) (id:String) : List Exchange :=
 w.wire.filter fun x=>x.operationId=some id

def stateOf (w:World) (id:String) : Option OutboundState := (w.mutations id).map (·.state)

structure Entry (env:Env) (row:Option MutationRow) (xs:List Exchange) : Prop where
 once : xs.length ≤ 1
 unsent : row.map (·.state)=none ∨ row.map (·.state)=some .prepared → xs=[]
 answered : ∀r,row=some r → r.state=.completed → ∃x response bytes,xs=[x] ∧
  x.reply=.ok response ∧ serializeStoredResponse env response=.ok bytes ∧
  r.response=some bytes

def Ledger (env:Env) (w:World) : Prop := ∀id,Entry env (w.mutations id) (sent w id)

def Holds (w:World) (id:String) : Phase → Prop
 | .idle => True
 | .flying => stateOf w id=some .inFlight ∧ sent w id=[]
 | .sent reply => stateOf w id=some .inFlight ∧ ∃x,sent w id=[x] ∧ x.reply=reply
 | .stored => stateOf w id=some .completed
 | .finished => True

@[simp] lemma setRow_self (row:MutationRow) :
  (setRow w id row).mutations id=some row := update_self ..

lemma setRow_other (w:World) (row:MutationRow) (h:other≠id) :
  (setRow w id row).mutations other=w.mutations other := update_of_ne h ..

@[simp] lemma sent_setRow (row:MutationRow) :
  sent (setRow w id row) other=sent w other := rfl

lemma sent_transmit_self (w:World) (h:x.operationId=some id) :
  sent (transmit w x) id=sent w id++[x] := by
 simp [sent,transmit,filter_append,h]

lemma sent_transmit_other (w:World) (h:x.operationId≠some id) :
  sent (transmit w x) id=sent w id := by
 simp [sent,transmit,filter_append,h]

lemma Moves.frame (h:Moves env id phase w w' phase') (hne:other≠id) :
  w'.mutations other=w.mutations other ∧ sent w' other=sent w other := by
 cases h with
 | stay => exact ⟨rfl,rfl⟩
 | unsigned hx => exact ⟨rfl,sent_transmit_other w (by simp [hx])⟩
 | send hx => exact ⟨rfl,sent_transmit_other w (by rw [hx]; simpa using hne.symm)⟩
 | insert | depart | complete | giveUp => exact ⟨setRow_other w _ hne,rfl⟩

lemma Moves.settled (h:Moves env id phase w w' phase') (hold:Holds w id phase)
  (hstate:stateOf w id=some .completed ∨
   stateOf w id=some .inFlight ∧ phase.airborne=false) :
  w'.mutations id=w.mutations id ∧ sent w' id=sent w id := by
 cases h with
 | stay => exact ⟨rfl,rfl⟩
 | unsigned hx => exact ⟨rfl,sent_transmit_other w (by simp [hx])⟩
 | insert hnone _ => simp [stateOf,hnone] at hstate
 | depart hrow hprepared => simp [stateOf,hrow,hprepared] at hstate
 | send | complete => simp [hold.1,Phase.airborne] at hstate
 | giveUp hphase hrow hflying =>
   rcases hphase with hphase | hphase
   · simp [stateOf,hrow,hflying,hphase] at hstate
   · rw [hphase] at hold
     simp [Holds,stateOf,hrow,hflying] at hold

lemma Moves.departed (h:Moves env id phase w w' phase') (hair:phase'.airborne=true) :
  phase.airborne=true ∨ stateOf w id=some .prepared := by
 cases h with
 | stay | unsigned => exact .inl hair
 | depart hrow hstate => exact .inr (by simp [stateOf,hrow,hstate])
 | send => exact .inl rfl
 | insert | complete | giveUp => cases hair

lemma entry_transmit (hstate:stateOf w id=some .inFlight) (hsent:sent w id=[])
  (hx:x.operationId=some id) :
  Entry env ((transmit w x).mutations id) (sent (transmit w x) id) := by
 rw [sent_transmit_self w hx,hsent]
 refine ⟨Nat.le_refl 1,fun hrow=>?_, fun row hrow hcompleted=>?_⟩
 · change stateOf w id=none ∨ stateOf w id=some .prepared at hrow
   simp [hstate] at hrow
 · change w.mutations id=some row at hrow
   simp [stateOf,hrow,hcompleted] at hstate

lemma Holds.congr (h:Holds w id phase) (hrow:w'.mutations id=w.mutations id)
  (hsent:sent w' id=sent w id) : Holds w' id phase := by
 have hstate:stateOf w' id=stateOf w id := by rw [stateOf,hrow,stateOf]
 cases phase with
 | flying => exact ⟨hstate.trans h.1,hsent.trans h.2⟩
 | sent reply =>
   obtain ⟨hflying,x,hx,hreply⟩:=h
   exact ⟨hstate.trans hflying,x,hsent.trans hx,hreply⟩
 | stored => exact hstate.trans h
 | idle | finished => trivial

lemma Moves.own (h:Moves env id phase w w' phase')
  (hentry:Entry env (w.mutations id) (sent w id)) (hold:Holds w id phase) :
  Entry env (w'.mutations id) (sent w' id) ∧ Holds w' id phase' := by
 cases h with
 | stay => exact ⟨hentry,hold⟩
 | @unsigned _ _ x hx =>
   have hsent:sent (transmit w x) id=sent w id:=sent_transmit_other w (by simp [hx])
   exact ⟨by rw [hsent]; exact hentry,hold.congr rfl hsent⟩
 | insert hnone hstate =>
   have hempty:=hentry.unsent (.inl (by rw [hnone]; rfl))
   refine ⟨?_,trivial⟩
   rw [setRow_self,sent_setRow,hempty]
   refine ⟨Nat.zero_le 1,fun _=>rfl, fun row hrow hcompleted=>?_⟩
   cases hrow
   simp [hstate] at hcompleted
 | depart hrow hstate =>
   have hempty:=hentry.unsent (.inr (by rw [hrow]; exact congrArg some hstate))
   refine ⟨?_,by simp [stateOf],hempty⟩
   rw [setRow_self,sent_setRow,hempty]
   refine ⟨Nat.zero_le 1,fun _=>rfl, fun row hrow hcompleted=>?_⟩
   cases hrow
   cases hcompleted
 | @send _ x hx =>
   refine ⟨entry_transmit hold.1 hold.2 hx,hold.1,x,?_,rfl⟩
   rw [sent_transmit_self w hx,hold.2]
   rfl
 | complete hrow _ hbytes =>
   obtain ⟨_,x,hx,hreply⟩:=hold
   refine ⟨?_,by simp [Holds,stateOf]⟩
   rw [setRow_self,sent_setRow,hx]
   refine ⟨Nat.le_refl 1,by simp,fun row hrow _=>?_⟩
   cases hrow
   exact ⟨x,_,_,rfl,hreply,hbytes,rfl⟩
 | giveUp hphase hrow hstate =>
   refine ⟨?_,trivial⟩
   rw [setRow_self,sent_setRow]
   refine ⟨hentry.once,by simp,fun row hrow hcompleted=>?_⟩
   cases hrow
   cases hcompleted

lemma Ledger.moves (h:Ledger env w) (hmove:Moves env id phase w w' phase')
  (hold:Holds w id phase) : Ledger env w' := by
 intro other
 by_cases hne : other=id
 · subst hne
   exact (hmove.own (h other) hold).1
 · obtain ⟨hrow,hsent⟩:=hmove.frame hne
   rw [hrow,hsent]
   exact h other

end Ledger

section Flights

variable {env:Env} {phase:ℕ → Phase} {calls:List Call} {w w':World} {i:ℕ} {c:Call}
 {phase':Phase}

/-- What holds of calls that stand in the given phases: no two have the same row in flight. -/
structure Flights (env:Env) (phase:ℕ → Phase) (calls:List Call) (w:World) : Prop where
 ledger : Ledger env w
 holds : ∀i c,calls[i]?=some c → Holds w c.operationId (phase i)
 apart : ∀i k c d,i≠k → calls[i]?=some c → calls[k]?=some d →
  (phase i).airborne=true → (phase k).airborne=true → c.operationId≠d.operationId

lemma airborne_inFlight {id:String} {phase:Phase} (h:Holds w id phase)
  (hair:phase.airborne=true) : stateOf w id=some .inFlight := by
 cases phase with
 | flying | sent => exact h.1
 | _ => cases hair

section

variable (h:Flights env phase calls w) (hi:calls[i]?=some c)
 (hmove:Moves env c.operationId (phase i) w w' phase')
include h hi hmove

lemma Flights.others {k:ℕ} {d:Call} (hki:k≠i) (hk:calls[k]?=some d) :
  Holds w' d.operationId (phase k) := by
 have hold:=h.holds k d hk
 by_cases hid : d.operationId=c.operationId
 · have hfixed:∀state,stateOf w d.operationId=some state →
     (state=.completed ∨ state=.inFlight ∧ (phase i).airborne=false) →
     Holds w' d.operationId (phase k) := by
    intro state hstate hcase
    rw [hid] at hstate
    obtain ⟨hrow,hsent⟩:=hmove.settled (h.holds i c hi) (by
     rcases hcase with rfl | ⟨rfl,hair⟩
     · exact .inl hstate
     · exact .inr ⟨hstate,hair⟩)
    rw [← hid] at hrow hsent
    exact hold.congr hrow hsent
   have hground:(phase k).airborne=true → (phase i).airborne=false := by
    intro hair
    by_contra hi'
    exact h.apart k i d c hki hk hi hair (by simpa using hi') hid
   cases hphase : phase k with
   | idle | finished => trivial
   | stored =>
     rw [hphase] at hold hfixed
     exact hfixed _ hold (.inl rfl)
   | flying | sent =>
     rw [hphase] at hold hfixed hground
     exact hfixed _ hold.1 (.inr ⟨rfl,hground rfl⟩)
 · obtain ⟨hrow,hsent⟩:=hmove.frame hid
   exact hold.congr hrow hsent

lemma Flights.alone (hair:phase'.airborne=true) {k:ℕ} {d:Call} (hki:k≠i)
  (hk:calls[k]?=some d) (hair':(phase k).airborne=true) :
  c.operationId≠d.operationId := by
 rcases hmove.departed hair with hold | hprepared
 · exact h.apart i k c d hki.symm hi hk hold hair'
 · intro hid
   have hflying:=airborne_inFlight (h.holds k d hk) hair'
   rw [← hid,hprepared] at hflying
   cases hflying

lemma Flights.step : Flights env (Function.update phase i phase') calls w' := by
 have hold:=h.holds i c hi
 refine ⟨h.ledger.moves hmove hold,fun k d hk=>?_, fun k m d e hkm hk hm hair hair'=>?_⟩
 · by_cases hki : k=i
   · subst hki
     obtain rfl : c=d:=some.inj (hi.symm.trans hk)
     rw [update_self]
     exact (hmove.own (h.ledger _) hold).2
   · rw [update_of_ne hki]
     exact h.others hi hmove hki hk
 · by_cases hki : k=i
   · subst hki
     obtain rfl : c=d:=some.inj (hi.symm.trans hk)
     rw [update_self] at hair
     rw [update_of_ne hkm.symm] at hair'
     exact h.alone hi hmove hair hkm.symm hm hair'
   · rw [update_of_ne hki] at hair
     by_cases hmi : m=i
     · subst hmi
       obtain rfl : c=e:=some.inj (hi.symm.trans hm)
       rw [update_self] at hair'
       exact (h.alone hi hmove hair' hkm hk hair).symm
     · rw [update_of_ne hmi] at hair'
       exact h.apart k m d e hkm hk hm hair hair'

end 

lemma Flights.spawn (h:Flights env phase calls w) (c:Call) :
  Flights env (Function.update phase calls.length .idle) (calls++[c]) w := by
 have hold:∀i d,(calls++[c])[i]?=some d → i≠calls.length → calls[i]?=some d := by
  intro i d hi hne
  have hlt:=(List.getElem?_eq_some_iff.mp hi).1
  rw [length_append,length_singleton] at hlt
  rwa [getElem?_append_left (by omega)] at hi
 have hair:∀i,(update phase calls.length .idle i).airborne=true →
   i≠calls.length ∧ (phase i).airborne=true := by
  intro i hair
  by_cases hi : i=calls.length
  · rw [hi,update_self] at hair
    cases hair
  · rw [update_of_ne hi] at hair
    exact ⟨hi,hair⟩
 refine ⟨h.ledger,fun i d hi=>?_, fun i k d e hik hi hk hi' hk'=>?_⟩
 · by_cases hne : i=calls.length
   · rw [hne,update_self]
     trivial
   · rw [update_of_ne hne]
     exact h.holds i d (hold i d hi hne)
 · obtain ⟨hni,hi'⟩:=hair i hi'
   obtain ⟨hnk,hk'⟩:=hair k hk'
   exact h.apart i k d e hik (hold i d hi hni) (hold k e hk hnk) hi' hk'

lemma Ledger.reconcile (h:Ledger env w) : Ledger env (reconcileOnOpen w) := by
 intro id
 have hentry:=h id
 change Entry env ((w.mutations id).map _) (sent w id)
 cases hrow : w.mutations id with
 | none =>
   rw [hrow] at hentry
   exact hentry
 | some row =>
   rw [hrow] at hentry
   by_cases hstate : row.state=.inFlight
   · simp only [map_some,if_pos hstate]
     exact ⟨hentry.once,by simp,fun r hr hcompleted=>by cases hr; cases hcompleted⟩
   · simpa only [map_some,if_neg hstate] using hentry

end Flights

section Runs

inductive Process where
 | closed
 | serving (pool:List (Call×Action HttpResponse))

structure Runner where
 world : World
 calls : List (ApiClient×Call)
 process : Process

inductive Step (env:Env) : Runner → Runner → Prop where
 | openStore {w:World} {calls:List (ApiClient×Call)} :
   Step env ⟨w,calls,.closed⟩ ⟨reconcileOnOpen w,calls,.serving []⟩
 | call {w:World} {calls:List (ApiClient×Call)} {pool:List (Call×Action HttpResponse)}
   (client:ApiClient) (weather:Weather) (c:Call) :
   Step env ⟨w,calls,.serving pool⟩ ⟨w,calls++[(client,c)],
    .serving (pool++[(c,OutboundMutations.call env client weather c)])⟩
 | work {w:World} {calls:List (ApiClient×Call)} {pool:List (Call×Action HttpResponse)}
   {i:ℕ} {c:Call} {act:World → World} {next:World → Action HttpResponse}
   (h:pool[i]?=some (c,.step act next)) :
   Step env ⟨w,calls,.serving pool⟩ ⟨act w,calls,.serving (pool.set i (c,next w))⟩
 | crash {w:World} {calls:List (ApiClient×Call)} {process:Process} :
   Step env ⟨w,calls,process⟩ ⟨w,calls,.closed⟩

def initial : Runner := ⟨⟨fun _=>none, []⟩,[],.closed⟩

def Reachable (env:Env) (r:Runner) : Prop := Relation.ReflTransGen (Step env) initial r

variable {env:Env} {r r':Runner}

def RunnerInv (env:Env) (r:Runner) : Prop :=
 Ledger env r.world ∧
  match r.process with
  | .closed => True
  | .serving pool => ∃phase,Standing (fun c=>Moves env c.operationId) phase pool ∧
    Flights env phase (pool.map (·.1)) r.world

lemma RunnerInv.step (h:RunnerInv env r) (hstep:Step env r r') : RunnerInv env r' := by
 obtain ⟨hledger,hprocess⟩:=h
 cases hstep with
 | openStore =>
   exact ⟨hledger.reconcile,fun _=>.idle,standing_nil,hledger.reconcile,
    (fun _ _ hi=>by cases hi),fun _ _ _ _ _ hi=>by cases hi⟩
 | @call w calls pool client weather c =>
   obtain ⟨phase,hstand,hflights⟩:=hprocess
   refine ⟨hledger,_,hstand.spawn (follows_call client weather c),?_⟩
   have hlen:pool.length=(pool.map (·.1)).length:=(length_map _).symm
   rw [map_append,hlen]
   exact hflights.spawn c
 | @work w calls pool i c act next hi =>
   obtain ⟨phase,hstand,hflights⟩:=hprocess
   obtain ⟨phase',hmove,hstand'⟩:=hstand.step hi w
   have hcall:(pool.map (·.1))[i]?=some c := by rw [getElem?_map,hi]; rfl
   have hcalls:(pool.set i (c,next w)).map (·.1)=pool.map (·.1) := by
    obtain ⟨hlt,heq⟩:=List.getElem?_eq_some_iff.mp hcall
    rw [map_set,← heq,set_getElem_self]
   have hflights':=hflights.step hcall hmove
   refine ⟨hflights'.ledger,_,hstand',?_⟩
   rw [hcalls]
   exact hflights'
 | crash => exact ⟨hledger,trivial⟩

lemma Reachable.ledger (h:Reachable env r) : Ledger env r.world := by
 have hinv:RunnerInv env r := by
  induction h with
  | refl =>
    refine ⟨fun id=>⟨Nat.zero_le 1,fun _=>rfl, fun row hrow=>?_⟩, trivial⟩
    cases hrow
  | tail _ hstep ih => exact ih.step hstep
 exact hinv.1

end Runs

section Replays

variable {env:Env} {w:World} {c:Call} {row:MutationRow}

lemma run_call_existing (hsign:c.signed=true) (hrow:w.mutations c.operationId=some row) :
  (call env client weather c).run w =
   match requestDigest env c.body, weather.load with
   | .error e, _ => (.error e,w)
   | .ok _, some e => (.error e,w)
   | .ok digest, none =>
     match resumeMutation c.operationId digest row with
     | .error e => (.error e,w)
     | .ok (.resumeCompleted _ response) => (parseStoredResponse env response,w)
     | .ok (.outcomeUnknown _) => (.error unknownOutcome,w)
     | .ok (.send _ _) => (sendSigned env weather c).run w := by
 unfold call prepareMutation
 simp only [hsign,if_true]
 cases requestDigest env c.body with
 | error e => rfl
 | ok digest =>
   cases weather.load with
   | some e => rfl
   | none =>
     simp only [failWith,OutboundMutations.ofExcept,Bind.bind,Pure.pure,StepProgram.bind,
      StepProgram.read,StepProgram.atomic,StepProgram.run,hrow]
     cases resumeMutation c.operationId digest row with
     | error e => rfl
     | ok prepared => cases prepared <;> rfl

lemma existing_of_sent (hledger:Ledger env w) (hx:x∈sent w c.operationId) :
  sent w c.operationId=[x] ∧ ∃row,w.mutations c.operationId=some row ∧
   row.state≠.prepared := by
 have hentry:=hledger c.operationId
 have hne:sent w c.operationId≠[]:=ne_nil_of_mem hx
 constructor
 · obtain ⟨y,hy⟩:=length_eq_one_iff.mp (Nat.le_antisymm hentry.once (length_pos_of_mem hx))
   rw [hy] at hx ⊢
   rw [mem_singleton.mp hx]
 · cases hrow : w.mutations c.operationId with
   | none =>
     rw [hrow] at hentry
     exact absurd (hentry.unsent (.inl rfl)) hne
   | some row =>
     rw [hrow] at hentry
     refine ⟨row,rfl,fun hstate=>hne (hentry.unsent (.inr ?_))⟩
     rw [map_some,hstate]

lemma resume_completed (hledger:Ledger env w) (henv:env.Lawful)
  (hrow:w.mutations c.operationId=some row) (hstate:row.state=.completed) :
  ∃x response bytes,sent w c.operationId=[x] ∧ x.reply=.ok response ∧
    resumeMutation c.operationId row.digest row =
     .ok (.resumeCompleted c.operationId bytes) ∧
    parseStoredResponse env bytes=.ok response := by
 have hentry:=hledger c.operationId
 rw [hrow] at hentry
 obtain ⟨x,response,bytes,hx,hreply,hbytes,hresp⟩:=hentry.answered row rfl hstate
 refine ⟨x,response,bytes,hx,hreply,?_,parse_serialize henv hbytes⟩
 simp [resumeMutation,hstate,hresp]

/-- A call under an id whose request has left changes nothing; a response it returns is the reply to
that request, and a call with the same body is answered. -/
lemma run_call_sent (hledger:Ledger env w) (henv:env.Lawful) (client:ApiClient)
  (weather:Weather) (hsign:c.signed=true) (hx:x∈sent w c.operationId) :
  ∃result,(call env client weather c).run w=(result,w) ∧
    (∀response,result=.ok response → x.reply=.ok response) ∧
    ∀row,w.mutations c.operationId=some row → requestDigest env c.body=.ok row.digest →
      weather.load=none →
      (∃response,x.reply=.ok response ∧ result=.ok response) ∨
       result=.error unknownOutcome := by
 obtain ⟨hsent,row,hrow,hprepared⟩:=existing_of_sent hledger hx
 have hfails:∀(e:RunnerError) (response:HttpResponse),
   error e=.ok response → x.reply=.ok response :=
  fun _ _ h=>by cases h
 rw [run_call_existing client weather hsign hrow]
 cases hdigest : requestDigest env c.body with
 | error e => exact ⟨.error e,rfl,hfails e,fun _ _ h=>by cases h⟩
 | ok digest =>
   cases hload : weather.load with
   | some e => exact ⟨.error e,rfl,hfails e,fun _ _ _ h=>by cases h⟩
   | none =>
     by_cases hsame : row.digest=digest
     · subst hsame
       cases hstate : row.state with
       | prepared => exact absurd hstate hprepared
       | completed =>
         obtain ⟨y,response,bytes,hy,hreply,hresult,hparse⟩ :=
          resume_completed hledger henv hrow hstate
         obtain rfl : x=y := by simpa [hy] using hsent.symm
         refine ⟨.ok response,?_,fun _ h=>?_, fun _ _ _ _=>.inl ⟨response,hreply,rfl⟩⟩
         · simp only [hresult,hparse]
         · rw [hreply,h]
       | inFlight | outcomeUnknown =>
         refine ⟨.error unknownOutcome,?_,hfails _,fun _ _ _ _=>.inr rfl⟩
         simp [resumeMutation,hstate]
     · refine ⟨.error .conflict,?_,hfails _,fun row' hrow' hdigest'=>?_⟩
       · simp [resumeMutation,hsame]
       · rw [hrow,some.injEq] at hrow'
         rw [ok.injEq,← hrow'] at hdigest'
         exact absurd hdigest'.symm hsame

end Replays

section Refusals

variable {env:Env} {w:World} {c:Call} {row:MutationRow}

def Refused (env:Env) (client:ApiClient) (weather:Weather) (c:Call) (w:World) : Prop :=
 ∃e,(call env client weather c).run w=(.error e,w)

def clear (reply:Except RunnerError HttpResponse) : Weather :=
 ⟨none,⟨none,none⟩,⟨none,none⟩,none,none,reply,⟨none,none⟩,⟨none,none⟩⟩

lemma wire_sendSigned (hrow:w.mutations c.operationId=some row)
  (hstate:row.state=.prepared) (e:RunnerError) :
  ((sendSigned env (clear (.error e)) c).run w).2.wire =
    w.wire++[⟨some c.operationId,c.httpMethod,c.path,c.body,.error e⟩] := by
 simp [sendSigned,markInFlight,updateMutation,roundtrip,settle,markOutcomeUnknown,clear,
  failWith,OutboundMutations.ofExcept,Bind.bind,Pure.pure,StepProgram.bind,
  StepProgram.attempt,StepProgram.write,StepProgram.atomic,StepProgram.run,hrow,hstate]

lemma wire_call_fresh (hsign:c.signed=true) (hrow:w.mutations c.operationId=none)
  {digest:String} (hdigest:requestDigest env c.body=.ok digest) (e:RunnerError) :
  ((call env client (clear (.error e)) c).run w).2.wire =
    w.wire++[⟨some c.operationId,c.httpMethod,c.path,c.body,.error e⟩] := by
 have hrun:(call env client (clear (.error e)) c).run w =
   (sendSigned env (clear (.error e)) c).run (setRow w c.operationId
    ⟨c.projectId,c.method,client.schemeHost++c.path,digest,c.body,.prepared,none⟩) := by
  unfold call prepareMutation
  simp only [hsign,if_true,hdigest,clear,failWith,insertMutation,
   OutboundMutations.ofExcept,Bind.bind,Pure.pure,StepProgram.bind,StepProgram.read,
   StepProgram.atomic,StepProgram.run,hrow]
  rfl
 rw [hrun,wire_sendSigned (setRow_self ..) rfl]
 rfl

lemma not_refused_of_wire {client:ApiClient} {weather:Weather}
  (h:((call env client weather c).run w).2.wire=w.wire++[x]) :
  ¬ Refused env client weather c w := by
 intro hrefused
 obtain ⟨e,he⟩:=hrefused
 rw [he] at h
 have hlen:w.wire.length=(w.wire++[x]).length:=congrArg length h
 rw [length_append,length_singleton] at hlen
 omega

/-- What turns a signed call away, whatever else happens: a body without canonical form, or a row
with another digest or without a known outcome. -/
def TurnedAway (env:Env) (c:Call) (w:World) : Prop :=
 (∃e,requestDigest env c.body=.error e) ∨
  ∃row,w.mutations c.operationId=some row ∧ (requestDigest env c.body≠.ok row.digest ∨
    row.state=.inFlight ∨ row.state=.outcomeUnknown)

lemma refused_of_turnedAway (hsign:c.signed=true) (h:TurnedAway env c w) :
  Refused env client weather c w := by
 cases hdigest : requestDigest env c.body with
 | error e =>
   refine ⟨e,?_⟩
   unfold call prepareMutation
   simp only [hsign,if_true,hdigest]
   rfl
 | ok digest =>
   rcases h with ⟨e,he⟩ | ⟨row,hrow,hcase⟩
   · rw [hdigest] at he
     cases he
   · unfold Refused
     rw [run_call_existing client weather hsign hrow,hdigest]
     cases weather.load with
     | some e => exact ⟨e,rfl⟩
     | none =>
       by_cases hsame : row.digest=digest
       · have hunknown:resumeMutation c.operationId digest row =
           .ok (.outcomeUnknown c.operationId) := by
          rcases hcase with hne | hstate | hstate
          · rw [hdigest,hsame] at hne
            exact absurd rfl hne
          · simp [resumeMutation,hsame,hstate]
          · simp [resumeMutation,hsame,hstate]
         exact ⟨unknownOutcome,by simp only [hunknown]⟩
       · exact ⟨.conflict,by simp [resumeMutation,hsame]⟩

/-- Every other call has an effect in fair weather: it sends, or it gets a stored response. -/
lemma exists_not_refused (hledger:Ledger env w) (henv:env.Lawful) (client:ApiClient)
  (hsign:c.signed=true) (h:¬ TurnedAway env c w) :
  ¬ Refused env client (clear (.error .io)) c w := by
 cases hdigest : requestDigest env c.body with
 | error e => exact absurd (.inl ⟨e,hdigest⟩) h
 | ok digest =>
   cases hrow : w.mutations c.operationId with
   | none => exact not_refused_of_wire (wire_call_fresh client hsign hrow hdigest .io)
   | some row =>
     have hsame:row.digest=digest := by
      by_contra hne
      refine h (.inr ⟨row,hrow,.inl fun heq=>hne ?_⟩)
      rw [hdigest,ok.injEq] at heq
      exact heq.symm
     subst hsame
     have hrun:(call env client (clear (.error .io)) c).run w=_ :=
      run_call_existing client (clear (.error .io)) hsign hrow
     rw [hdigest] at hrun
     cases hstate : row.state with
     | prepared =>
       have hresult:resumeMutation c.operationId row.digest row =
         .ok (.send c.operationId row.body) := by simp [resumeMutation,hstate]
       simp only [clear,hresult] at hrun
       apply not_refused_of_wire
       rw [clear,hrun]
       exact wire_sendSigned hrow hstate .io
     | completed =>
       obtain ⟨x,response,bytes,-,-,hresult,hparse⟩ :=
        resume_completed hledger henv hrow hstate
       simp only [clear,hresult,hparse] at hrun
       rintro ⟨e,he⟩
       rw [clear,hrun] at he
       cases he
     | inFlight => exact absurd (.inr ⟨row,hrow,.inr (.inl hstate)⟩) h
     | outcomeUnknown => exact absurd (.inr ⟨row,hrow,.inr (.inr hstate)⟩) h

end Refusals

def Differs (a b:ApiClient×Call) : Prop :=
 a.2.method≠b.2.method ∨ a.1.schemeHost++a.2.path≠b.1.schemeHost++b.2.path ∨
  a.2.body≠b.2.body

/-- However calls, crashes and openings of the store interleave: a signed request leaves at most
once under an id, a repeated call gets the reply to it or learns that it is unknown, and a call that
reuses an id for something else is refused exactly if the row turns it away. -/
theorem signed_mutations (env:Env) (henv:env.Lawful) (r:Runner) (hr:Reachable env r) :
  (∀id,(sent r.world id).length ≤ 1) ∧
  (∀client weather c x,c.signed=true → x∈sent r.world c.operationId →
   ∃result,(call env client weather c).run r.world=(result,r.world) ∧
     (∀response,result=.ok response → x.reply=.ok response) ∧
     ∀row,r.world.mutations c.operationId=some row →
       requestDigest env c.body=.ok row.digest → weather.load=none →
       (∃response,x.reply=.ok response ∧ result=.ok response) ∨
        result=.error unknownOutcome) ∧
  ∀earlier∈r.calls,∀client c,earlier.2.signed=true → c.signed=true →
    earlier.2.operationId=c.operationId → Differs earlier (client,c) →
    ((∀weather,Refused env client weather c r.world) ↔ TurnedAway env c r.world) := by
 have hledger:=hr.ledger
 refine ⟨fun id=>(hledger id).once, fun client weather c x hsigned hx=>?_, ?_⟩
 · exact run_call_sent hledger henv client weather hsigned hx
 · intro earlier _ client c _ hsigned _ _
   constructor
   · intro hrefused
     by_contra hnot
     exact exists_not_refused hledger henv client hsigned hnot (hrefused _)
   · intro h weather
     exact refused_of_turnedAway client weather hsigned h

lemma steps_run {env:Env} (p:Action HttpResponse) (w:World)
  (calls:List (ApiClient×Call)) (c:Call) :
  Relation.ReflTransGen (Step env) ⟨w,calls,.serving [(c,p)]⟩
   ⟨(p.run w).2,calls,.serving [(c,.done (p.run w).1)]⟩ := by
 induction p generalizing w with
 | done r => exact .refl
 | step act next ih =>
   have hstep:Step env ⟨w,calls,.serving [(c,.step act next)]⟩
     ⟨act w,calls,.serving [(c,next w)]⟩ := .work (i := 0) rfl
   exact .head hstep (ih w (act w))

lemma reachable_single {env:Env} (c:Call) :
  Reachable env ⟨((call env client weather c).run (reconcileOnOpen initial.world)).2,
   [(client,c)],.serving [(c,.done
     ((call env client weather c).run (reconcileOnOpen initial.world)).1)]⟩ :=
 .head .openStore (.head (.call client weather c) (steps_run _ _ _ _))

def sampleResponse : HttpResponse := ⟨200,[],[]⟩

def sampleEnv : Env where
 fromSlice bytes := if bytes=[1] then
  some (.object [("body",.string ""),("headers",.array []),("status",.number 200)]) else none
 toVec
  | .object [("body",.string ""),("headers",.array []),("status",.number 200)] => some [1]
  | _ => none
 canonicalJson _ := none
 sha256DigestTagged bytes := String.ofList (bytes.map fun b=>Char.ofNat b.toNat)
 encode bytes := String.ofList (bytes.map fun b=>Char.ofNat b.toNat)
 decode text := some (text.toList.map fun ch=>UInt8.ofNat ch.toNat)

lemma sampleEnv_lawful : sampleEnv.Lawful where
 fromSlice_toVec value bytes h := by
  unfold sampleEnv at h ⊢
  dsimp only at h ⊢
  split at h
  · rw [← some.inj h]
    rfl
  · cases h
 decode_encode bytes := by
  have hbyte:((fun ch:Char=>UInt8.ofNat ch.toNat) ∘ fun b : UInt8=>Char.ofNat b.toNat) =
    id := by
   funext b
   rw [comp_apply,Base64Text.toNat_ofNat_toNat]
   exact UInt8.ofNat_toNat
  simp only [sampleEnv,String.toList_ofList,List.map_map,hbyte,List.map_id]

def sampleCall (method path:String) : Call :=
 ⟨"op",none,method,"POST",path,[120],true⟩

/-- The response to the lease of a job is handed to a heartbeat with the same body. -/
theorem signed_mutations_confused :
  ∃r x c,Reachable sampleEnv r ∧ (⟨"h"⟩,sampleCall "leaseRunnerJob" "/lease")∈r.calls ∧
    c=sampleCall "heartbeatOperation" "/heartbeat" ∧ sent r.world "op"=[x] ∧
    x.path = "/lease" ∧ x.reply=.ok sampleResponse ∧
    ((call sampleEnv ⟨"h"⟩ (clear (.error .io)) c).run r.world).1=.ok sampleResponse := by
 refine ⟨_,_,_,reachable_single ⟨"h"⟩ (clear (.ok sampleResponse))
  (sampleCall "leaseRunnerJob" "/lease"),mem_singleton_self _,rfl,rfl,rfl,rfl,?_⟩
 decide +kernel

theorem signed_mutations_sample :
  ∃r,Reachable sampleEnv r ∧ (sent r.world "op").length=1 ∧
    ((∀weather,Refused sampleEnv ⟨"h"⟩ weather
        (sampleCall "heartbeatOperation" "/heartbeat") r.world) ↔
      TurnedAway sampleEnv (sampleCall "heartbeatOperation" "/heartbeat") r.world) := by
 have hr:Reachable sampleEnv _:=reachable_single ⟨"h"⟩ (clear (.ok sampleResponse))
  (sampleCall "leaseRunnerJob" "/lease")
 have hresult:=(signed_mutations sampleEnv sampleEnv_lawful _ hr).2.2 _
  (mem_singleton_self _) ⟨"h"⟩ (sampleCall "heartbeatOperation" "/heartbeat") rfl rfl rfl
  (.inl (by decide))
 exact ⟨_,hr,rfl,hresult⟩

end EpistemicCompiler.OutboundDelivery
