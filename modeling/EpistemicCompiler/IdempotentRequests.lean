import EpistemicCompiler.StoreTransactions

set_option autoImplicit false

/-!
# Idempotent API requests

`withIdempotency` reserves a row, awaits the work of the request and completes the row. Between the
two transactions other requests run, and the process may die. A stored response is kept in plain.
-/
namespace EpistemicCompiler.IdempotentRequests
open StoreTransactions Function

structure IdempotentResponse where
 status : ℕ
 headers : List (String×String)
 body : List UInt8
 deriving DecidableEq

inductive IdempotencyState where
 | reserved
 | completed (response:IdempotentResponse)
 | failed (response:IdempotentResponse)
 | reconcileRequired
 deriving DecidableEq

structure IdempotencyRow where
 semanticRequestDigest : String
 state : IdempotencyState

structure RequestKey where
 principalId : String
 operationId : String
 deriving DecidableEq

variable (key:RequestKey) (digest:String)

abbrev IdempotencyTable := RequestKey → Option IdempotencyRow

inductive IdempotencyError where
 | notFound
 | idempotencyConflict
 | reconcileRequired
 | checkConstraint
 | workFailed
 deriving DecidableEq

inductive IdempotencyReservation where
 | reserved
 | replay (response:IdempotentResponse)

def reserveApiIdempotency (table:IdempotencyTable) :
    Except IdempotencyError (IdempotencyReservation×IdempotencyTable) :=
 match table key with
 | some existing =>
   if existing.semanticRequestDigest≠digest then .error .idempotencyConflict
   else
    match existing.state with
    | .reconcileRequired => .error .reconcileRequired
    | .reserved => .ok (.reserved,table)
    | .completed response | .failed response => .ok (.replay response,table)
 | none => .ok (.reserved,Function.update table key (some ⟨digest,.reserved⟩))

def finishIdempotency (response:IdempotentResponse)
    (state:IdempotentResponse → IdempotencyState) (table:IdempotencyTable) :
    Except IdempotencyError (Unit×IdempotencyTable) :=
 match table key with
 | none => .error .notFound
 | some existing =>
   if existing.semanticRequestDigest≠digest then .error .idempotencyConflict
   else
    match existing.state with
    | .reconcileRequired => .error .reconcileRequired
    | .reserved =>
      if 100 ≤ response.status ∧ response.status ≤ 599 then
       .ok ((),Function.update table key (some { existing with state:=state response }))
      else .error .checkConstraint
    | .completed _ | .failed _ => .error .idempotencyConflict

def completeApiIdempotency (response:IdempotentResponse) (table:IdempotencyTable) :
    Except IdempotencyError (Unit×IdempotencyTable) :=
 finishIdempotency key digest response .completed table

section Pool

/-- Where one `withIdempotency` call stands. The work of the request has been started in
`working` and has not settled yet; `lost` calls died with the process. -/
inductive CallPhase where
 | waiting
 | working
 | replied (response:IdempotentResponse)
 | errored (error:IdempotencyError)
 | lost
 deriving DecidableEq

/-- All calls with one key, the store, and what happened to the work: the calls that started
it and the responses it produced, newest first. -/
structure RequestPool where
 table : IdempotencyTable
 phase : ℕ → CallPhase
 started : List ℕ
 produced : List (ℕ×IdempotentResponse)

inductive PoolAction where
 | begin (call:ℕ)
 | resolve (call:ℕ) (response:IdempotentResponse)
 | reject (call:ℕ)
 | crash

variable (key:RequestKey) (digest:ℕ → String)

variable (pool:RequestPool)

def RequestPool.setPhase (call:ℕ) (phase:CallPhase) : RequestPool :=
 { pool with phase:=Function.update pool.phase call phase }

/-- A call up to its first await: the reservation and, unless there is a response to replay, the
start of the work. -/
def beginCall (call:ℕ) : RequestPool :=
 match executeWrite (reserveApiIdempotency key (digest call)) pool.table with
 | (.ok (.replay response),table) =>
   { pool with table:=table }.setPhase call (.replied response)
 | (.ok .reserved,table) =>
   { pool with table:=table, started:=call::pool.started }.setPhase call .working
 | (.error e,table) => { pool with table:=table }.setPhase call (.errored e)

def resolveCall (call:ℕ) (response:IdempotentResponse) : RequestPool :=
 match executeWrite (completeApiIdempotency key (digest call) response) pool.table with
 | (.ok _,table) =>
   { pool with table:=table, produced:=(call,response)::pool.produced }.setPhase call
     (.replied response)
 | (.error e,table) =>
   { pool with table:=table, produced:=(call,response)::pool.produced }.setPhase call
     (.errored e)

def RequestPool.afterCrash : RequestPool :=
 { pool with
   phase:=fun call=>if pool.phase call=.working then .lost else pool.phase call }

/-- One scheduler step. An action that does not fit the phase of its call does nothing. -/
def poolStep : PoolAction → RequestPool
 | .begin call => if pool.phase call=.waiting then beginCall key digest pool call else pool
 | .resolve call response =>
   if pool.phase call=.working then resolveCall key digest pool call response else pool
 | .reject call =>
   if pool.phase call=.working then pool.setPhase call (.errored .workFailed) else pool
 | .crash => pool.afterCrash

def runPool (actions:List PoolAction) : RequestPool :=
 actions.foldl (poolStep key digest) pool

def emptyPool (table:IdempotencyTable) : RequestPool := ⟨table,fun _=>.waiting, [],[]⟩

end Pool

section Once

variable (key:RequestKey) (digest:ℕ → String)

/-- Two calls begin before the work of the first has settled. -/
theorem work_executed_twice :
  (runPool ⟨"principal","op_1"⟩ (fun _=>"digest") (emptyPool fun _=>none)
   [.begin 0,.begin 1]).started=[1,0] := by
 decide

def BeginsUnreserved : RequestPool → List PoolAction → Prop
 | _, [] => True
 | pool, action::actions =>
   (∀call,action=.begin call → pool.phase call=.waiting →
    (pool.table key).map (·.state)≠some .reserved) ∧
   BeginsUnreserved (poolStep key digest pool action) actions

inductive Guarded (pool:RequestPool) : Prop
 | fresh (hrow:pool.table key=none) (hstarted:pool.started=[])
   (hproduced:pool.produced=[]) (hworking:∀c,pool.phase c≠.working)
   (hreplied:∀c r,pool.phase c≠.replied r)
 | running (d:String) (e:ℕ) (hrow:pool.table key=some ⟨d,.reserved⟩)
   (hstarted:pool.started=[e]) (hworking:∀c,pool.phase c=.working → c=e)
   (hproduced:pool.phase e=.working → pool.produced=[])
   (hreplied:∀c r,pool.phase c≠.replied r)
 | done (d:String) (e:ℕ) (r:IdempotentResponse)
   (hrow:pool.table key=some ⟨d,.completed r⟩) (hstarted:pool.started=[e])
   (hproduced:pool.produced=[(e,r)]) (hworking:∀c,pool.phase c≠.working)
   (hreplied:∀c r',pool.phase c=.replied r' → r'=r)

variable {key digest} {pool:RequestPool}

lemma setPhase_phase (call:ℕ) (phase:CallPhase) (c:ℕ) :
  (pool.setPhase call phase).phase c=if c=call then phase else pool.phase c := by
 simp [RequestPool.setPhase,update_apply]

section

variable (h:Guarded key pool)
include h

lemma Guarded.setPhase_settled (call:ℕ) (phase:CallPhase) (hworking:phase≠.working)
  (hreplied:∀r,phase≠.replied r) : Guarded key (pool.setPhase call phase) := by
 have hphase:=@setPhase_phase pool call phase
 cases h with
 | fresh hrow hstarted hproduced hw hr =>
   refine .fresh hrow hstarted hproduced (fun c=>?_) (fun c r=>?_)
   all_goals rw [hphase]; split
   exacts [hworking,hw c,hreplied r,hr c r]
 | running d e hrow hstarted hw hproduced hr =>
   refine .running d e hrow hstarted (fun c=>?_) ?_ (fun c r=>?_)
   all_goals rw [hphase]; split
   exacts [fun h=>absurd h hworking, hw c,fun h=>absurd h hworking, hproduced,hreplied r,
    hr c r]
 | done d e r hrow hstarted hproduced hw hr =>
   refine .done d e r hrow hstarted hproduced (fun c=>?_) (fun c r'=>?_)
   all_goals rw [hphase]; split
   exacts [hworking,hw c,fun h=>absurd h (hreplied r'), hr c r']

lemma Guarded.begin (call:ℕ) (hfree:(pool.table key).map (·.state)≠some .reserved) :
  Guarded key (beginCall key digest pool call) := by
 unfold beginCall
 cases h with
 | fresh hrow hstarted hproduced hw hr =>
   have hwork:reserveApiIdempotency key (digest call) pool.table =
     .ok (.reserved,update pool.table key (some ⟨digest call,.reserved⟩)) := by
    simp only [reserveApiIdempotency,hrow]
   rw [executeWrite_ok hwork]
   refine .running (digest call) call (update_self ..) (by simp [RequestPool.setPhase,
    hstarted]) (fun c hc=>?_) (fun _=>hproduced) (fun c r hc=>?_)
   all_goals rw [setPhase_phase] at hc; split at hc
   · assumption
   · exact absurd hc (hw c)
   · cases hc
   · exact absurd hc (hr c r)
 | running d e hrow => exact absurd (by rw [hrow]; rfl) hfree
 | done d e r hrow hstarted hproduced hw hr =>
   have hguard:Guarded key pool:=.done d e r hrow hstarted hproduced hw hr
   by_cases hdigest : d=digest call
   · have hwork:reserveApiIdempotency key (digest call) pool.table =
       .ok (.replay r,pool.table) := by
      simp [reserveApiIdempotency,hrow,hdigest]
     rw [executeWrite_ok hwork]
     refine .done d e r hrow hstarted hproduced (fun c=>?_) (fun c r' hc=>?_)
     · rw [setPhase_phase]
       split
       · nofun
       · exact hw c
     · rw [setPhase_phase] at hc
       split at hc
       · exact (CallPhase.replied.inj hc).symm
       · exact hr c r' hc
   · have hwork:reserveApiIdempotency key (digest call) pool.table =
       .error .idempotencyConflict := by
      simp [reserveApiIdempotency,hrow,hdigest]
     rw [executeWrite_error hwork]
     exact hguard.setPhase_settled call _ nofun nofun

lemma Guarded.resolve {call:ℕ} (hcall:pool.phase call=.working)
  (response:IdempotentResponse) : Guarded key (resolveCall key digest pool call response) := by
 cases h with
 | fresh _ _ _ hw | done _ _ _ _ _ _ hw => exact absurd hcall (hw call)
 | running d e hrow hstarted hw hproduced hr =>
   obtain rfl : call=e:=hw call hcall
   unfold resolveCall
   rcases executeWrite_cases (completeApiIdempotency key (digest call) response) pool.table with
    ⟨_,table',hwork,hwrite⟩ | ⟨e,-,hwrite⟩
   · rw [hwrite]
     have htable:table'=update pool.table key (some ⟨d,.completed response⟩) := by
      simp only [completeApiIdempotency,finishIdempotency,hrow] at hwork
      split at hwork
      · cases hwork
      · split at hwork
        · cases hwork
          rfl
        · cases hwork
     subst htable
     refine .done d call response (update_self ..) hstarted
      (by simp [RequestPool.setPhase,hproduced hcall]) (fun c hc=>?_) (fun c r hc=>?_)
     all_goals rw [setPhase_phase] at hc; split at hc
     · cases hc
     · exact absurd (hw c hc) (by assumption)
     · exact (CallPhase.replied.inj hc).symm
     · exact absurd hc (hr c r)
   · rw [hwrite]
     refine .running d call hrow hstarted (fun c hc=>?_) (fun hc=>?_) (fun c r hc=>?_)
     all_goals rw [setPhase_phase] at hc
     · split at hc
       · assumption
       · exact hw c hc
     · rw [if_pos rfl] at hc
       cases hc
     · split at hc
       · cases hc
       · exact absurd hc (hr c r)

lemma Guarded.crash : Guarded key pool.afterCrash := by
 cases h with
 | fresh hrow hstarted hproduced hw hr =>
   refine .fresh hrow hstarted hproduced (fun c=>?_) (fun c r=>?_)
   · simp [RequestPool.afterCrash,hw c]
   · simp [RequestPool.afterCrash,hw c,hr c r]
 | running d e hrow hstarted hw hproduced hr =>
   refine .running d e hrow hstarted (fun c hc=>?_) (fun hc=>?_) (fun c r hc=>?_)
   all_goals dsimp only [RequestPool.afterCrash] at hc; split at hc
   all_goals first | cases hc | contradiction | exact absurd hc (hr c r)
 | done d e r hrow hstarted hproduced hw hr =>
   refine .done d e r hrow hstarted hproduced (fun c=>?_) (fun c r' hc=>?_)
   · simp [RequestPool.afterCrash,hw c]
   · exact hr c r' (by simpa [RequestPool.afterCrash,hw c] using hc)

lemma Guarded.step (action:PoolAction)
  (hbegin:∀call,action=.begin call → pool.phase call=.waiting →
   (pool.table key).map (·.state)≠some .reserved) :
  Guarded key (poolStep key digest pool action) := by
 cases action with
 | begin call =>
   simp only [poolStep]
   split
   · exact h.begin call (hbegin call rfl (by assumption))
   · exact h
 | resolve call response =>
   simp only [poolStep]
   split
   · exact h.resolve (by assumption) response
   · exact h
 | reject call =>
   simp only [poolStep]
   split
   · exact h.setPhase_settled call _ nofun nofun
   · exact h
 | crash => exact h.crash

lemma Guarded.run (actions:List PoolAction) (hbegin:BeginsUnreserved key digest pool actions) :
  Guarded key (runPool key digest pool actions) := by
 induction actions generalizing pool with
 | nil => exact h
 | cons action actions ih => exact ih (h.step action hbegin.1) hbegin.2

end 

/-- The work of a request is executed at most once and every reply carries its response, as long
as no call begins while the row is reserved. -/
theorem work_executed_once (key:RequestKey) (digest:ℕ → String) (table:IdempotencyTable)
  (hnew:table key=none) (actions:List PoolAction)
  (hbegin:BeginsUnreserved key digest (emptyPool table) actions) :
  (runPool key digest (emptyPool table) actions).started.length ≤ 1 ∧
   ∀call response,
     (runPool key digest (emptyPool table) actions).phase call=.replied response →
     ∃e,(runPool key digest (emptyPool table) actions).started=[e] ∧
       (runPool key digest (emptyPool table) actions).produced=[(e,response)] := by
 have hempty:Guarded key (emptyPool table):=.fresh hnew rfl rfl nofun nofun
 cases hempty.run actions hbegin with
 | fresh _ hstarted _ _ hr | running _ _ _ hstarted _ _ hr =>
   exact ⟨by simp [hstarted],fun call response h=>absurd h (hr call response)⟩
 | done d e r hrow hstarted hproduced hw hr =>
   refine ⟨by simp [hstarted],fun call response h=>⟨e,hstarted,?_⟩⟩
   rw [hproduced,hr call response h]

theorem work_executed_once_replayed :
  ∃e,(runPool ⟨"principal","op_1"⟩ (fun _=>"digest") (emptyPool fun _=>none)
    [.begin 0,.resolve 0 ⟨200,[],[1]⟩,.begin 1]).started=[e] ∧
  (runPool ⟨"principal","op_1"⟩ (fun _=>"digest") (emptyPool fun _=>none)
   [.begin 0,.resolve 0 ⟨200,[],[1]⟩,.begin 1]).produced=[(e,⟨200,[],[1]⟩)] := by
 refine (work_executed_once ⟨"principal","op_1"⟩ (fun _=>"digest") (fun _=>none) rfl
  [.begin 0,.resolve 0 ⟨200,[],[1]⟩,.begin 1] ?_).2 1 ⟨200,[],[1]⟩ (by decide)
 refine ⟨fun _ _ _=>?_, nofun,fun _ _ _=>?_, trivial⟩ <;> decide

end Once

end EpistemicCompiler.IdempotentRequests
