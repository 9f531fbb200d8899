import Mathlib.Data.List.Induction
import EpistemicCompiler.AttachCeremonies

set_option autoImplicit false

/-!
# Histories of attach requests

What was issued for a root stays in the session of its nonce, and a nonce that has been used up
stays so. Over a whole history every ceremony rests on a nonce for its root exactly when every
approval brings one.
-/
namespace EpistemicCompiler.AttachHistories
open List Option Except
open PromotionWorld (RecoveryState SessionState Digest)
open AttachRequests AttachCeremonies

variable {nfc:String → String} {start world:World} {request:AttachRequest}
 {requests front back:List AttachRequest} {nonce:String}

section

lemma afterAll_append (front back:List AttachRequest) :
  afterAll nfc start (front++back)=afterAll nfc (afterAll nfc start front) back :=
 foldl_append

lemma afterAll_concat :
  afterAll nfc start (front++[request])=after nfc (afterAll nfc start front) request :=
 afterAll_append front [request]

/-- A session keeps what it was opened for, and once it is closed it does not change. -/
def Keeps (session session':TrustedSession) : Prop :=
 session'.challenge=session.challenge ∧ session'.expiresAt=session.expiresAt ∧
  (SessionState.isOpen session.state=false → session'=session)

variable {session:TrustedSession}

lemma keeps_after (henv:request.environment=none)
  (h:world.store.sessions nonce=some session) :
  ∃session',(after nfc world request).store.sessions nonce=some session' ∧
    Keeps session session' := by
 rcases session_cases henv nfc world nonce with
  hsame | ⟨other,hother,hopen,-,hspent⟩ | ⟨hnone,-⟩
 · exact ⟨session,hsame.trans h,rfl,rfl,fun _=>rfl⟩
 · obtain rfl : session=other:=some.inj (h.symm.trans hother)
   refine ⟨_,hspent,rfl,rfl,fun hclosed=>?_⟩
   rw [hopen] at hclosed
   cases hclosed
 · rw [h] at hnone
   cases hnone

lemma keeps_afterAll
  (henv:∀request∈requests,request.environment=none)
  (h:world.store.sessions nonce=some session) :
  ∃session',(afterAll nfc world requests).store.sessions nonce=some session' ∧
    Keeps session session' := by
 induction requests generalizing world session with
 | nil => exact ⟨session,h,rfl,rfl,fun _=>rfl⟩
 | cons request requests ih =>
   obtain ⟨next,hnext,hchallenge,hexpires,hclosed⟩ :=
    keeps_after (henv request mem_cons_self) h
   obtain ⟨last,hlast,hchallenge',hexpires',hclosed'⟩ :=
    ih (fun other hother=>henv other (mem_cons_of_mem _ hother)) hnext
   refine ⟨last,hlast,hchallenge'.trans hchallenge,hexpires'.trans hexpires,fun h=>?_⟩
   have hsame:=hclosed h
   rw [hsame] at hclosed'
   exact hclosed' h

/-- The session with which a nonce was issued: it was there at the start, or a request opened it. -/
def Issued (nfc:String → String) (start:World) (front:List AttachRequest) (nonce:String)
    (session:TrustedSession) : Prop :=
 start.store.sessions nonce=some session ∨
  ∃earlier request later,front=earlier++request::later ∧
    (afterAll nfc start earlier).store.sessions nonce=none ∧
    (after nfc (afterAll nfc start earlier) request).store.sessions nonce=some session

lemma Issued.append (h:Issued nfc start front nonce session)
  (later:List AttachRequest) : Issued nfc start (front++later) nonce session := by
 rcases h with h | ⟨earlier,request,between,rfl,h⟩
 · exact .inl h
 · exact .inr ⟨earlier,request,between++later,by simp,h⟩

lemma exists_issued_iff (henv:∀request∈front,request.environment=none)
  (P:Challenge → ℕ → Prop) :
  (∃session,(afterAll nfc start front).store.sessions nonce=some session ∧
   P session.challenge session.expiresAt) ↔
  ∃session,Issued nfc start front nonce session ∧ P session.challenge session.expiresAt := by
 constructor
 · rintro ⟨session,hsession,hP⟩
   induction front using reverseRecOn generalizing session with
   | nil => exact ⟨session,.inl hsession,hP⟩
   | append_singleton front request ih =>
     have hfront:∀other∈front,other.environment=none:=fun other hother=>
      henv other (mem_append_left _ hother)
     have hbefore:∀session,(afterAll nfc start front).store.sessions nonce=some session →
       P session.challenge session.expiresAt → ∃session,
         Issued nfc start (front++[request]) nonce session ∧
          P session.challenge session.expiresAt := by
      intro session hsession hP
      obtain ⟨first,hissued,hP⟩:=ih hfront session hsession hP
      exact ⟨first,hissued.append [request],hP⟩
     rw [afterAll_concat] at hsession
     rcases session_cases (henv request (by simp)) nfc (afterAll nfc start front) nonce with
      hsame | ⟨other,hother,-,-,hspent⟩ | ⟨hnone,-⟩
     · exact hbefore session (hsame.symm.trans hsession) hP
     · obtain rfl:=some.inj (hsession.symm.trans hspent)
       exact hbefore other hother hP
     · exact ⟨session,.inr ⟨front,request,[],rfl,hnone,hsession⟩,hP⟩
 · rintro ⟨session,hissued,hP⟩
   have hfound:∃later,∃world : World,world.store.sessions nonce=some session ∧
     afterAll nfc start front=afterAll nfc world later ∧
     ∀request∈later,request.environment=none := by
    rcases hissued with hstart | ⟨earlier,request,later,rfl,-,hopened⟩
    · exact ⟨front,start,hstart,rfl,henv⟩
    · refine ⟨later,_,hopened,?_,fun other hother=>henv other (by simp [hother])⟩
      rw [append_cons,afterAll_append,afterAll_concat]
   obtain ⟨later,world,hworld,hafter,hlater⟩:=hfound
   obtain ⟨session',hsession',hchallenge,hexpires,-⟩:=keeps_afterAll hlater hworld
   exact ⟨session',hafter ▸ hsession',by rwa [hchallenge,hexpires]⟩

end

def Consumes (nfc:String → String) (world:World) (request:AttachRequest) (nonce:String) :
    Prop :=
 ∃session,world.store.sessions nonce=some session ∧
   SessionState.isOpen session.state=true ∧
   (after nfc world request).store.sessions nonce =
    some { session with state:=.decided ensureApprove }

/-- In the whole history a workspace is trusted only with a live nonce for its root, no nonce serves
twice, and only a workspace that is recorded as ready is handed out. -/
structure Guarded (nfc:String → String) (start:World) (requests:List AttachRequest) : Prop where
 ceremonies : ∀front request back,requests=front++request::back →
  Trusts nfc (afterAll nfc start front) request →
  ∃observed nonce session,request.observation=.ok observed ∧ request.nonce=some nonce ∧
    Consumes nfc (afterAll nfc start front) request nonce ∧
    Issued nfc start front nonce session ∧ session.challenge=observed.challenge ∧
    request.now<session.expiresAt
 once : ∀front first between second back,
  requests=front++first::(between++second::back) → ∀nonce,
  Consumes nfc (afterAll nfc start front) first nonce →
  ¬Consumes nfc (afterAll nfc start (front++first::between)) second nonce
 recovery : ∀front request back,requests=front++request::back → ∀bind world',
  handleAttach nfc request (afterAll nfc start front)=.ok (.ensured (.ready bind)) world' →
  ∀row∈(afterAll nfc start front).store.workspaces,row.workspaceId=bind.workspaceId →
    row.recoveryState=.ready

/-- An approval comes with a live nonce for its root, and neither it nor the files of an unknown
root name a workspace that is not recorded as ready. -/
structure Proper (nfc:String → String) (world:World) (request:AttachRequest) : Prop where
 nonce : ∀observed,Approves nfc world request observed →
  ∃nonce session,request.nonce=some nonce ∧ world.store.sessions nonce=some session ∧
    session.challenge=observed.challenge ∧ request.now<session.expiresAt
 recovery : ∀observed,Approves nfc world request observed →
  ∀row∈world.store.workspaces,row.workspaceId=target world.store request observed →
    row.recoveryState=.ready
 quiet : ∀observed,Quiet world request observed →
  ∀row∈world.store.workspaces,row.workspaceId=request.chosenWorkspace →
    row.recoveryState=.ready

lemma Approves.consumes {observed:ObservedRoot} (h:Approves nfc world request observed)
  (henv:request.environment=none) (hnonce:request.nonce=some nonce) :
  Consumes nfc world request nonce := by
 obtain ⟨start,hbegin⟩:=h.1
 obtain ⟨bind,done,world',hrun,-,hsessions,-⟩:=h.completes henv hbegin
 have hafter:(after nfc world request).store.sessions=start.store.sessions := by
  rw [after_eq,hrun]
  exact hsessions
 cases hbegin.start with
 | bare hnone =>
   rw [hnonce] at hnone
   cases hnone
 | spent token session htoken _ hsession hopen =>
   obtain rfl : nonce=token:=some.inj (hnonce.symm.trans htoken)
   exact ⟨session,hsession,hopen,by rw [hafter]; exact if_pos rfl⟩

lemma consumes_once (henv:∀request∈back,request.environment=none)
  (h:Consumes nfc world request nonce) {second:AttachRequest} :
  ¬Consumes nfc (afterAll nfc world (request::back)) second nonce := by
 rintro ⟨session',hsession',hopen',-⟩
 obtain ⟨session,-,-,hspent⟩:=h
 obtain ⟨last,hlast,-,-,hclosed⟩:=keeps_afterAll henv hspent
 obtain rfl : session'=last:=some.inj (hsession'.symm.trans hlast)
 rw [hclosed rfl] at hopen'
 cases hopen'

lemma Guarded.proper (h:Guarded nfc start (front++request::back))
  (henv:∀other∈front++request::back,other.environment=none) :
  Proper nfc (afterAll nfc start front) request := by
 have hfront:∀other∈front,other.environment=none:=fun other hother=>
  henv other (mem_append_left _ hother)
 have hreq:request.environment=none:=henv request (by simp)
 constructor
 · intro observed happs
   obtain ⟨other,nonce,session,hobserved,hnonce,-,hissued,hchallenge,hlive⟩ :=
    h.ceremonies front request back rfl ((trusts_iff hreq).mpr ⟨observed,happs⟩)
   obtain ⟨start',hbegin⟩:=happs.1
   obtain rfl : other=observed:=ok.inj (hobserved.symm.trans hbegin.observation)
   obtain ⟨current,hcurrent,hchallenge',hlive'⟩:=(exists_issued_iff hfront
    (fun challenge expires=>challenge=other.challenge ∧ request.now<expires)).mpr
     ⟨session,hissued,hchallenge,hlive⟩
   exact ⟨nonce,current,hnonce,hcurrent,hchallenge',hlive'⟩
 · intro observed happs row hrow hid
   obtain ⟨start',hbegin⟩:=happs.1
   obtain ⟨bind,done,world',hrun,hbind,-,-⟩:=happs.completes hreq hbegin
   exact h.recovery front request back rfl bind world' hrun row hrow (hid.trans hbind.symm)
 · intro observed hquiet row hrow hid
   obtain ⟨bind,world',hrun,hbind⟩:=hquiet.ready hreq
   exact h.recovery front request back rfl bind world' hrun row hrow (hid.trans hbind.symm)

lemma guarded_of_proper (henv:∀request∈requests,request.environment=none)
  (h:∀front request back,requests=front++request::back →
   Proper nfc (afterAll nfc start front) request) : Guarded nfc start requests := by
 constructor
 · rintro front request back rfl htrust
   have hreq:request.environment=none:=henv request (by simp)
   obtain ⟨observed,happs⟩:=(trusts_iff hreq).mp htrust
   obtain ⟨nonce,session,hnonce,hsession,hchallenge,hlive⟩ :=
    (h front request back rfl).nonce observed happs
   obtain ⟨issued,hissued,hchallenge',hlive'⟩:=(exists_issued_iff
    (fun other hother=>henv other (mem_append_left _ hother))
    (fun challenge expires=>challenge=observed.challenge ∧ request.now<expires)).mp
     ⟨session,hsession,hchallenge,hlive⟩
   obtain ⟨start',hbegin⟩:=happs.1
   exact ⟨observed,nonce,issued,hbegin.observation,hnonce,
    Approves.consumes happs hreq hnonce,hissued,hchallenge',hlive'⟩
 · rintro front first between second back rfl nonce hfirst
   rw [afterAll_append]
   exact consumes_once (fun other hother=>henv other (by simp [hother])) hfirst
 · rintro front request back rfl bind world' hrun row hrow hid
   have hproper:=h front request back rfl
   rcases ready_cases (henv request (by simp)) hrun with
    ⟨observed,happs,hbind⟩ | ⟨ready,hready,hstate,hbind⟩ | ⟨observed,hquiet,hbind⟩
   · exact hproper.recovery observed happs row hrow (hid.trans hbind)
   · obtain rfl:=inj_on_of_nodup_map (afterAll nfc start front).store.distinct hrow hready
      (hid.trans hbind)
     exact hstate
   · exact hproper.quiet observed hquiet row hrow (hid.trans hbind)

/-- A history is guarded exactly when every request in it is proper in the state that it finds. -/
theorem ceremonies_guarded_iff (nfc:String → String) (start:World) (requests:List AttachRequest)
  (henvironment:∀request∈requests,request.environment=none) :
  Guarded nfc start requests ↔ ∀front request back,requests=front++request::back →
   Proper nfc (afterAll nfc start front) request := by
 constructor
 · rintro h front request back rfl
   exact h.proper henvironment
 · exact guarded_of_proper henvironment

def emptyWorld : World := ⟨⟨[],List.nodup_nil,fun _=>none, fun _=>none⟩,[]⟩

def sampleRoot : ObservedRoot := ⟨"/w","v","f","w"⟩

def sampleRequest (kind:AttachKind) (decision:Option AttachDecision) (nonce:Option String) :
    AttachRequest where
 client := .ok ()
 kind := kind
 decision := decision
 nonce := nonce
 observation := .ok sampleRoot
 chosenProject := "p"
 chosenWorkspace := "id"
 plane := none
 environment := none
 now := 0
 freshNonce := "n"

theorem ceremonies_guarded_iff_sample :
  Guarded id emptyWorld [sampleRequest .bind none none,
   sampleRequest .decide (some .approve) (some "n")] := by
 refine (ceremonies_guarded_iff id emptyWorld _ (by simp [sampleRequest])).mpr ?_
 intro front request back hsplit
 rcases front with _ | ⟨first,_ | ⟨second,rest⟩⟩
 · obtain ⟨rfl,-⟩:=cons.inj hsplit
   have hunapproved:(sampleRequest .bind none none).approved=false:=rfl
   refine ⟨fun _ h=>?_, fun _ _ row hrow=>?_, fun _ _ row hrow=>?_⟩
   · exact absurd h.2.approved (by rw [hunapproved]; decide)
   all_goals cases hrow
 · obtain ⟨rfl,hrest⟩:=cons.inj hsplit
   obtain ⟨rfl,-⟩:=cons.inj hrest
   refine ⟨fun observed h=>?_, fun _ _ row hrow=>?_, fun _ _ row hrow=>?_⟩
   · obtain ⟨start,hbegins⟩:=h.1
     obtain rfl : sampleRoot=observed:=ok.inj hbegins.observation
     exact ⟨"n",_,rfl,rfl,rfl,by decide⟩
   all_goals
    cases hrow
 · simp at hsplit

/-- An approval without a nonce registers a root that no ceremony was opened for. -/
theorem approval_without_nonce :
  ¬Guarded id emptyWorld [sampleRequest .decide (some .approve) none] := by
 intro h
 obtain ⟨_,_,_,_,hnonce,_⟩:=h.ceremonies [] _ [] rfl (.inr (.inr (by decide)))
 cases hnonce

end EpistemicCompiler.AttachHistories
