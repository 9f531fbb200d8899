import EpistemicCompiler.PromotionProtocol

set_option autoImplicit false

/-!
# Leases and open journals

A workspace is leased to at most one journal that has not ended. Every move of the lease protocol
keeps this, with what the owner of a lease can rely on.
-/
namespace EpistemicCompiler.PromotionLeases
open SharedPrograms PromotionWorld PromotionJournal PromotionTables PromotionProtocol List

structure Leases where
 journals : List JournalRow
 workspaces : List WorkspaceRow
 nextJournal : ℕ

variable {t:Leases} {g:WorkspaceRow → WorkspaceRow} {row:JournalRow}

def leases (w:World) : Leases := ⟨w.store.journals,w.store.workspaces,w.store.nextJournal⟩

lemma leases_of_tables {w w':World} (h:tables w'=tables w) : leases w'=leases w := by
 have hview:=congrArg (fun t:Tables=>(⟨t.journals,t.workspaces,t.nextJournal⟩ : Leases)) h
 exact hview

def Open (t:Leases) (row:JournalRow) : Prop := row∈t.journals ∧ row.state.terminal=false

/-- A workspace has one open journal at most, and then its lease is held for that journal. -/
structure Exclusive (t:Leases) : Prop where
 ids : (t.journals.map (·.journalId)).Nodup
 bound : ∀row∈t.journals,row.journalId<t.nextJournal
 single : ∀row row',Open t row → Open t row' → row.workspaceId=row'.workspaceId →
  row.journalId=row'.journalId
 leased : ∀row,Open t row → ∀ws∈t.workspaces,ws.workspaceId=row.workspaceId →
  ws.recoveryState≠.ready ∧ ws.activeJournalId=some row.journalId

/-- The workspace can have no other open journal, and its lease is held for this one. -/
structure Owns (t:Leases) (workspaceId:String) (journalId:ℕ) : Prop where
 placed : journalId<t.nextJournal
 home : ∀row∈t.journals,row.journalId=journalId → row.workspaceId=workspaceId
 only : ∀row,Open t row → row.workspaceId=workspaceId → row.journalId=journalId
 lease : ∀ws∈t.workspaces,ws.workspaceId=workspaceId →
  ws.recoveryState≠.ready ∧ ws.activeJournalId=some journalId

def LeaseInv (t:Leases) (workspaceId:String) : Lease → Prop
 | .holding journalId => Owns t workspaceId journalId
 | .ended journalId => Owns t workspaceId journalId ∧
   ∀row∈t.journals,row.journalId=journalId → row.state.terminal=true
 | .finished => True

def held : Lease → Bool
 | .holding _ | .ended _ => true
 | .finished => false

lemma Exclusive.row_eq (h:Exclusive t) {row':JournalRow} (hrow:row∈t.journals)
  (hrow':row'∈t.journals) (hid:row.journalId=row'.journalId) : row=row' :=
 inj_on_of_nodup_map h.ids hrow hrow' hid

lemma Exclusive.owns (h:Exclusive t) (hopen:Open t row) :
  Owns t row.workspaceId row.journalId where
 placed := h.bound row hopen.1
 home row' hrow' hid := by rw [h.row_eq hrow' hopen.1 hid]
 only row' hopen' hws := h.single row' row hopen' hopen hws
 lease := h.leased row hopen

section Updates

variable {t:Leases} {workspaceId other:String} {journalId:ℕ}

def Leases.setJournal (t:Leases) (journalId:ℕ) (state:JournalState)
    (receipt:Option Digest) : Leases :=
 { t with journals:=t.journals.map fun row=>
     if row.journalId=journalId then
      { row with state:=state, receiptObjectDigest:=receipt }
     else row }

variable {state:JournalState} {receipt:Option Digest} {row:JournalRow}

lemma mem_setJournal (h:row∈(t.setJournal journalId state receipt).journals) :
  ∃old∈t.journals,old.journalId=row.journalId ∧ old.workspaceId=row.workspaceId ∧
    ((row.journalId=journalId ∧ row.state=state) ∨
      (row.journalId≠journalId ∧ row=old)) := by
 obtain ⟨old,hold,rfl⟩:=mem_map.mp h
 refine ⟨old,hold,?_⟩
 split
 · rename_i hid
   exact ⟨rfl,rfl,.inl ⟨hid,rfl⟩⟩
 · rename_i hid
   exact ⟨rfl,rfl,.inr ⟨hid,rfl⟩⟩

/-- Only the owner's journal changes, so no other workspace gains an open journal. -/
lemma open_setJournal (howns:Owns t workspaceId journalId)
  (hopen:Open (t.setJournal journalId state receipt) row) :
  (row.workspaceId=workspaceId ∧ row.journalId=journalId ∧ state.terminal=false) ∨
   (Open t row ∧ row.journalId≠journalId) := by
 obtain ⟨old,hold,hid,hws,⟨hsame,hstate⟩ | ⟨hne,rfl⟩⟩:=mem_setJournal hopen.1
 · refine .inl ⟨?_,hsame,hstate ▸ hopen.2⟩
   rw [← hws]
   exact howns.home old hold (hid.trans hsame)
 · exact .inr ⟨⟨hold,hopen.2⟩,hne⟩

lemma Exclusive.setJournal (h:Exclusive t) (howns:Owns t workspaceId journalId)
  (state:JournalState) (receipt:Option Digest) :
  Exclusive (t.setJournal journalId state receipt) where
 ids := by
  have hids:(t.setJournal journalId state receipt).journals.map (·.journalId) =
    t.journals.map (·.journalId) := by
   simp only [Leases.setJournal,map_map]
   refine map_congr_left fun row _=>?_
   simp only [Function.comp]
   split <;> rfl
  rw [hids]
  exact h.ids
 bound row hrow := by
  obtain ⟨old,hold,hid,-,-⟩:=mem_setJournal hrow
  rw [← hid]
  exact h.bound old hold
 single row row' hopen hopen' hws := by
  rcases open_setJournal howns hopen with ⟨hws₁,hid₁,-⟩ | ⟨hopen₁,hne₁⟩
  · rcases open_setJournal howns hopen' with ⟨-,hid₂,-⟩ | ⟨hopen₂,hne₂⟩
    · rw [hid₁,hid₂]
    · exact absurd (howns.only row' hopen₂ (hws ▸ hws₁)) hne₂
  · rcases open_setJournal howns hopen' with ⟨hws₂,-,-⟩ | ⟨hopen₂,-⟩
    · exact absurd (howns.only row hopen₁ (hws.trans hws₂)) hne₁
    · exact h.single row row' hopen₁ hopen₂ hws
 leased row hopen ws hws hid := by
  rcases open_setJournal howns hopen with ⟨hws₁,hid₁,-⟩ | ⟨hopen₁,-⟩
  · rw [hid₁]
    exact howns.lease ws hws (hid.trans hws₁)
  · exact h.leased row hopen₁ ws hws hid

lemma Owns.setJournal {j:ℕ} (howns:Owns t workspaceId journalId) (h:Owns t other j)
  (hother:other≠workspaceId ∨ j=journalId) :
  Owns (t.setJournal journalId state receipt) other j where
 placed := h.placed
 home row hrow hid := by
  obtain ⟨old,hold,hsame,hws,-⟩:=mem_setJournal hrow
  rw [← hws]
  exact h.home old hold (hsame.trans hid)
 only row hopen hws := by
  rcases open_setJournal howns hopen with ⟨hws₁,hid₁,-⟩ | ⟨hopen₁,-⟩
  · rcases hother with hne | rfl
    · exact absurd (hws.symm.trans hws₁) hne
    · exact hid₁
  · exact h.only row hopen₁ hws
 lease := h.lease

def Leases.mapWorkspaces (t:Leases) (g:WorkspaceRow → WorkspaceRow) : Leases :=
 { t with workspaces:=t.workspaces.map g }

lemma Exclusive.mapWorkspaces (h:Exclusive t) (hid:∀ws,(g ws).workspaceId=ws.workspaceId)
  (hlease:∀row,Open t row → ∀ws∈t.workspaces,ws.workspaceId=row.workspaceId →
   (g ws).recoveryState≠.ready ∧ (g ws).activeJournalId=some row.journalId) :
  Exclusive (t.mapWorkspaces g) where
 ids := h.ids
 bound := h.bound
 single := h.single
 leased row hopen ws hws hsame := by
  obtain ⟨old,hold,rfl⟩:=mem_map.mp hws
  exact hlease row hopen old hold ((hid old).symm.trans hsame)

lemma Owns.mapWorkspaces (h:Owns t workspaceId journalId)
  (hid:∀ws,(g ws).workspaceId=ws.workspaceId)
  (hlease:∀ws∈t.workspaces,ws.workspaceId=workspaceId →
   (g ws).recoveryState≠.ready ∧ (g ws).activeJournalId=some journalId) :
  Owns (t.mapWorkspaces g) workspaceId journalId where
 placed := h.placed
 home := h.home
 only := h.only
 lease ws hws hsame := by
  obtain ⟨old,hold,rfl⟩:=mem_map.mp hws
  exact hlease old hold ((hid old).symm.trans hsame)

def regrant (workspaceId:String) (state:RecoveryState) (active:Option ℕ)
    (row:WorkspaceRow) : WorkspaceRow :=
 if row.workspaceId=workspaceId then
  { row with recoveryState:=state, activeJournalId:=active }
 else row

lemma regrant_id (state:RecoveryState) (active:Option ℕ) (row:WorkspaceRow) :
  (regrant workspaceId state active row).workspaceId=row.workspaceId := by
 unfold regrant
 split <;> rfl

lemma regrant_other {state:RecoveryState} {active:Option ℕ} {row:WorkspaceRow}
  (h:row.workspaceId≠workspaceId) : regrant workspaceId state active row=row :=
 if_neg h

lemma Exclusive.release (h:Exclusive t)
  (hfree:∀row,Open t row → row.workspaceId≠workspaceId) (state:RecoveryState) :
  Exclusive (t.mapWorkspaces (regrant workspaceId state none)) := by
 refine h.mapWorkspaces (regrant_id _ _) fun row hopen ws hws hsame=>?_
 rw [regrant_other (hsame ▸ hfree row hopen)]
 exact h.leased row hopen ws hws hsame

def reclassify (workspaceId:String) (state:RecoveryState) (row:WorkspaceRow) :
    WorkspaceRow :=
 if row.workspaceId=workspaceId then { row with recoveryState:=state } else row

lemma reclassify_id (state:RecoveryState) (row:WorkspaceRow) :
  (reclassify workspaceId state row).workspaceId=row.workspaceId := by
 unfold reclassify
 split <;> rfl

lemma reclassify_lease {state:RecoveryState} (hstate:state≠.ready) {row:WorkspaceRow}
  (h:row.recoveryState≠.ready ∧ row.activeJournalId=some journalId) :
  (reclassify workspaceId state row).recoveryState≠.ready ∧
   (reclassify workspaceId state row).activeJournalId=some journalId := by
 unfold reclassify
 split
 · exact ⟨hstate,h.2⟩
 · exact h

def Leases.begin (t:Leases) (row:JournalRow) : Leases where
 journals := t.journals++[row]
 workspaces := t.workspaces.map (regrant row.workspaceId .reconciling (some t.nextJournal))
 nextJournal := t.nextJournal+1

lemma open_begin {new:JournalRow} (hopen:Open (t.begin new) row) :
  Open t row ∨ row=new := by
 rcases mem_append.mp hopen.1 with hmem | hmem
 · exact .inl ⟨hmem,hopen.2⟩
 · exact .inr (mem_singleton.mp hmem)

section Begin

variable {new:JournalRow} (h:Exclusive t) (hid:new.journalId=t.nextJournal)
 (hfree:∀row,Open t row → row.workspaceId≠new.workspaceId)
include h hid

lemma begin_ids : ((t.begin new).journals.map (·.journalId)).Nodup := by
 have hfresh:t.nextJournal ∉ t.journals.map (·.journalId) := by
  intro hmem
  obtain ⟨row,hrow,heq⟩:=mem_map.mp hmem
  exact absurd (h.bound row hrow) (by omega)
 simpa [Leases.begin,nodup_append,hid,h.ids] using hfresh

include hfree

lemma Exclusive.begin : Exclusive (t.begin new) where
 ids := begin_ids h hid
 bound row hrow := by
  change row.journalId<t.nextJournal+1
  rcases mem_append.mp hrow with hrow | hrow
  · have hlt:=h.bound row hrow
    omega
  · rw [mem_singleton.mp hrow,hid]
    omega
 single row row' hopen hopen' hws := by
  rcases open_begin hopen with hold | hnew <;> rcases open_begin hopen' with hold' | hnew'
  · exact h.single row row' hold hold' hws
  · exact absurd (hws.trans (by rw [hnew'])) (hfree row hold)
  · exact absurd (hws.symm.trans (by rw [hnew])) (hfree row' hold')
  · rw [hnew,hnew']
 leased row hopen ws hws hsame := by
  obtain ⟨old,hold,rfl⟩:=mem_map.mp hws
  rw [regrant_id] at hsame
  rcases open_begin hopen with hopen | rfl
  · rw [regrant_other (hsame ▸ hfree row hopen)]
    exact h.leased row hopen old hold hsame
  · rw [regrant,if_pos hsame,hid]
    exact ⟨by simp,rfl⟩

lemma owns_begin : Owns (t.begin new) new.workspaceId t.nextJournal where
 placed := Nat.lt_succ_self _
 home row hrow hsame := by
  rcases mem_append.mp hrow with hrow | hrow
  · have hlt:=h.bound row hrow
    omega
  · rw [mem_singleton.mp hrow]
 only row hopen hws := by
  rcases open_begin hopen with hopen | rfl
  · exact absurd hws (hfree row hopen)
  · exact hid
 lease ws hws hsame := by
  obtain ⟨old,hold,rfl⟩:=mem_map.mp hws
  rw [regrant_id] at hsame
  rw [regrant,if_pos hsame]
  exact ⟨by simp,rfl⟩

omit h hfree

lemma Owns.begin (howns:Owns t other journalId) (hother:other≠new.workspaceId) :
  Owns (t.begin new) other journalId where
 placed := Nat.lt_succ_of_lt howns.placed
 home row hrow hsame := by
  rcases mem_append.mp hrow with hrow | hrow
  · exact howns.home row hrow hsame
  · rw [mem_singleton.mp hrow,hid] at hsame
    have hlt:=howns.placed
    omega
 only row hopen hws := by
  rcases open_begin hopen with hopen | rfl
  · exact howns.only row hopen hws
  · exact absurd hws.symm hother
 lease ws hws hsame := by
  obtain ⟨old,hold,rfl⟩:=mem_map.mp hws
  rw [regrant_id] at hsame
  rw [regrant_other (hsame ▸ hother)]
  exact howns.lease old hold hsame

end Begin

end Updates

section Moves

variable {w w':World} {workspaceId other:String} {journalId:ℕ} {lease lease':Lease}

lemma exclusive_of_moves (h:LeaseMoves workspaceId lease w w' lease')
  (hex:Exclusive (leases w)) (hinv:LeaseInv (leases w) workspaceId lease) :
  Exclusive (leases w') := by
 cases h with
 | quiet htables => rwa [leases_of_tables htables]
 | advance | finish =>
   have howns:Owns (leases w) workspaceId _:=hinv
   exact hex.setJournal howns _ _
 | release =>
   -- No journal of the workspace is open once the journal its lease is held for has ended.
   refine hex.release (fun row hopen hws=>?_) _
   have hended:=hinv.2 row hopen.1 (hinv.1.only row hopen hws)
   rw [hopen.2] at hended
   cases hended
 | block hstate =>
   exact hex.mapWorkspaces (reclassify_id _) fun row hopen ws hws hsame=>
    reclassify_lease hstate (hex.leased row hopen ws hws hsame)

lemma owner_of_moves (h:LeaseMoves workspaceId lease w w' lease')
  (hinv:LeaseInv (leases w) workspaceId lease) : LeaseInv (leases w') workspaceId lease' := by
 cases h with
 | quiet htables => rwa [leases_of_tables htables]
 | advance _ => exact .setJournal hinv hinv (.inr rfl)
 | finish hstate =>
   refine ⟨.setJournal hinv hinv (.inr rfl),fun row hrow hid=>?_⟩
   change row∈((leases w).setJournal _ _ _).journals at hrow
   obtain ⟨-,-,-,-,⟨-,hset⟩ | ⟨hne,-⟩⟩:=mem_setJournal hrow
   · rwa [hset]
   · exact absurd hid hne
 | release => trivial
 | block _ => trivial

lemma LeaseInv.setJournal {state:JournalState} {receipt:Option Digest}
  (howns:Owns t workspaceId journalId) (hother:held lease=true → other≠workspaceId)
  (h:LeaseInv t other lease) : LeaseInv (t.setJournal journalId state receipt) other lease := by
 cases lease with
 | holding j => exact howns.setJournal h (.inl (hother rfl))
 | ended j =>
   refine ⟨howns.setJournal h.1 (.inl (hother rfl)),fun row hrow hid=>?_⟩
   obtain ⟨old,hold,hsame,hws,⟨hset,-⟩ | ⟨-,rfl⟩⟩:=mem_setJournal hrow
   · have hhere:=howns.home old hold (hsame.trans hset)
     have hthere:=h.1.home old hold (hsame.trans hid)
     exact absurd (hthere.symm.trans hhere) (hother rfl)
   · exact h.2 row hold hid
 | finished => trivial

lemma LeaseInv.mapWorkspaces (h:LeaseInv t other lease)
  (hid:∀ws,(g ws).workspaceId=ws.workspaceId) (hlease:∀j ws,ws.workspaceId=other →
   ws.recoveryState≠.ready ∧ ws.activeJournalId=some j →
   (g ws).recoveryState≠.ready ∧ (g ws).activeJournalId=some j) :
  LeaseInv (t.mapWorkspaces g) other lease := by
 cases lease with
 | holding j =>
   exact .mapWorkspaces h hid fun ws hws hsame=>hlease j ws hsame (h.lease ws hws hsame)
 | ended j =>
   exact ⟨.mapWorkspaces h.1 hid fun ws hws hsame=>
    hlease j ws hsame (h.1.lease ws hws hsame), h.2⟩
 | finished => trivial

lemma others_of_moves (h:LeaseMoves workspaceId lease w w' lease')
  (hinv:LeaseInv (leases w) workspaceId lease) {theirs:Lease}
  (hother:held lease=true → held theirs=true → other≠workspaceId)
  (htheir:LeaseInv (leases w) other theirs) : LeaseInv (leases w') other theirs := by
 cases h with
 | quiet htables => rwa [leases_of_tables htables]
 | advance | finish =>
   have howns:Owns (leases w) workspaceId _:=hinv
   exact htheir.setJournal howns (hother rfl)
 | release =>
   cases hheld : held theirs with
   | false =>
     cases theirs with
     | finished => trivial
     | holding _ | ended _ => cases hheld
   | true =>
     change LeaseInv ((leases w).mapWorkspaces (regrant _ _ _)) _ _
     refine htheir.mapWorkspaces (regrant_id _ _) fun j ws hws hlease=>?_
     rwa [regrant_other (hws ▸ hother rfl hheld)]
 | block hstate =>
   exact htheir.mapWorkspaces (reclassify_id _) fun j ws _ hlease=>
    reclassify_lease hstate hlease

lemma LeaseInv.begin {new:JournalRow} (h:LeaseInv t workspaceId lease)
  (hid:new.journalId=t.nextJournal) (hother:held lease=true → workspaceId≠new.workspaceId) :
  LeaseInv (t.begin new) workspaceId lease := by
 cases lease with
 | holding j => exact .begin hid h (hother rfl)
 | ended j =>
   refine ⟨.begin hid h.1 (hother rfl),fun row hrow hsame=>?_⟩
   rcases mem_append.mp hrow with hrow | hrow
   · exact h.2 row hrow hsame
   · rw [mem_singleton.mp hrow,hid] at hsame
     have hlt:=h.1.placed
     omega
 | finished => trivial

end Moves

end EpistemicCompiler.PromotionLeases
