import EpistemicCompiler.PromotionRules

set_option autoImplicit false

/-!
# The plan of a promotion and the states it may leave behind

For one request on one start state: what every entry path held before and has to hold after, the
journal rows that describe it, and the invariant of every state in which the process may die.
-/
namespace EpistemicCompiler.PromotionPlan
open PromotionWorld PromotionJournal PromotionGrant PromotionApply PromotionRules List Function

variable (digest:Bytes → Digest) (req:ApplyRequest) (start:World)

variable (e:PromotionEntry)

def dest : Location := joinRel req.root e.relativePath

def before : Option Bytes := start.content (dest req e)

def after : Option Bytes :=
 match e.kind with
 | .delete => none
 | .replace | .create => e.afterBytes

def AllBefore (v:Tree) : Prop := ∀e∈req.entries,content v (dest req e)=before req start e

def AllAfter (v:Tree) : Prop := ∀e∈req.entries,content v (dest req e)=after e

def Above (path below:Path) : Prop := path <:+ below ∧ path≠below

instance (path below:Path) : Decidable (Above path below) := inferInstanceAs (Decidable (_ ∧ _))

/-- The temporary files of the entries stay clear of the entries themselves: no temporary of a
created file and no rollback temporary is an entry path, no created file lies above another one,
and no rollback temporary is a directory or becomes one. -/
structure Clear : Prop where
 distinct : (req.entries.map (·.relativePath)).Nodup
 createTempApart : ∀e∈req.entries,e.kind=.create → ∀e'∈req.entries,
  inParentCreateTemp (dest req e)≠dest req e'
 rollbackTempApart : ∀e∈req.entries,e.kind≠.create → ∀e'∈req.entries,
  rollbackTemp (dest req e)≠dest req e'
 createsApart : ∀e∈req.entries,e.kind=.create → ∀e'∈req.entries,e'.kind=.create →
  ¬ Above e.relativePath e'.relativePath
 rollbackTempFile : ∀e∈req.entries,e.kind≠.create →
  view start (rollbackTemp (dest req e))≠some .directory ∧
   ∀e'∈req.entries,e'.kind=.create →
     ¬ Above (rollbackTemp (dest req e)).path e'.relativePath

/-- Nothing is pending when the promotion starts, and the workspace is a tree of files that its
staging directory lies beside. -/
structure Quiet : Prop where
 parent : hasParent req.workspaceRoot=true
 ended : ∀row∈start.store.journals,row.state.terminal=true
 old : ∀row∈start.store.journals,row.journalId≠start.store.nextJournal
 released : ∀row∈start.store.workspaces,row.activeJournalId=none
 fresh : start.store.entries start.store.nextJournal=[]
 registered : ∀row∈start.store.workspaces,row.workspaceId=req.workspaceId →
  row.rootPath=req.workspaceRoot
 rooted : view start ⟨req.root,[]⟩=some .directory
 closed : ∀name path,view start ⟨req.root,name::path⟩≠none →
  view start ⟨req.root,path⟩=some .directory

def Accepted : Prop :=
 match e.kind with
 | .create => before req start e=none ∧ ∃b,e.afterBytes=some b
 | .replace => (∃b,before req start e=some b) ∧ ∃b,e.afterBytes=some b
 | .delete => ∃b,before req start e=some b

def planRow (index:ℕ) (state:EntryState) : EntryRow :=
 ⟨index,e.kind,e.relativePath,(before req start e).map digest,(after e).map digest,
  (before req start e).map digest,state⟩

def planRows (st:ℕ → EntryState) (l:List (PromotionEntry×ℕ)) : List EntryRow :=
 l.map fun x=>planRow digest req start x.1 x.2 (st x.2)

section Invariant

/-- What the end of a journal can depend on: whether a file operation has failed, which alone leads
to a manual recovery, and whether the expected digest tells the promoted tree from all others. -/
structure Premises where
 failed : Prop
 expects : Prop

variable (given:Premises)

/-- When nothing is created, only rollback temporaries differ from the start apart from the files
of the entries, and one is only left while its entry has not got its before content back. -/
def Residue (v:Tree) : Prop :=
 (∀e∈req.entries,e.kind≠.create) → ∀path : Path,
  (∀e∈req.entries,before req start e≠none → (⟨req.root,path⟩ : Location)≠dest req e) →
   v ⟨req.root,path⟩=view start ⟨req.root,path⟩ ∨
   ∃e∈req.entries,(⟨req.root,path⟩ : Location)=rollbackTemp (dest req e) ∧
     (v ⟨req.root,path⟩=none ∨ content v (dest req e)≠before req start e)

structure TreeOk (v:Tree) : Prop where
 root : v ⟨req.root,[]⟩=some .directory
 settled : ∀e∈req.entries,
  content v (dest req e)=before req start e ∨ content v (dest req e)=after e
 file : ∀e∈req.entries,v (dest req e)≠some .directory
 parent : ∀e∈req.entries,v (dest req e).parent=some .directory
 createTempFile : ∀e∈req.entries,e.kind=.create →
  v (inParentCreateTemp (dest req e))≠some .directory
 rollbackTempFile : ∀e∈req.entries,e.kind≠.create →
  v (rollbackTemp (dest req e))≠some .directory
 present : ∀e∈req.entries,e.kind≠.create → before req start e≠none
 residue : Residue req start v

def leased (lease:RecoveryState×Option ℕ) : List WorkspaceRow :=
 start.store.workspaces.map fun row=>
  if row.workspaceId=req.workspaceId then
   { row with recoveryState:=lease.1, activeJournalId:=lease.2 }
  else row

def held : RecoveryState×Option ℕ := (.reconciling,some start.store.nextJournal)
def released : RecoveryState×Option ℕ := (.ready,none)
def blocked : RecoveryState×Option ℕ := (.manualRecoveryRequired,none)

structure Ledger (s:Store) (state:JournalState) (lease:RecoveryState×Option ℕ) : Prop where
 registered : ∃row∈start.store.workspaces,row.workspaceId=req.workspaceId
 workspaces : s.workspaces=leased req start lease
 journals : ∃approval receipt,s.journals=start.store.journals ++
  [(journalPlan req approval).row start.store.nextJournal state receipt] ∧
    (state.terminal=true → receipt.isSome)

/-- The staged promotion: its tree, its rows, and the objects kept for both directions. -/
structure Core (v:Tree) (s:Store) (st:ℕ → EntryState) : Prop where
 tree : TreeOk req start v
 rows : s.entries start.store.nextJournal=planRows digest req start st req.entries.zipIdx
 accepted : ∀e∈req.entries,Accepted req start e
 beforeKept : ∀e∈req.entries,∀b,before req start e=some b → s.cas (digest b)=some b
 afterKept : ∀e∈req.entries,∀b,after e=some b → s.cas (digest b)=some b

structure Staged (state:JournalState) (st:ℕ → EntryState) (v:Tree) (s:Store) : Prop where
 ledger : Ledger req start s state (held start)
 core : Core digest req start v s st

def RolledOk (v:Tree) (st:ℕ → EntryState) : Prop :=
 ∀x∈req.entries.zipIdx,st x.2=.rolledBack →
   content v (dest req x.1)=before req start x.1

structure Unmoved (v:Tree) : Prop where
 root : v ⟨req.root,[]⟩=some .directory
 before : AllBefore req start v
 residue : Residue req start v

def Phase (state:JournalState) (lease:RecoveryState×Option ℕ) (v:Tree) (s:Store) : Prop :=
 match state with
 | .preparing => lease=held start ∧ Unmoved req start v
 | .prepared | .committing => lease=held start ∧
   ∃st,Core digest req start v s st ∧ ∀i,st i≠.rolledBack
 | .verifying | .rollingBack => lease=held start ∧
   ∃st,Core digest req start v s st ∧ RolledOk req start v st
 | .committed => (lease=held start ∨ lease=released) ∧
   (given.expects → AllAfter req v)
 | .rolledBack | .stale => (lease=held start ∨ lease=released) ∧
   AllBefore req start v ∧ Residue req start v
 | .manualRecoveryRequired => (lease=held start ∨ lease=blocked) ∧ given.failed

def Begun (state:JournalState) (lease:RecoveryState×Option ℕ) (v:Tree) (s:Store) : Prop :=
 Ledger req start s state lease ∧ Phase digest req start given state lease v s

structure Idle (v:Tree) (s:Store) : Prop where
 tree : v=view start
 workspaces : s.workspaces=start.store.workspaces
 journals : s.journals=start.store.journals
 nextJournal : s.nextJournal=start.store.nextJournal
 entries : s.entries=start.store.entries

/-- The tree allows the journal to end in this state and to hand the lease back like this. -/
structure Ends (state:JournalState) (lease:RecoveryState) (v:Tree) : Prop where
 terminal : state.terminal=true
 held : ∀s,Phase digest req start given state (held start) v s
 dropped : ∀s,Phase digest req start given state (lease,none) v s

def Consistent (v:Tree) (s:Store) : Prop :=
 Idle start v s ∨ ∃state lease,Begun digest req start given state lease v s

end Invariant

section Runner

variable (env:Env) (req:ApplyRequest) (start:World) (given:Premises)

abbrev Sound : Guard := Consistent env.contentDigest req start given
abbrev Midway := Staged env.contentDigest req start
abbrev Opened := Begun env.contentDigest req start given
abbrev Forwards (st:ℕ → EntryState) : Prop := ∀i,st i≠.rolledBack

end Runner

section Trees

variable {req:ApplyRequest} {start:World} {v v':Tree} {e:PromotionEntry}

@[simp] lemma inParentCreateTemp_root (loc:Location) :
  (inParentCreateTemp loc).root=loc.root := by
  unfold inParentCreateTemp
  split <;> rfl

@[simp] lemma rollbackTemp_root (loc:Location) : (rollbackTemp loc).root=loc.root := by
  unfold rollbackTemp withExtension
  split <;> rfl

lemma Accepted.absent (h:Accepted req start e) (hkind:e.kind=.create) :
  before req start e=none := by
 rw [Accepted,hkind] at h
 exact h.1

lemma Accepted.present (h:Accepted req start e) (hkind:e.kind≠.create) :
  ∃b,before req start e=some b := by
 unfold Accepted at h
 split at h
 case h_1 hcreate => exact absurd hcreate hkind
 case h_2 => exact h.1
 case h_3 => exact h

lemma Accepted.promoted (h:Accepted req start e) (hkind:e.kind≠.delete) :
  ∃b,after e=some b := by
 unfold Accepted at h
 unfold after
 split at h
 case h_1 hcreate => simpa [hcreate] using h.2
 case h_2 hreplace => simpa [hreplace] using h.2
 case h_3 hdelete => exact absurd hdelete hkind

lemma dest_injective (hclear:Clear req start) (he:e∈req.entries) {e':PromotionEntry}
  (he':e'∈req.entries) (h:dest req e=dest req e') : e=e' :=
 inj_on_of_nodup_map hclear.distinct he he' (congrArg Location.path h)

lemma TreeOk.congr (h:TreeOk req start v)
  (hv:∀loc : Location,loc.root=req.root → v' loc=v loc) : TreeOk req start v' where
 root := (hv _ rfl).trans h.root
 settled e he := by
  rw [content,hv _ rfl]
  exact h.settled e he
 file e he := by
  rw [hv _ rfl]
  exact h.file e he
 parent e he := by
  rw [hv _ rfl]
  exact h.parent e he
 createTempFile e he hkind := by
  rw [hv _ (inParentCreateTemp_root _)]
  exact h.createTempFile e he hkind
 rollbackTempFile e he hkind := by
  rw [hv _ (rollbackTemp_root _)]
  exact h.rollbackTempFile e he hkind
 present := h.present
 residue hkinds path hpath := by
  rw [hv _ rfl]
  refine (h.residue hkinds path hpath).imp_right ?_
  rintro ⟨e,he,hpath,hleft⟩
  refine ⟨e,he,hpath,hleft.imp_right fun hne=>?_⟩
  rwa [content,hv _ rfl]

variable {x:Option Shape} {u:Tree}

variable {loc:Location}

lemma TreeOk.set_dest (hclear:Clear req start) (h:TreeOk req start v) (he:e∈req.entries)
  (hx:x≠some .directory) (hbytes:bytesOf x=before req start e ∨ bytesOf x=after e)
  (hresidue:content v (dest req e)=before req start e ∨ bytesOf x≠before req start e ∨
   e.kind=.create ∨ v (rollbackTemp (dest req e))=none) :
  TreeOk req start (v.set (dest req e) x) := by
 have hother:∀e'∈req.entries,e'≠e → dest req e'≠dest req e :=
  fun e' he' hne heq=>hne (dest_injective hclear he' he heq)
 refine ⟨v.set_directory x (h.file e he) h.root,?_,?_,?_,?_,?_,h.present,?_⟩
 · intro e' he'
   by_cases heq : e'=e
   · rw [heq,content_set_same]
     exact hbytes
   · rw [content_set_other _ _ (hother e' he' heq)]
     exact h.settled e' he'
 · exact fun e' he'=>v.set_ne_directory _ hx (h.file e' he')
 · exact fun e' he'=>v.set_directory x (h.file e he) (h.parent e' he')
 · exact fun e' he' hkind=>v.set_ne_directory _ hx (h.createTempFile e' he' hkind)
 · exact fun e' he' hkind=>v.set_ne_directory _ hx (h.rollbackTempFile e' he' hkind)
 · intro hkinds path hpath
   rw [Tree.set_other _ _ (hpath e he (h.present e he (hkinds e he)))]
   refine (h.residue hkinds path hpath).imp_right ?_
   rintro ⟨e',he',htemp,hleft⟩
   refine ⟨e',he',htemp,?_⟩
   -- A temporary of this entry may lose its excuse only if it is gone.
   by_cases heq : e'=e
   · subst heq
     rw [content_set_same]
     rcases hresidue with hbefore | hne | hcreate | hnone
     · exact hleft.imp_right fun hne=>absurd hbefore hne
     · exact .inr hne
     · exact absurd hcreate (hkinds e' he)
     · rw [← htemp] at hnone
       exact .inl hnone
   · rwa [content_set_other _ _ (hother e' he' heq)]

lemma TreeOk.set_temp (h:TreeOk req start v) {temp:Location}
  (hapart:∀e∈req.entries,temp≠dest req e) (hv:v temp≠some .directory)
  (hx:x≠some .directory)
  (hresidue:(∃e∈req.entries,e.kind=.create) ∨ ∃e∈req.entries,
   temp=rollbackTemp (dest req e) ∧ (x=none ∨ content v (dest req e)≠before req start e)) :
  TreeOk req start (v.set temp x) := by
 have hcontent:∀e∈req.entries,content (v.set temp x) (dest req e)=content v (dest req e) :=
  fun e he=>content_set_other _ _ (hapart e he).symm
 refine ⟨v.set_directory x hv h.root,?_,?_,?_,?_,?_,h.present,?_⟩
 · intro e he
   rw [hcontent e he]
   exact h.settled e he
 · exact fun e he=>v.set_ne_directory _ hx (h.file e he)
 · exact fun e he=>v.set_directory x hv (h.parent e he)
 · exact fun e he hkind=>v.set_ne_directory _ hx (h.createTempFile e he hkind)
 · exact fun e he hkind=>v.set_ne_directory _ hx (h.rollbackTempFile e he hkind)
 · intro hkinds path hpath
   by_cases heq : (⟨req.root,path⟩ : Location)=temp
   · rw [heq,Tree.set_same]
     obtain ⟨e,he,hcreate⟩ | ⟨e,he,htemp,hleft⟩:=hresidue
     · exact absurd hcreate (hkinds e he)
     · refine .inr ⟨e,he,htemp,?_⟩
       rwa [hcontent e he]
   · rw [Tree.set_other _ _ heq]
     refine (h.residue hkinds path hpath).imp_right ?_
     rintro ⟨e,he,htemp,hleft⟩
     refine ⟨e,he,htemp,?_⟩
     rwa [hcontent e he]

/-- The tree while one entry is worked on: the other entries keep their content. -/
structure Working (req:ApplyRequest) (start:World) (e:PromotionEntry) (v u:Tree) :
  Prop where
 tree : TreeOk req start u
 others : ∀e'∈req.entries,e'≠e → content u (dest req e')=content v (dest req e')

lemma Working.refl (h:TreeOk req start v) : Working req start e v v := ⟨h,fun _ _ _=>rfl⟩

lemma Working.congr {u':Tree} (h:Working req start e v u)
  (hu:∀loc : Location,loc.root=req.root → u' loc=u loc) : Working req start e v u' where
 tree := h.tree.congr hu
 others e' he' hne := by
  rw [content,hu _ rfl]
  exact h.others e' he' hne

section

variable (hclear:Clear req start) (h:Working req start e v u) (he:e∈req.entries)
 (hx:x≠some .directory)
include hclear h he hx

lemma Working.set_dest (hbytes:bytesOf x=before req start e ∨ bytesOf x=after e)
  (hresidue:content u (dest req e)=before req start e ∨ bytesOf x≠before req start e ∨
   e.kind=.create ∨ u (rollbackTemp (dest req e))=none) :
  Working req start e v (u.set (dest req e) x) where
 tree := h.tree.set_dest hclear he hx hbytes hresidue
 others e' he' hne := by
  rw [content_set_other _ _ fun heq=>hne (dest_injective hclear he' he heq)]
  exact h.others e' he' hne

lemma Working.set_after (hbytes:bytesOf x=after e) :
  Working req start e v (u.set (dest req e) x) := by
 refine h.set_dest hclear he hx (.inr hbytes) ?_
 by_cases hsame : after e=before req start e
 · have hsettled:=h.tree.settled e he
   rw [hsame,or_self] at hsettled
   exact .inl hsettled
 · exact .inr (.inl (hbytes ▸ hsame))

end 

lemma Working.set_temp (h:Working req start e v u) {temp:Location}
  (hapart:∀e∈req.entries,temp≠dest req e) (hu:u temp≠some .directory)
  (hx:x≠some .directory)
  (hresidue:(∃e∈req.entries,e.kind=.create) ∨ ∃e∈req.entries,
   temp=rollbackTemp (dest req e) ∧ (x=none ∨ content u (dest req e)≠before req start e)) :
  Working req start e v (u.set temp x) where
 tree := h.tree.set_temp hapart hu hx hresidue
 others e' he' hne := by
  rw [content_set_other _ _ (hapart e' he').symm]
  exact h.others e' he' hne

lemma Working.set_staging (h:Working req start e v u) (hloc:loc.root≠req.root)
  (x:Option Shape) : Working req start e v (u.set loc x) := by
 refine h.congr fun l hl=>Tree.set_other _ _ ?_
 rintro rfl
 exact hloc hl

lemma stage_apart {workspaceId:String} :
  RootDir.staging req.workspaceRoot workspaceId≠req.root := nofun

lemma Quiet.stage (h:Quiet req start) (workspaceId:String) :
  stagingDir req.workspaceRoot workspaceId=⟨.staging req.workspaceRoot workspaceId,[]⟩ :=
 if_pos h.parent

lemma dest_path_ne_nil (h:TreeOk req start v) (he:e∈req.entries) :
  (dest req e).path≠[] := by
 intro hpath
 have hdest:dest req e=⟨req.root,[]⟩:=congrArg (Location.mk req.root) hpath
 exact h.file e he (hdest ▸ h.root)

lemma inParentCreateTemp_parent (h:loc.path≠[]) :
  (inParentCreateTemp loc).parent=loc.parent := by
 obtain ⟨root,_ | ⟨name,parent⟩⟩:=loc
 · exact absurd rfl h
 · rfl

lemma rollbackTemp_parent : (rollbackTemp loc).parent=loc.parent := by
 obtain ⟨root,_ | ⟨name,parent⟩⟩:=loc <;> rfl

end Trees

section Rows

variable {digest:Bytes → Digest} {req:ApplyRequest} {start:World} {v:Tree} {s s':Store}
 {state:JournalState} {lease:RecoveryState×Option ℕ} {st:ℕ → EntryState} {given:Premises}

lemma Quiet.no_active (hquiet:Quiet req start) :
  start.store.journals.filter (! ·.state.terminal)=[] := by
 rw [filter_eq_nil_iff]
 intro row hrow
 simp [hquiet.ended row hrow]

lemma Ledger.congr (h:Ledger req start s state lease) (hw:s'.workspaces=s.workspaces)
  (hj:s'.journals=s.journals) : Ledger req start s' state lease where
 registered := h.registered
 workspaces := hw.trans h.workspaces
 journals := by
  rw [hj]
  exact h.journals

lemma Ledger.setJournal (hquiet:Quiet req start) (h:Ledger req start s state lease)
  {state':JournalState} {receipt:Option Digest}
  (hreceipt:state'.terminal=true → receipt.isSome) :
  Ledger req start (Store.setJournal s start.store.nextJournal state' receipt) state' lease where
 registered := h.registered
 workspaces := h.workspaces
 journals := by
  obtain ⟨approval,old,hjournals,-⟩:=h.journals
  refine ⟨approval,receipt,?_,hreceipt⟩
  have hold:start.store.journals.map (fun row=>
    if row.journalId=start.store.nextJournal then
     { row with state:=state', receiptObjectDigest:=receipt }
    else row)=start.store.journals :=
   (map_congr_left fun row hrow=>if_neg (hquiet.old row hrow)).trans (map_id _)
  unfold Store.setJournal
  rw [hjournals,map_append,hold]
  simp [JournalPlan.row]

lemma Ledger.setWorkspace (h:Ledger req start s state lease) (recovery:RecoveryState)
  (active:Option ℕ) :
  Ledger req start (Store.setWorkspace s req.workspaceId recovery active) state
   (recovery,active) where
 registered := h.registered
 workspaces := by
  unfold Store.setWorkspace leased
  rw [h.workspaces,leased,map_map]
  refine map_congr_left fun row _=>?_
  by_cases hrow : row.workspaceId=req.workspaceId <;> simp [hrow]
 journals := h.journals

lemma Ledger.setRecovery (h:Ledger req start s state lease) (recovery:RecoveryState) :
  Ledger req start (Store.setRecovery s req.workspaceId recovery) state
   (recovery,lease.2) where
 registered := h.registered
 workspaces := by
  unfold Store.setRecovery leased
  rw [h.workspaces,leased,map_map]
  refine map_congr_left fun row _=>?_
  by_cases hrow : row.workspaceId=req.workspaceId <;> simp [hrow]
 journals := h.journals

section

variable (e:PromotionEntry) (i:ℕ) (x:EntryState)

lemma planRow_dest :
  joinRel req.root (planRow digest req start e i x).relativePath=dest req e := rfl

lemma planRow_kind :
  (planRow digest req start e i x).operationKind=e.kind := rfl

lemma planRow_expectedBefore :
  (planRow digest req start e i x).expectedBeforeDigest=(before req start e).map digest := rfl

lemma planRow_expectedAfter :
  (planRow digest req start e i x).expectedAfterDigest=(after e).map digest := rfl

end 

lemma planRows_setEntry (l:List (PromotionEntry×ℕ)) (i:ℕ) (x:EntryState) :
  (planRows digest req start st l).map
    (fun row=>if row.sequence=i then { row with entryState:=x } else row) =
   planRows digest req start (Function.update st i x) l := by
 unfold planRows
 rw [map_map]
 refine map_congr_left fun y _=>?_
 by_cases hy : y.2=i <;> simp [planRow,hy]

lemma planRows_sorted (n:ℕ) (l:List PromotionEntry) :
  (planRows digest req start st (l.zipIdx n)).Pairwise (·.sequence ≤ ·.sequence) := by
 unfold planRows
 rw [pairwise_map]
 have hlt:=pairwise_lt_range' (s:=n) (n:=l.length)
 rw [← zipIdx_map_snd,pairwise_map] at hlt
 exact hlt.imp fun h=>Nat.le_of_lt h

lemma Core.congr (h:Core digest req start v s st)
  (hentries:s'.entries start.store.nextJournal=s.entries start.store.nextJournal)
  (hcas:s'.cas=s.cas) : Core digest req start v s' st where
 tree := h.tree
 rows := hentries.trans h.rows
 accepted := h.accepted
 beforeKept := by
  rw [hcas]
  exact h.beforeKept
 afterKept := by
  rw [hcas]
  exact h.afterKept

lemma Core.withTree {v':Tree} (h:Core digest req start v s st)
  (htree:TreeOk req start v') : Core digest req start v' s st :=
 { h with tree:=htree }

lemma Core.setEntry (h:Core digest req start v s st) (i:ℕ) (x:EntryState) :
  Core digest req start v (Store.setEntry s start.store.nextJournal i x)
   (Function.update st i x) where
 tree := h.tree
 rows := by
  simp only [Store.setEntry,if_true,h.rows,planRows_setEntry]
 accepted := h.accepted
 beforeKept := h.beforeKept
 afterKept := h.afterKept

lemma Staged.setEntry (h:Staged digest req start state st v s) (i:ℕ) (x:EntryState) :
  Staged digest req start state (Function.update st i x) v
   (Store.setEntry s start.store.nextJournal i x) :=
 ⟨h.ledger.congr rfl rfl,h.core.setEntry i x⟩

lemma Staged.working {e:PromotionEntry} {u:Tree} (h:Staged digest req start state st v s)
  (hu:Working req start e v u) : Staged digest req start state st u s :=
 ⟨h.ledger,h.core.withTree hu.tree⟩

lemma Staged.setJournal (hquiet:Quiet req start) (h:Staged digest req start state st v s)
  (state':JournalState) (hstate:state'.terminal=false) :
  Staged digest req start state' st v
   (Store.setJournal s start.store.nextJournal state' none) :=
 ⟨h.ledger.setJournal hquiet (by simp [hstate]),h.core.congr rfl rfl⟩

lemma meets_loadEntries {P:Guard} {Q:Post (List EntryRow)} (h:Core digest req start v s st)
  (hP:P v s) (hok:Q (.ok (planRows digest req start st req.entries.zipIdx)) v s) :
  Meets P Q (loadEntries start.store.nextJournal) v s := by
 refine meets_readStore (f := fun s=>(s.entries start.store.nextJournal).insertionSort
  (·.sequence ≤ ·.sequence)) hP ?_
 rwa [h.rows,(planRows_sorted 0 req.entries).insertionSort_eq]

lemma Staged.consistent_forward (h:Staged digest req start state st v s)
  (hstate:state=.prepared ∨ state=.committing) (hst:Forwards st) :
  Consistent digest req start given v s := by
 refine .inr ⟨state,held start,h.ledger,?_⟩
 rcases hstate with rfl | rfl <;> exact ⟨rfl,st,h.core,hst⟩

lemma Staged.consistent_rolling (h:Staged digest req start state st v s)
  (hstate:state=.verifying ∨ state=.rollingBack) (hroll:RolledOk req start v st) :
  Consistent digest req start given v s := by
 refine .inr ⟨state,held start,h.ledger,?_⟩
 rcases hstate with rfl | rfl <;> exact ⟨rfl,st,h.core,hroll⟩

lemma ends_committed (h:given.expects → AllAfter req v) :
  Ends digest req start given .committed .ready v :=
 ⟨rfl,fun _=>⟨.inl rfl,h⟩, fun _=>⟨.inr rfl,h⟩⟩

lemma ends_unchanged (hbefore:AllBefore req start v) (hresidue:Residue req start v)
  (hstate:state=.rolledBack ∨ state=.stale) : Ends digest req start given state .ready v := by
 rcases hstate with rfl | rfl
 · exact ⟨rfl,fun _=>⟨.inl rfl,hbefore,hresidue⟩, fun _=>⟨.inr rfl,hbefore,hresidue⟩⟩
 · exact ⟨rfl,fun _=>⟨.inl rfl,hbefore,hresidue⟩, fun _=>⟨.inr rfl,hbefore,hresidue⟩⟩

lemma Begun.root (h:Begun digest req start given state lease v s)
  (hact:state.terminal=false) : v ⟨req.root,[]⟩=some .directory := by
 obtain ⟨-,hphase⟩:=h
 cases state with
 | preparing => exact hphase.2.root
 | prepared | committing | verifying | rollingBack =>
   obtain ⟨-,st,hcore,-⟩:=hphase
   exact hcore.tree.root
 | committed | rolledBack | stale | manualRecoveryRequired => cases hact

lemma Ledger.rootPath (hquiet:Quiet req start) (h:Ledger req start s state lease) :
  (Store.lookupWorkspace s req.workspaceId).map (·.rootPath)=some req.workspaceRoot := by
 obtain ⟨row₀,hrow₀,hid₀⟩:=h.registered
 unfold Store.lookupWorkspace
 cases hfind : s.workspaces.find? (·.workspaceId=req.workspaceId) with
 | none =>
   rw [find?_eq_none,h.workspaces] at hfind
   refine absurd ?_ (hfind _ (mem_map_of_mem hrow₀))
   simp [hid₀]
 | some row =>
   have hid:row.workspaceId=req.workspaceId := by simpa using find?_some hfind
   have hrow:=mem_of_find?_eq_some hfind
   rw [h.workspaces,leased,mem_map] at hrow
   obtain ⟨old,hold,rfl⟩:=hrow
   have hpath:old.workspaceId=req.workspaceId := by
    revert hid
    split <;> simp
   simp [hpath,hquiet.registered old hold hpath]

lemma exists_index {e:PromotionEntry} (he:e∈req.entries) :
  ∃i,(e,i)∈req.entries.zipIdx := by
 obtain ⟨i,hi⟩:=mem_iff_getElem?.mp he
 exact ⟨i,mk_mem_zipIdx_iff_getElem?.mpr hi⟩

lemma forall_entries {p:PromotionEntry → Prop} (h:∀x∈req.entries.zipIdx,p x.1) :
  ∀e∈req.entries,p e := by
 intro e he
 obtain ⟨i,hi⟩:=exists_index he
 exact h (e,i) hi

variable {x:PromotionEntry×ℕ}

lemma index_unique (hclear:Clear req start) {y:PromotionEntry×ℕ}
  (hx:x∈req.entries.zipIdx) (hy:y∈req.entries.zipIdx) (h:x.1=y.1) : x.2=y.2 := by
 have hx':=mem_zipIdx_iff_getElem?.mp hx
 have hy':=mem_zipIdx_iff_getElem?.mp hy
 have hlt:x.2<req.entries.length := by simpa using snd_lt_of_mem_zipIdx hx
 refine (getElem?_inj hlt (List.Nodup.of_map _ hclear.distinct)).mp ?_
 rw [hx',hy',h]

lemma entry_unique {y:PromotionEntry×ℕ} (hx:x∈req.entries.zipIdx)
  (hy:y∈req.entries.zipIdx) (h:x.2=y.2) : x.1=y.1 := by
 have hx':=mem_zipIdx_iff_getElem?.mp hx
 have hy':=mem_zipIdx_iff_getElem?.mp hy
 rw [h,hy'] at hx'
 exact (Option.some.inj hx').symm

lemma indices_nodup : (req.entries.zipIdx.map Prod.snd).Nodup := by
 rw [zipIdx_map_snd]
 exact nodup_range'

lemma update_applied_ne_rolledBack (hst:Forwards st) (i:ℕ) :
  ∀j,Function.update st i .applied j≠.rolledBack := by
 intro j
 by_cases hj : j=i
 · simp [hj]
 · rw [update_of_ne hj]
   exact hst j

lemma RolledOk.of_forward (hst:Forwards st) : RolledOk req start v st :=
 fun x _ hx=>absurd hx (hst x.2)

lemma RolledOk.working (hclear:Clear req start) {u:Tree}
  (h:RolledOk req start v st) (hx:x∈req.entries.zipIdx) (hst:st x.2≠.rolledBack)
  (hu:Working req start x.1 v u) : RolledOk req start u st := by
 intro y hy hroll
 rw [hu.others y.1 (fst_mem_of_mem_zipIdx hy) fun heq=>?_]
 · exact h y hy hroll
 · rw [index_unique hclear hy hx heq] at hroll
   exact hst hroll

lemma RolledOk.rolled (hclear:Clear req start) {u:Tree}
  (h:RolledOk req start v st) (hx:x∈req.entries.zipIdx)
  (hu:Working req start x.1 v u) (hbefore:content u (dest req x.1)=before req start x.1) :
  RolledOk req start u (Function.update st x.2 .rolledBack) := by
 intro y hy hroll
 by_cases hindex : y.2=x.2
 · rwa [entry_unique hy hx hindex]
 · rw [update_of_ne hindex] at hroll
   have hne:y.1≠x.1:=fun heq=>hindex (index_unique hclear hy hx heq)
   rw [hu.others y.1 (fst_mem_of_mem_zipIdx hy) hne]
   exact h y hy hroll

lemma AllBefore.rolledOk (h:AllBefore req start v) : RolledOk req start v st :=
 fun x hx _=>h x.1 (fst_mem_of_mem_zipIdx hx)

end Rows

end EpistemicCompiler.PromotionPlan
