import EpistemicCompiler.PromotionReads

set_option autoImplicit false

/-!
# Reasoning about promotions

Recovery depends on the shape of the files and the rows of the store. `Meets` specifies a program by
these alone: identities, security descriptors and the number of operations done may be anything, and
any operation may fail where the failure pattern allows it.
-/
namespace EpistemicCompiler.PromotionRules
open StepPrograms StepPrograms.StepProgram SharedPrograms PromotionWorld PromotionFiles
 PromotionJournal PromotionReads List Except

variable {root:RootDir} {bytes:Bytes} {replace:Bool}

section

inductive Shape where
 | directory
 | file (bytes:Bytes)
 deriving DecidableEq

variable (w:World)

def shape : Node → Shape
 | .directory => .directory
 | .file node => .file node.bytes

abbrev Tree := Location → Option Shape

variable (v:Tree)

def Tree.set (loc:Location) (x:Option Shape) : Tree :=
 fun l=>if l=loc then x else v l

def view : Tree := fun loc=>(w.files loc).map shape

def bytesOf : Option Shape → Option Bytes
 | some (.file bytes) => some bytes
 | some .directory | none => none

def content (loc:Location) : Option Bytes := bytesOf (v loc)

@[simp] lemma Tree.set_same (loc:Location) (x:Option Shape) : v.set loc x loc=x := by
  simp [Tree.set]

variable {loc l:Location}

lemma Tree.set_other (x:Option Shape) (h:l≠loc) : v.set loc x l=v l := by
 simp [Tree.set,h]

lemma Tree.set_directory (x:Option Shape) (hloc:v loc≠some .directory)
  (hl:v l=some .directory) : v.set loc x l=some .directory := by
 have hne:l≠loc := by
  rintro rfl
  exact hloc hl
 rwa [Tree.set_other _ _ hne]

lemma Tree.set_ne_directory (loc:Location) {x:Option Shape} (hx:x≠some .directory)
  (hl:v l≠some .directory) : v.set loc x l≠some .directory := by
 by_cases heq : l=loc
 · rw [heq,Tree.set_same]
   exact hx
 · rwa [Tree.set_other _ _ heq]

lemma Tree.set_eq (loc:Location) (x:Option Shape) : v.set loc x=Function.update v loc x := by
 funext l
 rw [Tree.set,Function.update_apply]

lemma Tree.set_self (loc:Location) : v.set loc (v loc)=v := by
 rw [Tree.set_eq,Function.update_eq_self]

lemma content_set_other (x:Option Shape) (h:l≠loc) :
  content (v.set loc x) l=content v l := by
 simp [content,v.set_other x h]

lemma content_set_same (loc:Location) (x:Option Shape) :
  content (v.set loc x) loc=bytesOf x := by
 simp [content]

lemma content_eq_some {v:Tree} : content v loc=some bytes ↔ v loc=some (.file bytes) := by
 unfold content
 rcases v loc with _ | _ | _ <;> simp [bytesOf]

lemma view_setNode (loc:Location) (node:Option Node) :
  view (w.setNode loc node)=(view w).set loc (node.map shape) := by
 funext l
 by_cases h : l=loc <;> simp [view,World.setNode,Tree.set,h]

@[simp] lemma view_tock : view w.tock=view w := rfl

@[simp] lemma view_spendIdentity : view w.spendIdentity=view w := rfl

lemma view_eq_none {w:World} : view w loc=none ↔ w.files loc=none := by
 simp [view]

lemma view_eq_directory {w:World} :
  view w loc=some .directory ↔ w.files loc=some .directory := by
 unfold view
 cases h : w.files loc with
 | none => simp
 | some node => cases node <;> simp [shape]

lemma content_view (loc:Location) : content (view w) loc=w.content loc := by
 unfold content World.content view
 rcases w.files loc with _ | _ | _ <;> rfl

end

variable (I:Tree → Prop)

section

abbrev Guard := Tree → Store → Prop

abbrev Post (α:Type) := Except PromotionError α → Guard

variable {α β:Type}

/-- From every world with this view and this store, the program keeps `P` and ends in `Q`. -/
def Meets (P:Tree → Store → Prop) (Q:Except PromotionError α → Tree → Store → Prop)
    (p:Promotion α) (v:Tree) (s:Store) : Prop :=
 ∀w : World,view w=v → w.store=s →
   Safe (fun t=>P (view t) t.store) (fun r t=>Q r (view t) t.store) p w

variable {P P':Guard} {Q Q':Post α}
 {p:Promotion α} {v:Tree} {s:Store}

def Next (P:Tree → Store → Prop) (Q:Except PromotionError β → Tree → Store → Prop)
    (f:α → Promotion β) : Except PromotionError α → Tree → Store → Prop
 | .ok a, v, s => Meets P Q (f a) v s
 | .error e, v, s => Q (.error e) v s

lemma Meets.bind {Q:Post β} {f:α → Promotion β}
  (h:Meets P (Next P Q f) p v s) : Meets P Q (p >>= f) v s := by
 intro w hv hs
 refine .bind ((h w hv hs).post fun r t hr=>?_)
 cases r with
 | ok a => exact hr t rfl rfl
 | error e => exact hr

lemma Meets.mono (h:Meets P Q p v s) (hP:∀v s,P v s → P' v s)
  (hQ:∀r v s,Q r v s → Q' r v s) : Meets P' Q' p v s :=
 fun w hv hs=>(h w hv hs).mono (fun _ ht=>hP _ _ ht) fun _ _ hr=>hQ _ _ _ hr

lemma Meets.post (h:Meets P Q p v s) (hQ:∀r v s,Q r v s → Q' r v s) : Meets P Q' p v s :=
 h.mono (fun _ _ hP=>hP) hQ

lemma Meets.pure {a:α} (h:Q (.ok a) v s) : Meets P Q (Pure.pure a) v s := by
 rintro w rfl rfl
 exact h

lemma Meets.throw {e:PromotionError} (h:Q (.error e) v s) :
  Meets P Q (StepProgram.throw e) v s := by
 rintro w rfl rfl
 exact h

lemma Meets.attempt {Q:Post (Except PromotionError α)}
  (h:Meets P (fun r v s=>Q (.ok r) v s) p v s) : Meets P Q p.attempt v s :=
 fun w hv hs=>.attempt (h w hv hs)

lemma Meets.mapError {f:PromotionError → PromotionError}
  (h:Meets P (fun r v s=>Q (r.mapError f) v s) p v s) :
  Meets P Q (PromotionGrant.mapError f p) v s := by
 refine .bind (.attempt (h.post fun r v s hr=>?_))
 cases r with
 | ok a => exact .pure hr
 | error e => exact .throw hr

end

variable {α:Type} {env:Env} {P:Guard} {v:Tree} {s:Store} {site:Site} {loc:Location}
 {Q:Post Unit}

abbrev Probes (env:Env) : Prop := ∀n,env.faults .exists n=false

def Faulty (env:Env) (site:Site) : Prop := ∃n,env.faults site n=true

lemma meets_fallible {Q:Post α} {op:World → Except PromotionError (α×World)} (hP:P v s)
  (hfault:Faulty env site → Q (.error .io) v s)
  (hop:∀w,view w=v → w.store=s → match op w with
   | .ok (a,w') => P (view w') w'.store ∧ Q (.ok a) (view w') w'.store
   | .error e => Q (.error e) v s) : Meets P Q (fallible env site op) v s := by
 rintro w rfl rfl
 specialize hop w rfl rfl
 by_cases hf : env.faults site w.tick=true
 · refine .atomic ?_ ?_
   · simpa [hf] using hP
   · simpa [hf] using hfault ⟨_,hf⟩
 · cases hresult : op w with
   | ok r =>
     rw [hresult] at hop
     refine .atomic ?_ ?_
     · simpa [hf,hresult] using hop.1
     · simpa [hf,hresult] using hop.2
   | error e =>
     refine .atomic ?_ ?_
     · simpa [hf,hresult] using hP
     · simpa [hf,hresult] using hop

lemma meets_pathExists {Q:Post Bool} (hprobe:Probes env) (hP:P v s)
  (hQ:Q (.ok (v loc).isSome) v s) : Meets P Q (pathExists env loc) v s := by
 rintro w rfl rfl
 refine .atomic hP ?_
 have hsome:(view w loc).isSome=(w.files loc).isSome := by simp [view]
 simpa [hprobe,← hsome] using hQ

lemma meets_fileOp {Q:Post α} {op:World → FileNode → Except PromotionError (α×World)}
  (hP:P v s) (hfault:Faulty env site → Q (.error .io) v s)
  (hother:(∀bytes,v loc≠some (.file bytes)) → Q (.error (.replace .io)) v s)
  (hfile:∀w node,view w=v → w.store=s → v loc=some (.file node.bytes) →
   match op w node with
   | .ok (a,w') => P (view w') w'.store ∧ Q (.ok a) (view w') w'.store
   | .error e => Q (.error e) v s) :
  Meets P Q (fallible env site fun w=>match w.files loc with
   | some (.file node) => op w node
   | _ => .error (.replace .io)) v s := by
 refine meets_fallible hP hfault ?_
 rintro w rfl rfl
 cases hnode : w.files loc with
 | none => exact hother fun bytes hbytes=>by simp [view,hnode] at hbytes
 | some node =>
   cases node with
   | directory => exact hother fun bytes hbytes=>by simp [view,hnode,shape] at hbytes
   | file node => exact hfile w node rfl rfl (by simp [view,hnode,shape])

lemma meets_readBytes {Q:Post Bytes}
  (hP:P v s) (hfault:Faulty env site → Q (.error .io) v s)
  (hfile:∀bytes,v loc=some (.file bytes) → Q (.ok bytes) v s)
  (hother:(∀bytes,v loc≠some (.file bytes)) → Q (.error (.replace .io)) v s) :
  Meets P Q (readBytes env site loc) v s := by
 refine meets_fileOp hP hfault hother ?_
 rintro w node rfl rfl hnode
 exact ⟨hP,hfile _ hnode⟩

def Movable (v:Tree) (dest:Location) (replace:Bool) : Prop :=
 v dest.parent=some .directory ∧
   (v dest=none ∨ replace=true ∧ ∃bytes,v dest=some (.file bytes))

lemma movable_iff {w:World} {dest:Location} :
  movable w dest replace=true ↔ Movable (view w) dest replace := by
 unfold movable Movable
 rw [Bool.and_eq_true,decide_eq_true_eq,view_eq_directory]
 refine and_congr_right fun _=>?_
 cases hnode : w.files dest with
 | none => simp [view,hnode]
 | some node => cases node <;> simp [view,hnode,shape]

def Tree.move (v:Tree) (source dest:Location) (bytes:Bytes) : Tree :=
 (v.set source none).set dest (some (.file bytes))

lemma move_parent {source dest:Location} (hsrc:v source=some (.file bytes))
  (hmovable:Movable v dest replace) : v.move source dest bytes dest.parent=some .directory := by
 obtain ⟨hparent,hdest⟩:=hmovable
 have hne:dest.parent≠dest := by
  intro h
  rw [h] at hparent
  rcases hdest with hdest | ⟨-,b,hdest⟩ <;> simp [hparent] at hdest
 have hne':dest.parent≠source := by
  intro h
  rw [h,hsrc] at hparent
  simp at hparent
 rw [Tree.move,Tree.set_other _ _ hne,Tree.set_other _ _ hne',hparent]

lemma meets_updateFile {f:FileNode → FileNode} {g:Bytes → Bytes}
  (hf:∀node,(f node).bytes=g node.bytes) (hP:P v s)
  (hfault:Faulty env site → Q (.error .io) v s)
  (hother:(∀bytes,v loc≠some (.file bytes)) → Q (.error (.replace .io)) v s)
  (hfile:∀bytes,v loc=some (.file bytes) →
   P (v.set loc (some (.file (g bytes)))) s ∧
     Q (.ok ()) (v.set loc (some (.file (g bytes)))) s) :
  Meets P Q (updateFile env site loc f) v s := by
 refine meets_fileOp hP hfault hother ?_
 rintro w node rfl rfl hloc
 have hview:view (w.setNode loc (some (.file (f node)))) =
   (view w).set loc (some (.file (g node.bytes))) := by
  rw [view_setNode,← hf]
  rfl
 have hwrite:=hfile node.bytes hloc
 rwa [← hview] at hwrite

section

variable (hP:P v s) (hfault:Faulty env site → Q (.error .io) v s)
include hP hfault

lemma meets_fsyncPath (hok:v loc≠none → Q (.ok ()) v s)
  (hmiss:v loc=none → Q (.error (.replace .io)) v s) :
  Meets P Q (fsyncPath env site loc) v s := by
 refine meets_fallible hP hfault ?_
 rintro w rfl rfl
 cases hnode : w.files loc with
 | none => exact hmiss (view_eq_none.mpr hnode)
 | some node => exact ⟨hP,hok fun h=>by simp [view_eq_none,hnode] at h⟩

lemma meets_fsyncDirectory (hok:v loc=some .directory → Q (.ok ()) v s)
  (hother:v loc≠some .directory → Q (.error (.replace .io)) v s) :
  Meets P Q (fsyncDirectory env site loc) v s := by
 refine meets_fallible hP hfault ?_
 rintro w rfl rfl
 by_cases hdir : w.files loc=some .directory
 · simp only [hdir,if_true]
   exact ⟨hP,hok (view_eq_directory.mpr hdir)⟩
 · simp only [hdir,if_false]
   exact hother fun h=>hdir (view_eq_directory.mp h)

lemma meets_fsyncParent (hparent:v loc.parent=some .directory) (hok:Q (.ok ()) v s) :
  Meets P Q (fsyncParent env site loc) v s := by
 unfold fsyncParent
 split
 · exact .pure hok
 · exact meets_fsyncDirectory hP hfault (fun _=>hok) fun h=>absurd hparent h

lemma meets_createFile
  (hrefused:v loc.parent≠some .directory ∨ v loc=some .directory →
   Q (.error (.replace .io)) v s)
  (hcreated:v loc.parent=some .directory → v loc≠some .directory →
   P (v.set loc (some (.file []))) s ∧ Q (.ok ()) (v.set loc (some (.file []))) s) :
  Meets P Q (createFile env site loc) v s := by
 refine meets_fallible hP hfault ?_
 rintro w rfl rfl
 by_cases hparent : w.files loc.parent=some .directory
 · have hparent':=view_eq_directory.mpr hparent
   simp only [ne_eq,hparent,not_true_eq_false,if_false]
   cases hnode : w.files loc with
   | none =>
     simp only [view_spendIdentity,view_setNode,spendIdentity_store,setNode_store]
     exact hcreated hparent' (view_eq_directory.not.mpr (by simp [hnode]))
   | some node =>
     cases node with
     | directory => exact hrefused (.inr (view_eq_directory.mpr hnode))
     | file node =>
       simp only [view_setNode,setNode_store]
       exact hcreated hparent' (view_eq_directory.not.mpr (by simp [hnode]))
 · simp only [ne_eq,hparent,not_false_eq_true,if_true]
   exact hrefused (.inl fun h=>hparent (view_eq_directory.mp h))

lemma meets_moveEx {source dest:Location}
  (hrefused:(∀bytes,v source=some (.file bytes) → ¬ Movable v dest replace) →
   Q (.error (.replace .io)) v s)
  (hmoved:∀bytes,v source=some (.file bytes) → Movable v dest replace →
   P (v.move source dest bytes) s ∧ Q (.ok ()) (v.move source dest bytes) s ∧
     (Faulty env site → Q (.error .io) (v.move source dest bytes) s)) :
  Meets P Q (moveEx env site source dest replace) v s := by
 refine .bind (meets_fileOp hP hfault (fun h=>hrefused fun b hb=>absurd hb (h b)) ?_)
 rintro w node rfl rfl hsrc
 by_cases hm : movable w dest replace=true
 · have hmovable:=movable_iff.mp hm
   obtain ⟨hP',hok,hfault'⟩:=hmoved node.bytes hsrc hmovable
   have hview:view ((w.setNode source none).setNode dest (some (.file node))) =
     (view w).move source dest node.bytes := by
    rw [view_setNode,view_setNode]
    rfl
   simp only [hm,if_true,hview]
   refine ⟨hP',.bind (meets_fsyncPath hP' hfault' (fun _=>?_) fun h=>?_)⟩
   · exact meets_fsyncParent hP' hfault' (move_parent hsrc hmovable) hok
   · simp [Tree.move] at h
 · simp only [hm]
   refine hrefused fun bytes hbytes=>?_
   exact fun h=>hm (movable_iff.mpr h)

lemma meets_deletePath (hparent:v loc.parent=some .directory)
  (hrefused:(∀bytes,v loc≠some (.file bytes)) → Q (.error (.replace .io)) v s)
  (hdelete:∀bytes,v loc=some (.file bytes) → P (v.set loc none) s ∧
   Q (.ok ()) (v.set loc none) s ∧ (Faulty env site → Q (.error .io) (v.set loc none) s)) :
  Meets P Q (deletePath env site loc) v s := by
 refine .bind (meets_fileOp hP hfault hrefused ?_)
 rintro w node rfl rfl hloc
 obtain ⟨hP',hok,hfault'⟩:=hdelete node.bytes hloc
 have hview:view (w.setNode loc none)=(view w).set loc none:=view_setNode w loc none
 have hne:loc.parent≠loc := by
  intro h
  rw [h,hloc] at hparent
  simp at hparent
 simp only [hview]
 refine ⟨hP',meets_fsyncParent hP' hfault' ?_ hok⟩
 rw [Tree.set_other _ _ hne,hparent]

lemma meets_writeAll {old:Bytes} (hold:v loc=some (.file old))
  (hwrite:P (v.set loc (some (.file bytes))) s ∧
   Q (.ok ()) (v.set loc (some (.file bytes))) s) : Meets P Q (writeAll env site loc bytes) v s :=
 meets_updateFile (g := fun _=>bytes) (fun _=>rfl) hP hfault (fun h=>absurd hold (h old))
  fun _ _=>hwrite

lemma meets_applyCapturedMetadata {captured:CapturedMetadata}
  (hother:(∀bytes,v loc≠some (.file bytes)) → Q (.error (.replace .io)) v s)
  (hfile:∀bytes,v loc=some (.file bytes) → Q (.ok ()) v s) :
  Meets P Q (applyCapturedMetadata env site loc captured) v s := by
 refine .bind (meets_updateFile (g := id) (fun _=>rfl) hP hfault hother fun bytes hv=>?_)
 rw [id_eq,← hv,Tree.set_self]
 refine ⟨hP,meets_updateFile (g := id) (fun _=>rfl) hP hfault hother fun bytes' hv'=>?_⟩
 rw [id_eq,← hv',Tree.set_self]
 exact ⟨hP,hfile bytes' hv'⟩

end

lemma meets_snapshot {Q:Post Digest} {workspaceId:String} (hP:P v s)
  (hroot:v ⟨root,[]⟩=some .directory) (hfault:Faulty env .snapshot → Q (.error .io) v s)
  (hok:∀tree : Path → Option Node,(∀path,(tree path).map shape=v ⟨root,path⟩) →
   Q (.ok (env.snapshotRootDigest tree workspaceId)) v s) :
  Meets P Q (workspaceSnapshotRoot env root workspaceId) v s := by
 refine meets_fallible hP hfault ?_
 rintro w rfl rfl
 simp only [view_eq_directory.mp hroot,if_true]
 exact ⟨hP,hok _ fun _=>rfl⟩

def FileError (e:PromotionError) : Prop := e=.io ∨ e=.replace .io

lemma meets_createDir (hdir:v loc=none → (loc.path=[] ∨ v loc.parent=some .directory) →
   I (v.set loc (some .directory))) (hP:∀u,I u → P u s) (hI:I v)
  (hok:∀u,I u → u loc=some .directory → Q (.ok ()) u s)
  (herror:∀e,FileError e → Q (.error e) v s) : Meets P Q (createDir env site loc) v s := by
 refine meets_fallible (hP v hI) (fun _=>herror _ (.inl rfl)) ?_
 rintro w rfl rfl
 by_cases hfree : w.files loc=none ∧ (loc.path=[] ∨ w.files loc.parent=some .directory)
 · simp only [hfree,and_self,if_true,view_setNode,setNode_store]
   have hI':=hdir (view_eq_none.mpr hfree.1) (hfree.2.imp_right view_eq_directory.mpr)
   exact ⟨hP _ hI',hok _ hI' (Tree.set_same _ _ _)⟩
 · simp only [hfree,if_false]
   exact herror _ (.inr rfl)

lemma meets_lookNode {Q:Post (Option Node)} (hP:P v s)
  (hfault:Faulty env site → Q (.error .io) v s)
  (hok:∀node : Option Node,node.map shape=v loc → Q (.ok node) v s) :
  Meets P Q (lookNode env site loc) v s := by
 refine meets_fallible hP hfault ?_
 rintro w rfl rfl
 exact ⟨hP,hok _ rfl⟩

lemma meets_lookDirectory {missing:Promotion Unit} (hP:P v s)
  (hfault:Faulty env site → Q (.error .io) v s) (hmiss:v loc=none → Meets P Q missing v s)
  (hdirectory:v loc=some .directory → Q (.ok ()) v s)
  (hfile:∀bytes,v loc=some (.file bytes) → Q (.error (.replace .io)) v s) :
  Meets P Q (do
   match ← lookNode env site loc with
   | some .directory => pure ()
   | some (.file _) => throw (.replace .io)
   | none => missing) v s := by
 refine .bind (meets_lookNode hP hfault fun node hnode=>?_)
 rcases node with _ | _ | node
 · exact hmiss hnode.symm
 · exact .pure (hdirectory hnode.symm)
 · exact .throw (hfile _ hnode.symm)

lemma meets_createDirAll {path:Path} (hdir:∀u q,I u → q <:+ path → u ⟨root,q⟩=none →
   (q=[] ∨ u ⟨root,q.tail⟩=some .directory) → I (u.set ⟨root,q⟩ (some .directory)))
  (hP:∀u,I u → P u s) (hI:I v)
  (hok:∀u,I u → u ⟨root,path⟩=some .directory → Q (.ok ()) u s)
  (herror:∀u e,I u → FileError e → Q (.error e) u s) :
  Meets P Q (createDirAll env site root path) v s := by
 induction path generalizing v Q with
 | nil =>
   refine meets_lookDirectory (hP v hI) (fun _=>herror v _ hI (.inl rfl)) (fun _=>?_) (hok v hI)
    fun _ _=>herror v _ hI (.inr rfl)
   exact meets_createDir I (hdir v [] hI (suffix_refl _)) hP hI hok (herror v · hI)
 | cons name parent ih =>
   refine meets_lookDirectory (hP v hI) (fun _=>herror v _ hI (.inl rfl)) (fun _=>?_) (hok v hI)
    fun _ _=>herror v _ hI (.inr rfl)
   refine .bind (ih (fun u q hu hq=>?_) hI (fun u hu _=>?_) herror)
   · exact hdir u q hu (hq.trans (suffix_cons name parent))
   · exact meets_createDir I (hdir u _ hu (suffix_refl _)) hP hu hok (herror u · hu)

lemma meets_writeStagingFile_keeps
  (hdir:∀u q,I u → q <:+ loc.path.tail → u ⟨loc.root,q⟩=none →
   (q=[] ∨ u ⟨loc.root,q.tail⟩=some .directory) →
   I (u.set ⟨loc.root,q⟩ (some .directory)))
  (hfile:∀u b,I u → u loc.parent=some .directory → u loc≠some .directory →
   I (u.set loc (some (.file b)))) (hP:∀u,I u → P u s) (hI:I v)
  (hok:∀u,I u → u loc=some (.file bytes) → Q (.ok ()) u s)
  (herror:∀u e,I u → FileError e → Q (.error e) u s) :
  Meets P Q (writeStagingFile env site loc bytes) v s := by
 refine Meets.bind (meets_createDirAll I hdir hP hI (fun u hu _=>?_) herror)
 have hio:∀u,I u → Faulty env site → Q (.error .io) u s :=
  fun u hu _=>herror u _ hu (.inl rfl)
 refine .bind (meets_createFile (hP u hu) (hio u hu) (fun _=>herror u _ hu (.inr rfl))
  fun hparent hu'=>?_)
 have hempty:=hfile u [] hu hparent hu'
 have hne:loc.parent≠loc := by
  intro h
  rw [h] at hparent
  exact hu' hparent
 refine ⟨hP _ hempty,Meets.bind (meets_writeAll (hP _ hempty) (hio _ hempty)
  (Tree.set_same _ _ _) ?_)⟩
 have hfull:I ((u.set loc (some (.file []))).set loc (some (.file bytes))) :=
  hfile _ bytes hempty (by rwa [Tree.set_other _ _ hne]) (by simp)
 refine ⟨hP _ hfull,meets_fsyncPath (hP _ hfull) (hio _ hfull) (fun _=>?_) fun h=>?_⟩
 · exact hok _ hfull (Tree.set_same _ _ _)
 · simp at h

lemma Tree.set_set (v:Tree) (loc:Location) (x y:Option Shape) :
  (v.set loc x).set loc y=v.set loc y := by
 simp only [Tree.set_eq,Function.update_idem]

lemma meets_createDirAll_present {path:Path} (hpresent:v ⟨root,path⟩=some .directory)
  (hP:P v s) (hfault:Faulty env site → Q (.error .io) v s) (hok:Q (.ok ()) v s) :
  Meets P Q (createDirAll env site root path) v s := by
 cases path <;>
  exact meets_lookDirectory hP hfault (by simp [hpresent]) (fun _=>hok) (by simp [hpresent])

lemma meets_writeStagingFile (hparent:v loc.parent=some .directory)
  (hloc:v loc≠some .directory) (hP:P v s) (hfile:∀b,P (v.set loc (some (.file b))) s)
  (hok:Q (.ok ()) (v.set loc (some (.file bytes))) s)
  (hfault:Faulty env site → Q (.error .io) v s)
  (hfault':Faulty env site → ∀b,Q (.error .io) (v.set loc (some (.file b))) s) :
  Meets P Q (writeStagingFile env site loc bytes) v s := by
 refine .bind (meets_createDirAll_present hparent hP hfault ?_)
 refine .bind (meets_createFile hP hfault (fun h=>?_) fun _ _=>⟨hfile [],?_⟩)
 · exact h.elim (absurd hparent) (absurd · hloc)
 · refine Meets.bind (meets_writeAll (hfile []) (fun hf=>hfault' hf []) (Tree.set_same _ _ _) ?_)
   rw [Tree.set_set]
   refine ⟨hfile bytes,meets_fsyncPath (hfile bytes) (fun hf=>hfault' hf bytes)
    (fun _=>hok) fun h=>?_⟩
   simp at h

lemma meets_atomic {Q:Post α} {f:World → Except PromotionError α×World}
  (h:∀w,view w=v → w.store=s → view (f w).2=v ∧ P v (f w).2.store ∧
   Q (f w).1 v (f w).2.store) : Meets P Q (atomic f) v s := by
 rintro w rfl rfl
 obtain ⟨hview,hP,hQ⟩:=h w rfl rfl
 refine .atomic ?_ ?_
 · rwa [hview]
 · rwa [hview]

lemma meets_updateStore {f:Store → Store} (h:P v (f s) ∧ Q (.ok ()) v (f s)) :
  Meets P Q (updateStore f) v s := by
 rintro w rfl rfl
 exact .write h.1 h.2

lemma meets_readStore {Q:Post α} {f:Store → α} (hP:P v s) (hQ:Q (.ok (f s)) v s) :
  Meets P Q (read fun w=>f w.store) v s := by
 rintro w rfl rfl
 exact .read hP hQ

lemma meets_getCasObject {Q:Post Bytes} {digest:Digest} (hP:P v s)
  (hcas:s.cas digest=some bytes) (hQ:Q (.ok bytes) v s) :
  Meets P Q (getCasObject digest) v s := by
 rintro w rfl rfl
 refine .atomic ?_ ?_
 · simpa only [hcas] using hP
 · simpa only [hcas] using hQ

lemma meets_putCasObject {Q:Post Digest}
  (h:P v (Store.putObject s (env.contentDigest bytes) bytes) ∧
   Q (.ok (env.contentDigest bytes)) v (Store.putObject s (env.contentDigest bytes) bytes)) :
  Meets P Q (putCasObject env bytes) v s := by
 rintro w rfl rfl
 exact .atomic h.1 h.2

section

variable {req:PromotionGrant.ApplyRequest}

def Spent (s s':Store) : Prop :=
 s'={ s with sessions:=s'.sessions, consumedGrants:=s'.consumedGrants }

structure Consumable (env:Env) (s:Store) (claims:PromotionGrant.GrantClaims) : Prop where
 nonce : s.sessions (env.nonceHash claims.nonce)=some .created ∨
  s.sessions (env.nonceHash claims.nonce)=some .displayed
 grant : claims.grantDigest ∉ s.consumedGrants

lemma meets_consumeSessionNonce {nonce:String} {decision:Digest} (hP:P v s)
  (herror:∀e,Q (.error e) v s)
  (hok:s.sessions (env.nonceHash nonce)=some .created ∨
    s.sessions (env.nonceHash nonce)=some .displayed →
   P v (Store.decideSession s (env.nonceHash nonce) decision) ∧
     Q (.ok ()) v (Store.decideSession s (env.nonceHash nonce) decision)) :
  Meets P Q (consumeSessionNonce env nonce decision) v s := by
 refine meets_atomic ?_
 rintro w rfl rfl
 cases hsession : w.store.sessions (env.nonceHash nonce) with
 | none => exact ⟨rfl,hP,herror _⟩
 | some session =>
   cases session with
   | created => exact ⟨rfl,hok (.inl hsession)⟩
   | displayed => exact ⟨rfl,hok (.inr hsession)⟩
   | decided | expired => exact ⟨rfl,hP,herror _⟩

lemma meets_consumeGrant {grant:Digest} (hP:P v s) (herror:∀e,Q (.error e) v s)
  (hok:grant ∉ s.consumedGrants → ∀s',Spent s s' → P v s' ∧ Q (.ok ()) v s') :
  Meets P Q (consumeGrant grant) v s := by
 refine meets_atomic ?_
 rintro w rfl rfl
 by_cases hused : grant∈w.store.consumedGrants
 · simp only [hused,if_true]
   exact ⟨trivial,hP,herror _⟩
 · simp only [hused,if_false]
   exact ⟨rfl,hok hused _ rfl⟩

lemma meets_verifyGrant {Q:Post Digest} (hP:∀s',Spent s s' → P v s')
  (hok:∀claims s',PromotionGrant.checkGrant env req=.ok claims →
   Consumable env s claims → Spent s s' → Q (.ok claims.grantDigest) v s')
  (herror:∀e s',Spent s s' → Q (.error e) v s') :
  Meets P Q (PromotionGrant.verifyGrant env req) v s := by
 unfold PromotionGrant.verifyGrant
 cases hclaims : PromotionGrant.checkGrant env req with
 | error e => exact .throw (herror e s rfl)
 | ok claims =>
   refine .bind (.mapError (meets_consumeSessionNonce (hP s rfl)
    (fun e=>herror _ s rfl) fun hnonce=>?_))
   have hspent:Spent s (Store.decideSession s (env.nonceHash claims.nonce)
    claims.decisionDigest) := rfl
   refine ⟨hP _ hspent,.bind (.mapError (meets_consumeGrant (hP _ hspent)
    (fun e=>herror _ _ hspent) fun hgrant s' hs'=>?_))⟩
   have hspent':Spent s s' := by
    rw [Spent,hs']
    rfl
   exact ⟨hP _ hspent',.pure (hok claims s' hclaims ⟨hnonce,hgrant⟩ hspent')⟩

end

section

/-- A program that changes neither a file nor a row, with what its results can be. -/
def Reads (R:Tree → Store → Except PromotionError α → Prop) (p:Promotion α) : Prop :=
 ∀v s,Meets (fun v' s'=>v'=v ∧ s'=s) (fun r v' s'=>(v'=v ∧ s'=s) ∧ R v s r) p v s

abbrev ReadOnly (p:Promotion α) : Prop := Reads (fun _ _ _=>True) p

abbrev Observes (p:Promotion α) : Prop := Reads (fun _ _ r=>∃a,r=.ok a) p

variable {p:Promotion α} {R:Tree → Store → Except PromotionError α → Prop} {Q:Post α}

lemma Reads.meets (h:Reads R p) (hP:P v s) (hQ:∀r,R v s r → Q r v s) :
  Meets P Q p v s := by
 refine (h v s).mono ?_ ?_
 · rintro v' s' ⟨rfl,rfl⟩
   exact hP
 · rintro r v' s' ⟨⟨rfl,rfl⟩,hr⟩
   exact hQ r hr

lemma reads_of_reading {total:Bool} (h:Reading total p)
  (hR:∀r,(total=true → ∃a,r=.ok a) → ∀v s,R v s r) : Reads R p := by
 rintro v s w rfl rfl
 have hsame:∀t : World,(t.files,t.store)=(w.files,w.store) →
   view t=view w ∧ t.store=w.store := by
  intro t ht
  obtain ⟨hfiles,hstore⟩:=Prod.mk.inj ht
  exact ⟨by unfold view; rw [hfiles],hstore⟩
 exact (h.safe rfl).mono hsame fun r t ht=>⟨hsame t ht.1,hR r ht.2 _ _⟩

lemma meets_reading (h:Reading false p) (hP:P v s) (hQ:∀r,Q r v s) :
  Meets P Q p v s := by
 have hreads:ReadOnly p:=reads_of_reading h fun _ _ _ _=>trivial
 exact hreads.meets hP fun r _=>hQ r

lemma meets_observing (h:Reading true p) (hP:P v s) (hQ:∀a,Q (.ok a) v s) :
  Meets P Q p v s := by
 have hobserves:Observes p:=reads_of_reading h fun _ hr _ _=>hr rfl
 refine hobserves.meets hP ?_
 rintro r ⟨a,rfl⟩
 exact hQ a

lemma meets_currentDigest {Q:Post (Option Digest)}
  (hprobe:Probes env) (hP:P v s)
  (hloc:v loc≠some .directory) (hfault:Faulty env site → Q (.error .io) v s)
  (hok:Q (.ok ((content v loc).map env.contentDigest)) v s) :
  Meets P Q (currentDigest env site loc) v s := by
 refine .bind (meets_pathExists hprobe hP ?_)
 cases hshape : v loc with
 | none =>
   rw [content,hshape] at hok
   exact .pure hok
 | some x =>
   refine .bind (meets_readBytes hP hfault (fun bytes hbytes=>?_) fun hother=>?_)
   · rw [content,hbytes] at hok
     exact .pure hok
   · cases x with
     | directory => exact absurd hshape hloc
     | file bytes => exact absurd hshape (hother bytes)

end

end EpistemicCompiler.PromotionRules
