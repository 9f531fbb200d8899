import EpistemicCompiler.PromotionReconciliation

set_option autoImplicit false

/-!
# Staging a promotion

While `prepare_entries` runs, no entry changes. When it succeeds, the rows describe the plan, the
objects for both directions are kept, and the new content of every entry waits in its own file.
-/
namespace EpistemicCompiler.PromotionStaging
open StepPrograms PromotionWorld PromotionFiles PromotionJournal PromotionGrant PromotionApply
open List hiding after
open Option
 PromotionReads PromotionRules PromotionPlan

variable (digest:Bytes → Digest) (req:ApplyRequest) (start:World)

abbrev stage : Location := ⟨.staging req.workspaceRoot req.workspaceId,[]⟩

def source (x:PromotionEntry×ℕ) : Location :=
 if x.1.kind=.create then inParentCreateTemp (dest req x.1) else stagedFile (stage req) x.2

structure StagingTree (done:List (PromotionEntry×ℕ)) (v:Tree) : Prop where
 root : v ⟨req.root,[]⟩=some .directory
 closed : ∀name path,v ⟨req.root,name::path⟩≠none → v ⟨req.root,path⟩=some .directory
 contents : AllBefore req start v
 unchanged : (∀e∈req.entries,e.kind≠.create) →
  ∀path,v ⟨req.root,path⟩=view start ⟨req.root,path⟩
 rollbackTempFile : ∀e∈req.entries,e.kind≠.create →
  v (rollbackTemp (dest req e))≠some .directory
 file : ∀x∈done,v (dest req x.1)≠some .directory
 staged : ∀x∈done,∀b,after x.1=some b → v (source req x)=some (.file b)

def Kept (s:Store) (o:Option Bytes) : Prop := ∀b,o=some b → s.cas (digest b)=some b

structure StagingStore (done:List (PromotionEntry×ℕ)) (s:Store) : Prop where
 ledger : Ledger req start s .preparing (held start)
 rows : s.entries start.store.nextJournal=planRows digest req start (fun _=>.staged) done
 accepted : ∀x∈done,Accepted req start x.1
 beforeKept : ∀x∈done,Kept digest s (before req start x.1)
 afterKept : ∀x∈done,Kept digest s (after x.1)

abbrev Stocked (env:Env) := StagingStore env.contentDigest req start

variable {req:ApplyRequest} {start:World} {done:List (PromotionEntry×ℕ)} {v:Tree}
 {x:PromotionEntry×ℕ} {s:Store}

section Trees

variable {u:Tree} {e:PromotionEntry} {y:PromotionEntry×ℕ}

lemma inParentCreateTemp_injective {a b:Location} (ha:a.path≠[]) (hb:b.path≠[])
  (h:inParentCreateTemp a=inParentCreateTemp b) : a=b := by
 obtain ⟨root,_ | ⟨name,parent⟩⟩:=a
 · exact absurd rfl ha
 · obtain ⟨root',_ | ⟨name',parent'⟩⟩:=b
   · exact absurd rfl hb
   · simp only [inParentCreateTemp,Location.mk.injEq,List.cons.injEq,String.append_left_inj,
      String.append_right_inj] at h ⊢
     exact h

lemma source_ne (hclear:Clear req start) (hx:x∈req.entries.zipIdx)
  (hy:y∈req.entries.zipIdx) (hne:x≠y) (hxpath:x.1.relativePath≠[])
  (hypath:y.1.relativePath≠[]) : source req x≠source req y := by
 have hxe:=fst_mem_of_mem_zipIdx hx
 have hye:=fst_mem_of_mem_zipIdx hy
 intro h
 unfold source at h
 split at h <;> split at h
 · have hentry:=dest_injective hclear hxe hye (inParentCreateTemp_injective hxpath hypath h)
   exact hne (Prod.ext hentry (index_unique hclear hx hy hentry))
 · have hroot:=congrArg Location.root h
   rw [inParentCreateTemp_root] at hroot
   exact stage_apart hroot.symm
 · have hroot:=congrArg Location.root h
   rw [inParentCreateTemp_root] at hroot
   exact stage_apart hroot
 · have hindex:x.2=y.2 := by
    simp only [stagedFile,Location.mk.injEq,List.cons.injEq,String.append_left_inj] at h
    have hdigit:=congrArg (Nat.ofDigitChars 10 · 0) (String.ofList_injective h.2.1)
    simpa using hdigit
   exact hne (Prod.ext (entry_unique hx hy hindex) hindex)

lemma above_of_suffix_tail {q path:Path} (hq:q <:+ path.tail) (hne:q≠[]) :
  Above q path := by
 refine ⟨hq.trans (tail_suffix path),?_⟩
 rintro rfl
 have hlen:=hq.length_le
 have hpos:=length_pos_of_ne_nil hne
 rw [length_tail] at hlen
 omega

lemma StagingTree.make_dir (hclear:Clear req start) (h:StagingTree req start done u)
  (haccept:∀x∈done,Accepted req start x.1) (hdone:∀x∈done,x.1∈req.entries)
  (he:e∈req.entries) (hkind:e.kind=.create) {q:Path} (hq:q <:+ e.relativePath.tail)
  (hnone:u ⟨req.root,q⟩=none) (hparent:q=[] ∨ u ⟨req.root,q.tail⟩=some .directory) :
  StagingTree req start done (u.set ⟨req.root,q⟩ (some .directory)) := by
 have hkeep:∀loc,u loc≠none → u.set ⟨req.root,q⟩ (some .directory) loc=u loc := by
  intro loc hloc
  refine Tree.set_other _ _ ?_
  rintro rfl
  exact hloc hnone
 have hne:q≠[] := by
  rintro rfl
  simp [h.root] at hnone
 have habove:=above_of_suffix_tail hq hne
 refine ⟨?_,?_,?_,?_,?_,?_,?_⟩
 · rw [hkeep _ (by simp [h.root]),h.root]
 · intro name path hpath
   have hdir:u ⟨req.root,path⟩=some .directory := by
    by_cases heq : (⟨req.root,name::path⟩ : Location)=⟨req.root,q⟩
    · obtain rfl : name::path=q:=congrArg Location.path heq
      exact hparent.resolve_left hne
    · rw [Tree.set_other _ _ heq] at hpath
      exact h.closed name path hpath
   rw [hkeep _ (by simp [hdir]),hdir]
 · intro e' he'
   rw [← h.contents e' he']
   by_cases heq : dest req e'=⟨req.root,q⟩
   · simp [content,heq,hnone,bytesOf]
   · exact content_set_other _ _ heq
 · exact fun hkinds=>absurd hkind (hkinds e he)
 · intro e' he' hkind'
   rw [Tree.set_other]
   · exact h.rollbackTempFile e' he' hkind'
   · intro heq
     refine (hclear.rollbackTempFile e' he' hkind').2 e he hkind ?_
     rwa [heq]
 · intro x hx
   rw [Tree.set_other]
   · exact h.file x hx
   · intro heq
     have hpath:x.1.relativePath=q:=congrArg Location.path heq
     have hcontent:=h.contents x.1 (hdone x hx)
     rw [content,heq,hnone] at hcontent
     by_cases hkind' : x.1.kind=.create
     · exact hclear.createsApart x.1 (hdone x hx) hkind' e he hkind (hpath ▸ habove)
     · obtain ⟨b,hb⟩:=(haccept x hx).present hkind'
       simp [hb,bytesOf] at hcontent
 · intro x hx b hb
   have hstaged:=h.staged x hx b hb
   rw [hkeep _ (by simp [hstaged]),hstaged]

lemma StagingTree.set_staging (h:StagingTree req start done u) {loc:Location}
  (hloc:loc.root≠req.root) (hfresh:∀x∈done,u (source req x)≠none → source req x≠loc)
  (z:Option Shape) : StagingTree req start done (u.set loc z) := by
 have hkeep:∀l : Location,l.root=req.root → u.set loc z l=u l := by
  intro l hl
  refine Tree.set_other _ _ ?_
  rintro rfl
  exact hloc hl
 refine ⟨?_,?_,?_,?_,?_,?_,?_⟩
 · rw [hkeep _ rfl,h.root]
 · intro name path hpath
   rw [hkeep _ rfl] at hpath ⊢
   exact h.closed name path hpath
 · intro e' he'
   rw [content,hkeep _ rfl]
   exact h.contents e' he'
 · intro hkinds path
   rw [hkeep _ rfl,h.unchanged hkinds]
 · intro e' he' hkind'
   rw [hkeep _ (rollbackTemp_root _)]
   exact h.rollbackTempFile e' he' hkind'
 · intro x hx
   rw [hkeep _ rfl]
   exact h.file x hx
 · intro x hx b hb
   have hstaged:=h.staged x hx b hb
   rw [Tree.set_other _ _ (hfresh x hx (by simp [hstaged])),hstaged]

lemma StagingTree.write_temp (hclear:Clear req start) (h:StagingTree req start done u)
  (he:e∈req.entries) (hkind:e.kind=.create)
  (hparent:u (inParentCreateTemp (dest req e)).parent=some .directory)
  (hfile:u (inParentCreateTemp (dest req e))≠some .directory)
  (hfresh:∀x∈done,source req x≠inParentCreateTemp (dest req e)) (b:Bytes) :
  StagingTree req start done (u.set (inParentCreateTemp (dest req e)) (some (.file b))) := by
 have hapart:=hclear.createTempApart e he hkind
 refine ⟨u.set_directory _ hfile h.root,?_,?_,?_,?_,?_,?_⟩
 · intro name path hpath
   refine u.set_directory _ hfile ?_
   by_cases heq : (⟨req.root,name::path⟩ : Location)=inParentCreateTemp (dest req e)
   · rwa [← heq] at hparent
   · rw [Tree.set_other _ _ heq] at hpath
     exact h.closed name path hpath
 · intro e' he'
   rw [content_set_other _ _ (hapart e' he').symm]
   exact h.contents e' he'
 · exact fun hkinds=>absurd hkind (hkinds e he)
 · exact fun e' he' hkind'=>u.set_ne_directory _ nofun (h.rollbackTempFile e' he' hkind')
 · exact fun x hx=>u.set_ne_directory _ nofun (h.file x hx)
 · intro x hx c hc
   rw [Tree.set_other _ _ (hfresh x hx)]
   exact h.staged x hx c hc

end Trees

section Stores

variable {digest:Bytes → Digest} {s':Store} {b:Bytes} {o:Option Bytes}

lemma Kept.put (hinj:Function.Injective digest) (h:Kept digest s o) :
  Kept digest (Store.putObject s (digest b) b) o := by
 intro c hc
 by_cases heq : c=b
 · simp [Store.putObject,heq]
 · simp [Store.putObject,hinj.eq_iff,heq,h c hc]

lemma kept_putObject : Kept digest (Store.putObject s (digest b) b) (some b) := by
 rintro c ⟨⟩
 simp [Store.putObject]

lemma StagingStore.put (hinj:Function.Injective digest)
  (h:StagingStore digest req start done s) :
  StagingStore digest req start done (Store.putObject s (digest b) b) where
 ledger := h.ledger.congr rfl rfl
 rows := h.rows
 accepted := h.accepted
 beforeKept x hx := (h.beforeKept x hx).put hinj
 afterKept x hx := (h.afterKept x hx).put hinj

lemma StagingStore.insert (h:StagingStore digest req start done s)
  (haccept:Accepted req start x.1) (hbefore:Kept digest s (before req start x.1))
  (hafter:Kept digest s (after x.1)) :
  StagingStore digest req start (done++[x]) (Store.addEntry s start.store.nextJournal
   (planRow digest req start x.1 x.2 .staged)) where
 ledger := h.ledger.congr rfl rfl
 rows := by simp [Store.addEntry,h.rows,planRows]
 accepted y hy := by
  rcases mem_append.mp hy with hy | hy
  · exact h.accepted y hy
  · rwa [mem_singleton.mp hy]
 beforeKept y hy := by
  rcases mem_append.mp hy with hy | hy
  · exact h.beforeKept y hy
  · rwa [mem_singleton.mp hy]
 afterKept y hy := by
  rcases mem_append.mp hy with hy | hy
  · exact h.afterKept y hy
  · rwa [mem_singleton.mp hy]

lemma StagingStore.setMeta (h:StagingStore digest req start done s) (journalId sequence:ℕ)
  (captured:CapturedMetadata) :
  StagingStore digest req start done (Store.setMeta s journalId sequence captured) :=
 ⟨h.ledger.congr rfl rfl,h.rows,h.accepted,h.beforeKept,h.afterKept⟩

lemma StagingTree.insert (h:StagingTree req start done v)
  (hfile:v (dest req x.1)≠some .directory)
  (hstaged:∀b,after x.1=some b → v (source req x)=some (.file b)) :
  StagingTree req start (done++[x]) v where
 root := h.root
 closed := h.closed
 contents := h.contents
 unchanged := h.unchanged
 rollbackTempFile := h.rollbackTempFile
 file y hy := by
  rcases mem_append.mp hy with hy | hy
  · exact h.file y hy
  · rwa [mem_singleton.mp hy]
 staged y hy := by
  rcases mem_append.mp hy with hy | hy
  · exact h.staged y hy
  · rwa [mem_singleton.mp hy]

end Stores

section Prepare

variable {env:Env} {P:Guard}

lemma meets_captureBefore {Q:Post (Option Capture)} {loc:Location} (hprobe:Probes env)
  (hP:P v s) (hnone:v loc=none → Q (.ok none) v s)
  (hsome:∀b captured,v loc=some (.file b) →
   P v (Store.putObject s (env.contentDigest b) b) ∧
     Q (.ok (some ⟨env.contentDigest b,captured,env.contentDigest b⟩)) v
       (Store.putObject s (env.contentDigest b) b)) (herror:∀e,Q (.error e) v s) :
  Meets P Q (captureBefore env loc) v s := by
 refine .bind (meets_pathExists hprobe hP ?_)
 cases hshape : v loc with
 | none => exact .pure (hnone hshape)
 | some y =>
   refine .bind (.bind (meets_reading (reading_mapError (reading_captureHeld _ _)) hP fun r=>?_))
   cases r with
   | error e => exact herror e
   | ok captured =>
     simp only [Next]
     split
     · exact .throw (herror _)
     · refine .bind (meets_readBytes hP (fun _=>herror _) (fun b hb=>?_) fun _=>herror _)
       obtain ⟨hput,hok⟩:=hsome b captured hb
       exact .bind (meets_putCasObject ⟨hput,.pure (.pure hok)⟩)

structure Writing (req:ApplyRequest) (start:World) (done:List (PromotionEntry×ℕ))
  (x:PromotionEntry×ℕ) (u:Tree) : Prop where
 tree : StagingTree req start done u
 file : u (dest req x.1)≠some .directory

structure Upcoming (req:ApplyRequest) (start:World) (done:List (PromotionEntry×ℕ))
  (x:PromotionEntry×ℕ) : Prop where
 entry : x∈req.entries.zipIdx
 earlier : ∀y∈done,y∈req.entries.zipIdx
 fresh : x ∉ done
 accepted : ∀y∈done,Accepted req start y.1

lemma path_ne_nil {e:PromotionEntry} (h:StagingTree req start done v)
  (hfile:v (dest req e)≠some .directory) : e.relativePath≠[] := by
 intro hpath
 have hdest:dest req e=⟨req.root,[]⟩:=congrArg (Location.mk req.root) hpath
 exact hfile (hdest ▸ h.root)

lemma Writing.source_ne {u:Tree} (hclear:Clear req start) (hx:Upcoming req start done x)
  (h:Writing req start done x u) {y:PromotionEntry×ℕ} (hy:y∈done) :
  source req y≠source req x := by
 refine PromotionStaging.source_ne hclear (hx.earlier y hy) hx.entry ?_
  (path_ne_nil h.tree (h.tree.file y hy)) (path_ne_nil h.tree h.file)
 rintro rfl
 exact hx.fresh hy

variable {Q:Post (Option Digest)} {captured:Option CapturedMetadata}

section Bytes

variable {b:Bytes} (hclear:Clear req start) (hx:Upcoming req start done x)
 (hv:Writing req start done x v)
 (hP:∀u,Writing req start done x u → P u (Store.putObject s (env.contentDigest b) b))
 (hok:∀u,Writing req start done x u → u (source req x)=some (.file b) →
  Q (.ok (some (env.contentDigest b))) u (Store.putObject s (env.contentDigest b) b))
 (herror:∀u e,Writing req start done x u →
  Q (.error e) u (Store.putObject s (env.contentDigest b) b))
include hclear hx hv hP hok herror

lemma meets_stageReplace (hkind:x.1.kind≠.create) :
  Meets P Q (stageReplace env (stage req) x.2 captured b)
   v s := by
 have hsrc:source req x =
   stagedFile (stage req) x.2 := if_neg hkind
 have hdest:∀(u:Tree) (loc:Location) (z:Option Shape),loc.root≠req.root →
   u (dest req x.1)≠some .directory → u.set loc z (dest req x.1)≠some .directory := by
  intro u loc z hloc hu
  rwa [Tree.set_other]
  rintro rfl
  exact hloc rfl
 refine .bind (meets_putCasObject ⟨hP v hv,?_⟩)
 refine .bind (meets_writeStagingFile_keeps (Writing req start done x)
  (fun u q hu _ hnone _=>?_) (fun u c hu _ _=>?_) hP hv (fun u hu hstaged=>?_)
  fun u e hu _=>herror u e hu)
 · refine ⟨hu.tree.set_staging stage_apart (fun y _ hne heq=>hne (heq ▸ hnone)) _,?_⟩
   exact hdest u _ _ stage_apart hu.file
 · refine ⟨hu.tree.set_staging stage_apart (fun y hy _=>?_) _,hdest u _ _ stage_apart hu.file⟩
   rw [← hsrc]
   exact hu.source_ne hclear hx hy
 · have hdone:=hok u hu (hsrc ▸ hstaged)
   cases captured with
   | none => exact .bind (.pure (.pure hdone))
   | some captured =>
     exact .bind (meets_applyCapturedMetadata (hP u hu) (fun _=>herror u _ hu)
      (fun _=>herror u _ hu) fun _ _=>.pure hdone)

lemma meets_stageCreate (hkind:x.1.kind=.create) :
  Meets P Q (stageCreate env (dest req x.1) b) v s := by
 have he:=fst_mem_of_mem_zipIdx hx.entry
 have hsrc:source req x=inParentCreateTemp (dest req x.1):=if_pos hkind
 have htail:(inParentCreateTemp (dest req x.1)).path.tail=x.1.relativePath.tail :=
  congrArg Location.path (inParentCreateTemp_parent (path_ne_nil hv.tree hv.file))
 refine .bind (meets_putCasObject ⟨hP v hv,?_⟩)
 refine .bind (meets_writeStagingFile_keeps (Writing req start done x)
  (fun u q hu hq hnone hparent=>?_) (fun u c hu hparent hfile=>?_) hP hv
  (fun u hu hstaged=>?_) fun u e hu _=>herror u e hu)
 · rw [htail] at hq
   rw [inParentCreateTemp_root] at hnone hparent ⊢
   refine ⟨hu.tree.make_dir hclear hx.accepted
    (fun y hy=>fst_mem_of_mem_zipIdx (hx.earlier y hy)) he hkind hq hnone hparent,?_⟩
   rw [Tree.set_other]
   · exact hu.file
   · intro heq
     have hpath:x.1.relativePath=q:=congrArg Location.path heq
     refine (above_of_suffix_tail hq ?_).2 hpath.symm
     rintro rfl
     exact path_ne_nil hu.tree hu.file hpath
 · refine ⟨hu.tree.write_temp hclear he hkind hparent hfile (fun y hy=>?_) c,?_⟩
   · rw [← hsrc]
     exact hu.source_ne hclear hx hy
   · rw [Tree.set_other _ _ (hclear.createTempApart x.1 he hkind x.1 he).symm]
     exact hu.file
 · refine .bind (meets_fsyncPath (hP u hu) (fun _=>herror u _ hu) (fun _=>?_)
    fun _=>herror u _ hu)
   exact .pure (hok u hu (hsrc ▸ hstaged))

end Bytes

lemma meets_stageAfter (hinj:Function.Injective env.contentDigest) (hclear:Clear req start)
  (hx:Upcoming req start done x) (hv:Writing req start done x v)
  (hs:Stocked req start env done s)
  (hP:∀u s',StagingTree req start done u → Stocked req start env done s' → P u s')
  (hok:∀u s',Writing req start done x u →
   (∀b,after x.1=some b → u (source req x)=some (.file b)) →
   (x.1.kind≠.delete → ∃b,x.1.afterBytes=some b) →
   Stocked req start env done s' → Kept env.contentDigest s' (after x.1) →
   (∀o,Kept env.contentDigest s o → Kept env.contentDigest s' o) →
   Q (.ok ((after x.1).map env.contentDigest)) u s')
  (herror:∀u s' e,StagingTree req start done u →
   Stocked req start env done s' → Q (.error e) u s') :
  Meets P Q (stageAfter env (stage req) x.2 x.1
   (dest req x.1) captured) v s := by
 have hput:∀b,Stocked req start env done
   (Store.putObject s (env.contentDigest b) b) := fun b=>hs.put hinj
 have hstaged:∀b u,after x.1=some b → x.1.afterBytes=some b →
   Writing req start done x u → u (source req x)=some (.file b) →
   Q (.ok (some (env.contentDigest b))) u (Store.putObject s (env.contentDigest b) b) := by
  intro b u hafter hbytes hu hsrc
  have := hok u _ hu (fun c hc=>?_) (fun _=>⟨b,hbytes⟩) (hput b)
   (hafter ▸ kept_putObject) fun o ho=>ho.put hinj
  · rwa [hafter] at this
  · obtain rfl : b=c:=some.inj (hafter.symm.trans hc)
    exact hsrc
 unfold stageAfter
 cases hkind : x.1.kind with
 | delete =>
   have hafter:after x.1=none := by simp [after,hkind]
   have := hok v s hv (by simp [hafter]) (fun h=>absurd hkind h) hs (by simp [hafter,Kept])
    fun _ ho=>ho
   rw [hafter] at this
   exact .pure this
 | replace =>
   cases hbytes : x.1.afterBytes with
   | none => exact .throw (herror v s _ hv.tree hs)
   | some b =>
     have hafter:after x.1=some b := by simp [after,hkind,hbytes]
     exact meets_stageReplace hclear hx hv (fun u hu=>hP u _ hu.tree (hput b))
      (fun u=>hstaged b u hafter hbytes) (fun u e hu=>herror u _ e hu.tree (hput b))
      (by simp [hkind])
 | create =>
   cases hbytes : x.1.afterBytes with
   | none => exact .throw (herror v s _ hv.tree hs)
   | some b =>
     have hafter:after x.1=some b := by simp [after,hkind,hbytes]
     exact meets_stageCreate hclear hx hv (fun u hu=>hP u _ hu.tree (hput b))
      (fun u=>hstaged b u hafter hbytes) (fun u e hu=>herror u _ e hu.tree (hput b)) hkind

structure PreparedFor (req:ApplyRequest) (x:PromotionEntry×ℕ) (p:PreparedEntry) :
  Prop where
 sequence : p.sequence=x.2
 kind : p.kind=x.1.kind
 relativePath : p.relativePath=x.1.relativePath
 createTmp : p.createTmp =
  if x.1.kind=.create then some (inParentCreateTemp (dest req x.1)) else none

lemma accepted_of_fitsKind (hfits:fitsKind x.1.kind (before req start x.1).isSome=true)
  (hbytes:x.1.kind≠.delete → ∃b,x.1.afterBytes=some b) : Accepted req start x.1 := by
 unfold Accepted
 cases hkind : x.1.kind with
 | create =>
   simp only [fitsKind,hkind,Bool.not_eq_true',isSome_eq_false_iff,
    isNone_iff_eq_none] at hfits
   exact ⟨hfits,hbytes (by simp [hkind])⟩
 | replace =>
   simp only [fitsKind,hkind] at hfits
   exact ⟨isSome_iff_exists.mp hfits,hbytes (by simp [hkind])⟩
 | delete =>
   simp only [fitsKind,hkind] at hfits
   exact isSome_iff_exists.mp hfits

lemma meets_saveCaptured {Q:Post Unit} {journalId index:ℕ} (hs:Stocked req start env done s)
  (hok:∀s',Stocked req start env done s' → P v s' ∧ Q (.ok ()) v s') :
  Meets P Q (saveCaptured journalId index captured) v s := by
 cases captured with
 | none => exact .pure (hok s hs).2
 | some captured =>
   have hs':=hs.setMeta journalId index captured
   exact meets_updateStore (f := fun s=>Store.setMeta s journalId index captured) (hok _ hs')

section Entries

variable {Q:Post PreparedEntry} {capture:Option Capture}
 (hinj:Function.Injective env.contentDigest) (hclear:Clear req start)
 (hx:Upcoming req start done x) (hs:Stocked req start env done s)
 (hP:∀done' u s',StagingTree req start done' u → Stocked req start env done' s' → P u s')
 (hok:∀u s' p,StagingTree req start (done++[x]) u →
  Stocked req start env (done++[x]) s' → PreparedFor req x p → Q (.ok p) u s')
 (herror:∀u s' e,StagingTree req start done u →
  Stocked req start env done s' → Q (.error e) u s')
include hinj hclear hx hs hP hok herror

lemma meets_stageEntry (hv:Writing req start done x v)
  (hdigest:capture.map (·.digest)=(before req start x.1).map env.contentDigest)
  (hroll:capture.map (·.rollback)=(before req start x.1).map env.contentDigest)
  (hkept:Kept env.contentDigest s (before req start x.1)) :
  Meets P Q (stageEntry env (stage req)
   start.store.nextJournal x.2 x.1 (dest req x.1) capture) v s := by
 have hpresent:capture.isSome=(before req start x.1).isSome := by
  simpa using congrArg isSome hdigest
 unfold stageEntry
 rw [hpresent]
 split
 case isTrue => exact .throw (herror v s _ hv.tree hs)
 case isFalse hfits =>
  refine .bind (meets_stageAfter hinj hclear hx hv hs (hP done)
   (fun u s₁ hu hsrc hbytes hs₁ hafter hkeep=>?_) herror)
  have haccept:=accepted_of_fitsKind (not_not.mp hfits) hbytes
  have htree:=hu.tree.insert hu.file hsrc
  have hstore:=hs₁.insert haccept (hkeep _ hkept) hafter
  rw [hdigest,hroll]
  refine .bind (meets_updateStore ⟨hP _ _ _ htree hstore,?_⟩)
  refine .bind (meets_saveCaptured hstore fun s₂ hs₂=>⟨hP _ _ _ htree hs₂,?_⟩)
  exact .pure (hok _ _ _ htree hs₂ ⟨rfl,rfl,rfl,rfl⟩)

lemma meets_prepareEntry (hprobe:Probes env) (hv:StagingTree req start done v) :
  Meets P Q (prepareEntry env req.root (stage req)
   start.store.nextJournal x.2 x.1) v s := by
 have hbefore:content v (dest req x.1)=before req start x.1 :=
  hv.contents x.1 (fst_mem_of_mem_zipIdx hx.entry)
 refine .bind (meets_captureBefore hprobe (hP done v s hv hs) (fun hnone=>?_)
  (fun b captured hb=>?_) fun e=>herror v s e hv hs)
 · replace hnone:v (dest req x.1)=none:=hnone
   rw [content,hnone] at hbefore
   refine meets_stageEntry hinj hclear hx hs hP hok herror ⟨hv,by simp [hnone]⟩ ?_ ?_ ?_
   · simp [← hbefore,bytesOf]
   · simp [← hbefore,bytesOf]
   · simp [← hbefore,bytesOf,Kept]
 · replace hb:v (dest req x.1)=some (.file b):=hb
   rw [content_eq_some.mpr hb] at hbefore
   have hput:=hs.put hinj (b:=b)
   refine ⟨hP done v _ hv hput,
    meets_stageEntry hinj hclear hx hput hP hok herror ⟨hv,by simp [hb]⟩ ?_ ?_ ?_⟩
   · simp [← hbefore]
   · simp [← hbefore]
   · rw [← hbefore]
     exact kept_putObject

end Entries

lemma meets_prepareEntries {Q:Post (List PreparedEntry)} {rest:List PromotionEntry} {n:ℕ}
  (hinj:Function.Injective env.contentDigest) (hprobe:Probes env) (hclear:Clear req start)
  (hsplit:req.entries.zipIdx=done++rest.zipIdx n) (hv:StagingTree req start done v)
  (hs:Stocked req start env done s)
  (hP:∀done' u s',StagingTree req start done' u → Stocked req start env done' s' → P u s')
  (hok:∀u s' ps,StagingTree req start req.entries.zipIdx u →
   Stocked req start env req.entries.zipIdx s' →
   List.Forall₂ (PreparedFor req) (rest.zipIdx n) ps → Q (.ok ps) u s')
  (herror:∀done' u s' e,StagingTree req start done' u →
   Stocked req start env done' s' → Q (.error e) u s') :
  Meets P Q (prepareEntries env req.root (stage req)
   start.store.nextJournal n rest) v s := by
 induction rest generalizing v s n done Q with
 | nil =>
   rw [zipIdx_nil,append_nil] at hsplit
   exact .pure (hok v s [] (hsplit ▸ hv) (hsplit ▸ hs) .nil)
 | cons e rest ih =>
   have hnodup:(req.entries.zipIdx).Nodup:=List.Nodup.of_map Prod.snd indices_nodup
   have hx:Upcoming req start done (e,n) :=
    { entry:=by simp [hsplit]
      earlier:=fun y hy=>by simp [hsplit,hy]
      fresh:=fun hmem=>by
       rw [hsplit] at hnodup
       exact (disjoint_of_nodup_append hnodup) hmem mem_cons_self
      accepted:=hs.accepted }
   refine .bind (meets_prepareEntry hinj hclear hx hs hP
    (fun u s' p hu hs' hp=>?_) (herror done) hprobe hv)
   refine .bind (ih (by simpa using hsplit) hu hs' (fun u' s'' ps hu' hs'' hps=>?_) herror)
   exact .pure (hok u' s'' (p::ps) hu' hs'' (.cons hp hps))

lemma StagingTree.residue (h:StagingTree req start done v) : Residue req start v :=
 fun hkinds path _=>.inl (h.unchanged hkinds path)

lemma StagingTree.treeOk (h:StagingTree req start req.entries.zipIdx v)
  (haccept:∀e∈req.entries,Accepted req start e) : TreeOk req start v := by
 have hfile:∀e∈req.entries,v (dest req e)≠some .directory:=forall_entries h.file
 have hparent:∀(loc:Location) (b:Bytes),loc.root=req.root → v loc=some (.file b) →
   v loc.parent=some .directory := by
  rintro ⟨root,_ | ⟨name,path⟩⟩ b rfl hloc
  · simp [h.root] at hloc
  · exact h.closed name path (by simp [hloc])
 have htemp:∀e∈req.entries,e.kind=.create →
   ∃b,v (inParentCreateTemp (dest req e))=some (.file b) := by
  intro e he hkind
  obtain ⟨i,hi⟩:=exists_index he
  obtain ⟨b,hafter⟩:=(haccept e he).promoted (by simp [hkind])
  have hstaged:=h.staged (e,i) hi b hafter
  rw [source,if_pos hkind] at hstaged
  exact ⟨b,hstaged⟩
 refine ⟨h.root,fun e he=>.inl (h.contents e he), hfile,?_,?_,h.rollbackTempFile,?_, h.residue⟩
 · intro e he
   by_cases hkind : e.kind=.create
   · obtain ⟨b,hb⟩:=htemp e he hkind
     rw [← inParentCreateTemp_parent (path_ne_nil h (hfile e he))]
     exact hparent _ b (inParentCreateTemp_root _) hb
   · obtain ⟨b,hb⟩:=(haccept e he).present hkind
     exact hparent _ b rfl (content_eq_some.mp ((h.contents e he).trans hb))
 · intro e he hkind
   obtain ⟨b,hb⟩:=htemp e he hkind
   simp [hb]
 · intro e he hkind
   obtain ⟨b,hb⟩:=(haccept e he).present hkind
   simp [hb]

lemma StagingStore.core (hv:StagingTree req start req.entries.zipIdx v)
  (h:Stocked req start env req.entries.zipIdx s) :
  Core env.contentDigest req start v s (fun _=>.staged) where
 tree := hv.treeOk (forall_entries h.accepted)
 rows := h.rows
 accepted := forall_entries h.accepted
 beforeKept := forall_entries h.beforeKept
 afterKept := forall_entries h.afterKept

end Prepare

end EpistemicCompiler.PromotionStaging
