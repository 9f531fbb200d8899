import EpistemicCompiler.PromotionRollback

set_option autoImplicit false

/-!
# Rolling a promotion forward

An entry that recovery takes for pending holds its before content, and one is taken for foreign
only when its file cannot be read. Rolling forward keeps every entry at its before or after
content, wherever it stops.
-/
namespace EpistemicCompiler.PromotionForward
open StepPrograms PromotionWorld PromotionFiles PromotionJournal PromotionGrant PromotionApply
 PromotionRecovery PromotionRules PromotionPlan PromotionRollback

variable {env:Env} {req:ApplyRequest} {start:World} {P:Guard}
 {v:Tree} {s:Store} {st:ℕ → EntryState} {e:PromotionEntry} {i:ℕ} {x:EntryState}

lemma progressOf_ne_foreign {c:Option Bytes} (haccept:Accepted req start e)
  (hc:c=before req start e ∨ c=after e) :
  progressOf (planRow env.contentDigest req start e i x) c.isSome (c.map env.contentDigest) ≠
   .foreign := by
 unfold progressOf
 cases hkind : e.kind with
 | delete =>
   have hafter:after e=none := by simp [after,hkind]
   rcases hc with rfl | rfl
   · cases hbefore : before req start e <;> simp [planRow,hkind,hbefore]
   · simp [planRow,hkind,hafter]
 | create =>
   simp only [planRow,hkind]
   rcases hc with rfl | rfl
   · rw [haccept.absent hkind]
     split <;> simp
   · simp
 | replace =>
   simp only [planRow,hkind]
   rcases hc with rfl | rfl
   · split <;> simp
   · simp

lemma meets_observeEntry {Q:Post (Bool×Option Digest)} {loc:Location}
  (hprobe:Probes env) (hloc:v loc≠some .directory) (hP:P v s)
  (hok:Q (.ok ((content v loc).isSome,(content v loc).map env.contentDigest)) v s)
  (hfault:Faulty env .classify → Q (.ok (true,none)) v s) :
  Meets P Q (observeEntry env loc) v s := by
 refine .bind (meets_pathExists hprobe hP ?_)
 cases hshape : v loc with
 | none =>
   rw [content,hshape] at hok
   exact .pure hok
 | some y =>
   refine .bind (.attempt (meets_readBytes hP (fun h=>.pure (hfault h))
    (fun bytes hbytes=>?_) fun hother=>?_))
   · rw [content,hbytes] at hok
     exact .pure hok
   · cases y with
     | directory => exact absurd hshape hloc
     | file bytes => exact absurd hshape (hother bytes)

lemma meets_classifyCurrent {Q:Post EntryProgress} (hprobe:Probes env)
  (hv:TreeOk req start v) (he:e∈req.entries) (haccept:Accepted req start e) (hP:P v s)
  (hok:∀progress,(progress=.foreign → Faulty env .classify) → Q (.ok progress) v s) :
  Meets P Q (classifyCurrent env req.root (planRow env.contentDigest req start e i x)) v s := by
 unfold classifyCurrent
 split
 · exact .pure (hok .after nofun)
 · refine .bind (meets_observeEntry hprobe (hv.file e he) hP ?_ fun hfault=>?_)
   · refine .pure (hok _ fun hfor=>?_)
     exact absurd hfor (progressOf_ne_foreign haccept (hv.settled e he))
   · exact .pure (hok _ fun _=>hfault)

lemma meets_anyForeign {Q:Post Bool} {l:List (PromotionEntry×ℕ)} (hprobe:Probes env)
  (hcore:Core env.contentDigest req start v s st) (hl:∀y∈l,y∈req.entries.zipIdx)
  (hP:P v s) (hok:∀found,(found=true → Faulty env .classify) → Q (.ok found) v s) :
  Meets P Q (anyForeign env req.root (planRows env.contentDigest req start st l)) v s := by
 induction l with
 | nil => exact .pure (hok false nofun)
 | cons y l ih =>
   have hy:=List.fst_mem_of_mem_zipIdx (hl y List.mem_cons_self)
   refine .bind (meets_classifyCurrent hprobe hcore.tree hy (hcore.accepted _ hy) hP
    fun progress hfor=>?_)
   simp only [Next]
   split
   case isTrue h => exact .pure (hok true fun _=>hfor h)
   case isFalse => exact ih fun z hz=>hl z (List.mem_cons_of_mem _ hz)

section Forward

variable {Q:Post Unit} {workspaceId:String} {y:PromotionEntry×ℕ} {st₀:ℕ → EntryState}
 {l:List (PromotionEntry×ℕ)} (hprobe:Probes env) (hclear:Clear req start)
include hclear

section Pending

variable (hcore:Core env.contentDigest req start v s st) (he:e∈req.entries)
 (hP:∀u,Working req start e v u → P u s) (hok:∀u,Working req start e v u → Q (.ok ()) u s)
 (herror:∀u e',Working req start e v u → FileError e' → Q (.error e') u s)
include hcore he hP hok herror

lemma meets_forwardReplace (hkind:e.kind=.replace) :
  Meets P Q (forwardReplace env ⟨.staging req.workspaceRoot workspaceId,[]⟩
   start.store.nextJournal (planRow env.contentDigest req start e i x) (dest req e)) v s := by
 have hstart:=Working.refl (e:=e) hcore.tree
 obtain ⟨b,hafter⟩:=(hcore.accepted e he).promoted (by simp [hkind])
 have hrow:(planRow env.contentDigest req start e i x).expectedAfterDigest =
   some (env.contentDigest b) := by simp [planRow,hafter]
 unfold forwardReplace
 rw [hrow]
 refine .bind (meets_getCasObject (hP _ hstart) (hcore.afterKept e he b hafter) ?_)
 refine .bind (meets_writeStagingFile_keeps (Working req start e v)
  (fun u q hu _ _ _=>hu.set_staging stage_apart _)
  (fun u c hu _ _=>hu.set_staging stage_apart _)
  hP hstart (fun u hu hstaged=>?_) herror)
 refine .bind (meets_restoreStoredMeta (hP u hu) ?_ (fun _=>herror u _ hu (.inl rfl))
  fun _=>herror u _ hu (.inr rfl))
 refine meets_moveEx (hP u hu) (fun _=>herror u _ hu (.inl rfl))
  (fun _=>herror u _ hu (.inr rfl)) fun c hc _=>?_
 obtain rfl : c=b := by simpa [hstaged] using hc.symm
 have hmoved:Working req start e v (u.move (stagedFile
   ⟨.staging req.workspaceRoot workspaceId,[]⟩ i) (dest req e) c) :=
  (hu.set_staging stage_apart none).set_after hclear he (by simp) hafter.symm
 exact ⟨hP _ hmoved,hok _ hmoved,fun _=>herror _ _ hmoved (.inl rfl)⟩

lemma meets_forwardCreate (hkind:e.kind=.create) :
  Meets P Q (forwardCreate env (planRow env.contentDigest req start e i x) (dest req e)) v s := by
 have hv:=hcore.tree
 have hstart:=Working.refl (e:=e) hv
 obtain ⟨b,hafter⟩:=(hcore.accepted e he).promoted (by simp [hkind])
 have hrow:(planRow env.contentDigest req start e i x).expectedAfterDigest =
   some (env.contentDigest b) := by simp [planRow,hafter]
 have hapart:=hclear.createTempApart e he hkind
 have htemp:=hv.createTempFile e he hkind
 have hwrite:∀y : Option Shape,y≠some .directory → Working req start e v
   (v.set (inParentCreateTemp (dest req e)) y) :=
  fun y hy=>hstart.set_temp hapart htemp hy (.inl ⟨e,he,hkind⟩)
 have hparent:=hv.parent e he
 rw [← inParentCreateTemp_parent (dest_path_ne_nil hv he)] at hparent
 have hfile:=hwrite (some (.file b)) (by simp)
 unfold forwardCreate
 rw [hrow]
 refine .bind (meets_getCasObject (hP _ hstart) (hcore.afterKept e he b hafter) ?_)
 refine .bind (meets_writeStagingFile hparent htemp (hP _ hstart)
  (fun c=>hP _ (hwrite _ (by simp))) ?_ (fun _=>herror _ _ hstart (.inl rfl))
  fun _ c=>herror _ _ (hwrite _ (by simp)) (.inl rfl))
 refine .bind (meets_fsyncPath (hP _ hfile) (fun _=>herror _ _ hfile (.inl rfl))
  (fun _=>?_) fun _=>herror _ _ hfile (.inr rfl))
 refine meets_moveEx (hP _ hfile) (fun _=>herror _ _ hfile (.inl rfl))
  (fun _=>herror _ _ hfile (.inr rfl)) fun c hc _=>?_
 obtain rfl : c=b := by simpa using hc.symm
 have hmoved:Working req start e v ((v.set (inParentCreateTemp (dest req e))
   (some (.file c))).move (inParentCreateTemp (dest req e)) (dest req e) c) := by
  rw [Tree.move,Tree.set_set]
  exact (hwrite none (by simp)).set_after hclear he (by simp) hafter.symm
 exact ⟨hP _ hmoved,hok _ hmoved,fun _=>herror _ _ hmoved (.inl rfl)⟩

include hprobe in
lemma meets_forwardPending :
  Meets P Q (forwardPending env ⟨.staging req.workspaceRoot workspaceId,[]⟩
   start.store.nextJournal (planRow env.contentDigest req start e i x) (dest req e)) v s := by
 have hstart:=Working.refl (e:=e) hcore.tree
 unfold forwardPending
 rw [planRow_kind]
 cases hkind : e.kind with
 | replace => exact meets_forwardReplace hclear hcore he hP hok herror hkind
 | create => exact meets_forwardCreate hclear hcore he hP hok herror hkind
 | delete =>
   have hgone:Working req start e v (v.set (dest req e) none) :=
    hstart.set_after hclear he nofun (by simp [bytesOf,after,hkind])
   refine .bind (meets_pathExists hprobe (hP _ hstart) ?_)
   cases (v (dest req e)).isSome with
   | false => exact .pure (hok v hstart)
   | true =>
     exact meets_deletePath (hP _ hstart) (fun _=>herror _ _ hstart (.inl rfl))
      (hcore.tree.parent e he) (fun _=>herror _ _ hstart (.inr rfl))
      fun _ _=>⟨hP _ hgone,hok _ hgone,fun _=>herror _ _ hgone (.inl rfl)⟩

end Pending

def ForwardError (env:Env) (e:PromotionError) : Prop :=
 FileError e ∨ e=externalConflict ∧ Faulty env .classify

variable (hstaged:Midway env req start .committing st v s) (hst:Forwards st)
 (hP:∀u s' st',Midway env req start .committing st' u s' → Forwards st' → P u s')
 (hok:∀u s' st',Midway env req start .committing st' u s' → Forwards st' → Q (.ok ()) u s')
 (herror:∀u s' st' e',Midway env req start .committing st' u s' →
  Forwards st' → ForwardError env e' → Q (.error e') u s')
include hprobe hstaged hst hP hok herror

lemma meets_forwardEntry (hy:y∈req.entries.zipIdx) :
  Meets P Q (forwardEntry env req.root ⟨.staging req.workspaceRoot workspaceId,[]⟩
   start.store.nextJournal (planRow env.contentDigest req start y.1 y.2 x)) v s := by
 have he:=List.fst_mem_of_mem_zipIdx hy
 have hfile:∀u e',Working req start y.1 v u → FileError e' → Q (.error e') u s :=
  fun u e' hu he'=>herror u s st e' (hstaged.working hu) hst (.inl he')
 have happlied:=update_applied_ne_rolledBack hst y.2
 have hset:∀u,Working req start y.1 v u →
   Meets P Q (setEntryState start.store.nextJournal y.2 .applied) u s := by
  intro u hu
  have hstaged':=(hstaged.working hu).setEntry y.2 .applied
  exact meets_updateStore ⟨hP _ _ _ hstaged' happlied,hok _ _ _ hstaged' happlied⟩
 have hstart:=Working.refl (e:=y.1) hstaged.core.tree
 unfold forwardEntry
 split
 · exact Meets.pure (hok v s st hstaged hst)
 · refine Meets.bind (meets_classifyCurrent hprobe hstaged.core.tree he
    (hstaged.core.accepted _ he) (hP v s st hstaged hst) fun progress hfor=>?_)
   cases progress with
   | after =>
     exact Meets.bind (meets_restoreStoredMeta (hP v s st hstaged hst) (hset v hstart)
      (fun _=>hfile v _ hstart (.inl rfl)) fun _=>hfile v _ hstart (.inr rfl))
   | foreign => exact Meets.throw (herror v s st _ hstaged hst (.inr ⟨rfl,hfor rfl⟩))
   | pending =>
     exact Meets.bind (meets_forwardPending hprobe hclear hstaged.core he
      (fun u hu=>hP u s st (hstaged.working hu) hst) hset hfile)

lemma meets_forwardEntries (hl:∀y∈l,y∈req.entries.zipIdx) :
  Meets P Q (forwardEntries env req.root ⟨.staging req.workspaceRoot workspaceId,[]⟩
   start.store.nextJournal (planRows env.contentDigest req start st₀ l)) v s := by
 induction l generalizing v s st with
 | nil => exact .pure (hok v s st hstaged hst)
 | cons y l ih =>
   refine .bind (meets_forwardEntry hprobe hclear hstaged hst hP
    (fun u s' st' hstaged' hst'=>?_) herror (hl y List.mem_cons_self))
   exact ih hstaged' hst' fun z hz=>hl z (List.mem_cons_of_mem _ hz)

end Forward

end EpistemicCompiler.PromotionForward
