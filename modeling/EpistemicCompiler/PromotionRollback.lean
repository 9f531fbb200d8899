import EpistemicCompiler.PromotionPlan

set_option autoImplicit false

/-!
# Rolling a promotion back

While every entry holds its before or its after content, `rollback_applied` finds no conflict: it
fails only where the file system fails, and otherwise every entry gets its before content back.
-/
namespace EpistemicCompiler.PromotionRollback
open StepPrograms PromotionWorld PromotionFiles PromotionJournal PromotionGrant PromotionApply
 PromotionRules PromotionPlan List Function

variable {env:Env} {req:ApplyRequest} {start:World} {P:Guard}
 {v:Tree} {s:Store} {st:ℕ → EntryState} {state:JournalState} {e:PromotionEntry}

section

variable {Q:Post Unit} {u:Tree} {bytes:Bytes}

lemma meets_deleteIfPresent {loc:Location} (hprobe:Probes env)
  (hparent:v loc.parent=some .directory) (hloc:v loc≠some .directory) (hP:P v s)
  (hgone:P (v.set loc none) s) (hok:Q (.ok ()) (v.set loc none) s)
  (hfault:Faulty env .rollback → Q (.error .io) v s ∧ Q (.error .io) (v.set loc none) s) :
  Meets P Q (deleteIfPresent env loc) v s := by
 refine .bind (meets_pathExists hprobe hP ?_)
 cases hshape : v loc with
 | none =>
   rw [← hshape,Tree.set_self] at hok
   exact .pure hok
 | some x =>
   refine meets_deletePath hP (fun h=>(hfault h).1) hparent (fun hother=>?_) fun _ _=>
    ⟨hgone,hok,fun h=>(hfault h).2⟩
   cases x with
   | directory => exact absurd hshape hloc
   | file bytes => exact absurd hshape (hother bytes)

lemma meets_restoreStoredMeta {site:Site} {journalId sequence:ℕ} {loc:Location}
  (hP:P v s) (hok:Q (.ok ()) v s) (hfault:Faulty env site → Q (.error .io) v s)
  (hother:(∀bytes,v loc≠some (.file bytes)) → Q (.error (.replace .io)) v s) :
  Meets P Q (restoreStoredMeta env site journalId sequence loc) v s := by
 refine .bind (meets_readStore (f := fun s=>s.entryMeta journalId sequence) hP ?_)
 cases s.entryMeta journalId sequence with
 | none => exact .pure hok
 | some captured => exact meets_applyCapturedMetadata hP hfault hother fun _ _=>hok

variable (hprobe:Probes env) (hclear:Clear req start) (he:e∈req.entries)
 (hP:∀u,Working req start e v u → P u s)
 (hfault:Faulty env .rollback → ∀u,Working req start e v u → Q (.error .io) u s)
include hprobe hclear he hP hfault

lemma meets_moveBack (hkind:e.kind≠.create) (hbefore:before req start e=some bytes)
  (hu:Working req start e v u)
  (htemp:u (rollbackTemp (dest req e))=some (.file bytes))
  (hok:∀u,Working req start e v u → u (dest req e)=some (.file bytes) → Q (.ok ()) u s) :
  Meets P Q (moveBack env (dest req e)) u s := by
 have hapart:=hclear.rollbackTempApart e he hkind
 have hgone:Working req start e v (u.set (rollbackTemp (dest req e)) none) :=
  hu.set_temp hapart (hu.tree.rollbackTempFile e he hkind) nofun (.inr ⟨e,he,rfl,.inl rfl⟩)
 have hmoved:Working req start e v (u.move (rollbackTemp (dest req e)) (dest req e) bytes) :=
  hgone.set_dest hclear he nofun (.inl hbefore.symm) (.inr (.inr (.inr (Tree.set_same _ _ _))))
 have hmove:∀replace,Movable u (dest req e) replace → Meets P Q
   (moveEx env .rollback (rollbackTemp (dest req e)) (dest req e) replace) u s := by
  intro replace hmovable
  refine meets_moveEx (hP _ hu) (fun h=>hfault h _ hu) (fun h=>?_) fun bytes' hbytes' _=>?_
  · exact absurd hmovable (h bytes htemp)
  · obtain rfl : bytes'=bytes := by simpa [htemp] using hbytes'.symm
    exact ⟨hP _ hmoved,hok _ hmoved (Tree.set_same _ _ _),fun h=>hfault h _ hmoved⟩
 refine .bind (meets_pathExists hprobe (hP _ hu) ?_)
 cases hshape : u (dest req e) with
 | none => exact hmove false ⟨hu.tree.parent e he,.inl hshape⟩
 | some x =>
   cases x with
   | directory => exact absurd hshape (hu.tree.file e he)
   | file old => exact hmove true ⟨hu.tree.parent e he,.inr ⟨rfl,old,hshape⟩⟩

variable (hok:∀u,Working req start e v u →
 content u (dest req e)=before req start e → Q (.ok ()) u s)
include hok

lemma meets_undoCreate (hkind:e.kind=.create) (hbefore:before req start e=none)
  (hv:TreeOk req start v) :
  Meets P Q (undoCreate env (dest req e)) v s := by
 have hstart:=Working.refl (e:=e) hv
 have hgone:Working req start e v (v.set (dest req e) none) :=
  hstart.set_dest hclear he nofun (.inl hbefore.symm) (.inr (.inr (.inl hkind)))
 have hapart:=hclear.createTempApart e he hkind
 have htemp:=hgone.tree.createTempFile e he hkind
 have hclean:Working req start e v ((v.set (dest req e) none).set
   (inParentCreateTemp (dest req e)) none) :=
  hgone.set_temp hapart htemp nofun (.inl ⟨e,he,hkind⟩)
 refine .bind (meets_deleteIfPresent hprobe (hv.parent e he) (hv.file e he) (hP _ hstart)
  (hP _ hgone) ?_ fun h=>⟨hfault h _ hstart,hfault h _ hgone⟩)
 have hparent:=hgone.tree.parent e he
 rw [← inParentCreateTemp_parent (dest_path_ne_nil hv he)] at hparent
 refine meets_deleteIfPresent hprobe hparent htemp (hP _ hgone) (hP _ hclean) (hok _ hclean ?_)
  fun h=>⟨hfault h _ hgone,hfault h _ hclean⟩
 rw [content_set_other _ _ (hapart e he).symm,content_set_same,hbefore]
 rfl

lemma meets_restoreBefore {row:EntryRow} {journalId:ℕ}
  (hkind:e.kind≠.create) (hbefore:before req start e=some bytes)
  (hrow:row.rollbackObjectDigest=some (env.contentDigest bytes))
  (hcas:s.cas (env.contentDigest bytes)=some bytes)
  (hne:content v (dest req e)≠before req start e) (hv:TreeOk req start v) :
  Meets P Q (restoreBefore env journalId row (dest req e)) v s := by
 have hstart:=Working.refl (e:=e) hv
 have hapart:=hclear.rollbackTempApart e he hkind
 have hfile:=hv.rollbackTempFile e he hkind
 have hwrite:∀b,Working req start e v
   (v.set (rollbackTemp (dest req e)) (some (.file b))) := fun b=>
  hstart.set_temp hapart hfile nofun (.inr ⟨e,he,rfl,.inr hne⟩)
 have hparent:=hv.parent e he
 rw [← rollbackTemp_parent] at hparent
 unfold restoreBefore
 rw [hrow]
 refine .bind (meets_getCasObject (hP _ hstart) hcas ?_)
 refine .bind (meets_writeStagingFile hparent hfile (hP _ hstart)
  (fun b=>hP _ (hwrite b)) ?_ (fun h=>hfault h _ hstart) fun h b=>hfault h _ (hwrite b))
 refine .bind (meets_moveBack hprobe hclear he hP hfault hkind hbefore (hwrite bytes)
  (Tree.set_same _ _ _) fun u hu hdest=>?_)
 refine meets_restoreStoredMeta (hP u hu) (hok u hu ?_) (fun h=>hfault h u hu)
  fun hother=>absurd hdest (hother bytes)
 rw [content_eq_some.mpr hdest,hbefore]

lemma meets_rollbackOne {i:ℕ} {x:EntryState} (hinj:Injective env.contentDigest)
  (hcore:Core env.contentDigest req start v s st) :
  Meets P Q (rollbackOne env req.root start.store.nextJournal
   (planRow env.contentDigest req start e i x)) v s := by
 have hv:=hcore.tree
 have hstart:=Working.refl (e:=e) hv
 have haccept:=hcore.accepted e he
 unfold rollbackOne
 simp only [planRow_dest]
 refine .bind (meets_currentDigest hprobe (hP _ hstart) (hv.file e he)
  (fun h=>hfault h _ hstart) ?_)
 by_cases hbefore : content v (dest req e)=before req start e
 · simp only [Next,hbefore,planRow,if_true]
   exact .pure (hok v hstart hbefore)
 · have hafter:=(hv.settled e he).resolve_left hbefore
   have hother:(after e).map env.contentDigest≠(before req start e).map env.contentDigest := by
    rw [← hafter]
    exact fun h=>hbefore (Option.map_injective hinj h)
   have hrest:e.kind≠.create → Meets P Q (restoreBefore env start.store.nextJournal
     (planRow env.contentDigest req start e i x) (dest req e)) v s := by
    intro hkind
    obtain ⟨b,hb⟩:=haccept.present hkind
    exact meets_restoreBefore hprobe hclear he hP hfault hok hkind hb (by simp [planRow,hb])
     (hcore.beforeKept e he b hb) hbefore hv
   simp only [Next,hafter,planRow_expectedAfter,planRow_expectedBefore,hother,if_false,
    ne_eq,not_true_eq_false,planRow_kind]
   cases hkind : e.kind with
   | create =>
     exact meets_undoCreate hprobe hclear he hP hfault hok hkind (haccept.absent hkind) hv
   | replace | delete => exact hrest (by simp [hkind])

end

variable (hinj:Injective env.contentDigest) (hprobe:Probes env) (hclear:Clear req start)
 (hstaged:Midway env req start state st v s) (hrolled:RolledOk req start v st)
 (hP:∀u s' st',Midway env req start state st' u s' → RolledOk req start u st' → P u s')
include hinj hprobe hclear hstaged hrolled hP

lemma meets_rollbackEntries {Q:Post (List Path)} {st₀:ℕ → EntryState}
  {l:List (PromotionEntry×ℕ)} (hl:∀x∈l,x∈req.entries.zipIdx)
  (hnodup:(l.map Prod.snd).Nodup) (hst:∀x∈l,st₀ x.2=st x.2)
  (hcover:∀x∈req.entries.zipIdx,st x.2=.rolledBack ∨ x∈l)
  (hok:∀u s' st',Midway env req start state st' u s' → AllBefore req start u → Q (.ok []) u s')
  (hfault:Faulty env .rollback → ∀u s' st',Midway env req start state st' u s' →
   RolledOk req start u st' → Q (.error .io) u s') :
  Meets P Q (rollbackEntries env req.root start.store.nextJournal
   (planRows env.contentDigest req start st₀ l)) v s := by
 induction l generalizing v s st with
 | nil =>
   refine .pure (hok v s st hstaged fun e he=>?_)
   obtain ⟨i,hi⟩:=exists_index he
   exact hrolled (e,i) hi ((hcover _ hi).resolve_right nofun)
 | cons x l ih =>
   have hx:=hl x mem_cons_self
   have hl':∀y∈l,y∈req.entries.zipIdx:=fun y hy=>hl y (mem_cons_of_mem _ hy)
   obtain ⟨hfresh,hnodup'⟩:=nodup_cons.mp hnodup
   have hstate:(planRow env.contentDigest req start x.1 x.2 (st₀ x.2)).entryState=st x.2 :=
    hst x mem_cons_self
   simp only [planRows,map_cons,rollbackEntries,hstate]
   by_cases hdone : st x.2=.rolledBack
   · rw [if_pos hdone]
     refine ih hstaged hrolled hl' hnodup' (fun y hy=>hst y (mem_cons_of_mem _ hy))
      fun y hy=>?_
     rcases hcover y hy with hy | hy
     · exact .inl hy
     · rcases mem_cons.mp hy with rfl | hy
       · exact .inl hdone
       · exact .inr hy
   · rw [if_neg hdone]
     refine .bind (.attempt (meets_rollbackOne hprobe hclear (fst_mem_of_mem_zipIdx hx)
      (fun u hu=>?_) (fun h u hu=>?_) (fun u hu hbefore=>?_) hinj hstaged.core))
     · exact hP u s st (hstaged.working hu) (hrolled.working hclear hx hdone hu)
     · exact .throw (hfault h u s st (hstaged.working hu) (hrolled.working hclear hx hdone hu))
     · have hstaged':=(hstaged.working hu).setEntry x.2 .rolledBack
       have hrolled':=hrolled.rolled hclear hx hu hbefore
       refine .bind (meets_updateStore ⟨hP _ _ _ hstaged' hrolled',?_⟩)
       refine ih hstaged' hrolled' hl' hnodup' (fun y hy=>?_) fun y hy=>?_
       · rw [hst y (mem_cons_of_mem _ hy),update_of_ne]
         exact fun heq=>hfresh (heq ▸ mem_map_of_mem hy)
       · by_cases hindex : y.2=x.2
         · exact .inl (by rw [hindex,update_self])
         · rw [update_of_ne hindex]
           refine (hcover y hy).imp_right fun hy=>?_
           exact (mem_cons.mp hy).resolve_left fun heq=>hindex (congrArg Prod.snd heq)

lemma meets_rollbackApplied {Q:Post Unit}
  (hok:∀u s' st',Midway env req start state st' u s' → AllBefore req start u → Q (.ok ()) u s')
  (hfault:Faulty env .rollback → ∀u s' st',Midway env req start state st' u s' →
   RolledOk req start u st' → Q (.error .io) u s') :
  Meets P Q (rollbackApplied env req.root start.store.nextJournal) v s := by
 refine .bind (meets_loadEntries hstaged.core (hP v s st hstaged hrolled) ?_)
 simp only [Next,planRows,← map_reverse]
 refine .bind (meets_rollbackEntries hinj hprobe hclear hstaged hrolled hP
  (fun x hx=>mem_reverse.mp hx) ?_ (fun _ _=>rfl) (fun x hx=>.inr (mem_reverse.mpr hx))
  (fun u s' st' hstaged' hbefore=>?_) hfault)
 · rw [map_reverse,nodup_reverse]
   exact indices_nodup
 · exact .pure (hok u s' st' hstaged' hbefore)

end EpistemicCompiler.PromotionRollback
