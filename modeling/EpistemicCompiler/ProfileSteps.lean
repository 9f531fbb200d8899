import EpistemicCompiler.ProfileStages

set_option autoImplicit false

/-!
# What each stage keeps and what it adds

For every stage of the compiler there is one lemma about the nodes and dependencies that it keeps
and one about those that it can add.
-/
namespace EpistemicCompiler.ProfileSteps
open ProfileCatalog ProfileComposition ProfileCompiler ProfilePlans ProfileStages List
open DependencyGraphs

variable {P:Plan} {a b k:NodeKey}

section Overlays

variable {overlay:RiskOverlay}

def Deferrable (k:NodeKey) : Prop :=
 k=.specConsistency ∨ k=.equivalence

lemma emergencyPlan_node : (emergencyPlan P).node k ↔ P.node k ∧ ¬ Deferrable k := by
 rw [emergencyPlan,drop_node,drop_node,Deferrable,not_or,and_assoc]

lemma emergencyPlan_edge_of (h:P.edge a b) (ha:¬ Deferrable a) (hb:¬ Deferrable b) :
  (emergencyPlan P).edge a b := by
 rw [Deferrable,not_or] at ha hb
 rw [emergencyPlan,DependencyGraph.drop_edge_of_ne _ ha.2 hb.2,
  DependencyGraph.drop_edge_of_ne _ ha.1 hb.1]
 exact h

lemma emergencyPlan_edge (h:(emergencyPlan P).edge a b) : P.edge a b :=
 h.1.1

lemma overlayAux_ne_acceptance : overlayAux overlay≠some .acceptance := by
 cases overlay <;> decide

lemma overlayGate_ne_acceptance : overlayGate overlay≠some .acceptance := by
 cases overlay <;> decide

def overlayAdditions : List NodeKey := [
 .consumerInvestigator,.secondHypothesis,.characterization,.generatorInvestigator,
 .securityReviewer,.architectureReviewer,.migrationDryRun,.rollbackEvidence]

lemma mem_overlayAdditions (h:overlayAux overlay=some k ∨ overlayGate overlay=some k) :
  k∈overlayAdditions := by
 revert h
 cases overlay <;> simp only [overlayAux,overlayGate,Option.some.injEq,reduceCtorEq,or_false,
  false_or,false_implies]
 case publicApi => rintro (rfl | rfl) <;> decide
 all_goals
  rintro rfl
  decide

lemma overlayPlan_node :
  (overlayPlan P overlay).node k ↔ (P.node k ∧ (overlay=.emergency → ¬ Deferrable k)) ∨
   overlayAux overlay=some k ∨ overlayGate overlay=some k := by
 cases overlay <;> simp [overlayPlan,auxPlan,gatePlan,overlayAux,overlayGate,
  emergencyPlan_node,DependencyGraph.insert,DependencyGraph.attach,or_assoc,eq_comm]

lemma auxPlan_node (aux:Option NodeKey) : (auxPlan P aux).node k ↔ P.node k ∨ aux=some k := by
 cases aux <;> simp [auxPlan,DependencyGraph.insert,eq_comm]

lemma auxPlan_edge (aux:Option NodeKey) :
  (auxPlan P aux).edge a b ↔ P.edge a b ∨ (aux=some a ∧ auxDeps P a b) := by
 cases aux with
 | none => simp [auxPlan]
 | some k =>
   simp only [auxPlan,DependencyGraph.insert,Option.some.injEq]
   refine or_congr Iff.rfl ⟨?_,?_⟩
   · rintro ⟨rfl,hb⟩
     exact ⟨rfl,hb⟩
   · rintro ⟨rfl,hb⟩
     exact ⟨rfl,hb⟩

lemma gatePlan_edge (gate:Option NodeKey) :
  (gatePlan P gate).edge a b ↔ P.edge a b ∨
   (gate=some a ∧ P.Inherits .acceptance a (gateFallback a) b) ∨
   (a=.acceptance ∧ P.node .acceptance ∧ gate=some b) := by
 cases gate with
 | none => simp [gatePlan]
 | some g =>
   simp only [gatePlan,DependencyGraph.attach,Option.some.injEq]
   refine or_congr Iff.rfl (or_congr ⟨?_,?_⟩ (by rw [@eq_comm _ b]))
   · rintro ⟨rfl,hb⟩
     exact ⟨rfl,hb⟩
   · rintro ⟨rfl,hb⟩
     exact ⟨rfl,hb⟩

lemma auxPlan_inherits {aux:Option NodeKey} (haux:aux≠some .acceptance)
  (fallback:NodeKey → Prop) :
  (auxPlan P aux).Inherits .acceptance k fallback b ↔
   P.Inherits .acceptance k fallback b := by
 simp [DependencyGraph.Inherits,auxPlan_edge,haux]

lemma overlayPlan_edge_of (h:P.edge a b)
  (hkept:overlay=.emergency → ¬ Deferrable a ∧ ¬ Deferrable b) :
  (overlayPlan P overlay).edge a b := by
 unfold overlayPlan
 rw [gatePlan_edge,auxPlan_edge]
 split
 · rename_i hemergency
   exact .inl (.inl (emergencyPlan_edge_of h (hkept hemergency).1 (hkept hemergency).2))
 · exact .inl (.inl h)

lemma overlayPlan_edge_cases (h:(overlayPlan P overlay).edge a b) :
  P.edge a b ∨ (overlayAux overlay=some a ∧ auxDeps P a b) ∨
   (overlayGate overlay=some a ∧ P.Inherits .acceptance a (gateFallback a) b) ∨
   (a=.acceptance ∧ overlayGate overlay=some b) := by
 by_cases hemergency : overlay=.emergency
 · subst hemergency
   exact .inl (emergencyPlan_edge h)
 · unfold overlayPlan at h
   rw [if_neg hemergency,gatePlan_edge,auxPlan_edge, auxPlan_inherits overlayAux_ne_acceptance] at h
   rcases h with (h | h) | h | ⟨ha,-,hb⟩
   · exact .inl h
   · exact .inr (.inl h)
   · exact .inr (.inr (.inl h))
   · exact .inr (.inr (.inr ⟨ha,hb⟩))

variable (overlay) in
lemma attached_overlayPlan {ks:List NodeKey} (h:P.Attached .acceptance ks)
  (hacceptance:P.node .acceptance) (hks:∀k∈ks,¬ Deferrable k) :
  (overlayPlan P overlay).Attached .acceptance (ks++(overlayGate overlay).toList) := by
 unfold overlayPlan
 have hbase:(if overlay=.emergency then emergencyPlan P else P).node .acceptance := by
  split
  · exact emergencyPlan_node.mpr ⟨hacceptance,by simp [Deferrable]⟩
  · exact hacceptance
 have hkept:(if overlay=.emergency then emergencyPlan P else P).Attached .acceptance ks := by
  split
  · refine h.mono (fun k hk hnode=>emergencyPlan_node.mpr ⟨hnode,hks k hk⟩)
     fun a b ha hb hab=>emergencyPlan_edge_of hab ?_ (hks b hb)
    rcases ha with rfl | ha
    · simp [Deferrable]
    · exact hks a ha
  · exact h
 generalize (if overlay=.emergency then emergencyPlan P else P)=Q at hbase hkept ⊢
 have haux:(auxPlan Q (overlayAux overlay)).Attached .acceptance ks :=
  hkept.mono (fun k _ hnode=>(auxPlan_node _).mpr (.inl hnode))
   fun a b _ _ hab=>(auxPlan_edge _).mpr (.inl hab)
 cases overlayGate overlay with
 | none => simpa [gatePlan] using haux
 | some gate => exact haux.attach ((auxPlan_node _).mpr (.inl hbase)) gate _

end Overlays

section Packs

variable (packs:List VerificationPackId) (adapter:ProjectAdapter)

lemma packPlan_elim {Q:Plan → Prop} (hkept:Q P) (hadded:Resolves packs adapter →
  ¬ P.node .verification → P.node .implementer → Q (P.insert .verification (·=.implementer))) :
  Q (packPlan P packs adapter) := by
 unfold packPlan
 split
 · rename_i h
   exact hadded h.1 h.2.1 h.2.2
 · exact hkept

lemma packPlan_node_of (h:P.node k) : (packPlan P packs adapter).node k :=
 packPlan_elim (Q := (·.node k)) packs adapter h fun _ _ _=>.inl h

lemma packPlan_edge_of (h:P.edge a b) : (packPlan P packs adapter).edge a b :=
 packPlan_elim (Q := (·.edge a b)) packs adapter h fun _ _ _=>.inl h

variable {packs adapter} in
lemma packPlan_edge_cases : (packPlan P packs adapter).edge a b →
  P.edge a b ∨ (a=.verification ∧ b=.implementer) :=
 packPlan_elim (Q := fun P=>P.edge a b → _) packs adapter .inl fun _ _ _ h=>h

end Packs

section Delivery

variable {mode:DeliveryMode}

def RemovesWriters (mode:DeliveryMode) : Prop :=
 mode=.analysisOnly ∨ mode=.runbook

def deliveryGates (mode:DeliveryMode) : List NodeKey :=
 if mode=.mitigationPatch then [.rollbackEvidence] else []

lemma deliveryPlan_elim {Q:Plan → Prop}
  (hremoved:RemovesWriters mode → Q (P.remove fun k=>P.node k ∧ Writes k))
  (hattached:mode=.mitigationPatch → Q (P.attach .acceptance .rollbackEvidence fun b=>
   (b=.recoveryVerification ∨ b=.verification) ∧ P.node b))
  (hkept:¬ RemovesWriters mode → deliveryGates mode=[] → Q P) : Q (deliveryPlan P mode) := by
 cases mode with
 | analysisOnly => exact hremoved (.inl rfl)
 | runbook => exact hremoved (.inr rfl)
 | mitigationPatch => exact hattached rfl
 | _ => exact hkept (by simp [RemovesWriters]) rfl

lemma deliveryPlan_node_of (h:P.node k) (hk:RemovesWriters mode → ¬ Writes k) :
  (deliveryPlan P mode).node k :=
 deliveryPlan_elim (Q := (·.node k)) (fun hmode=>⟨h,fun hgone=>hk hmode hgone.2⟩)
  (fun _=>.inl h) fun _ _=>h

lemma deliveryPlan_edge_of (h:P.edge a b) (ha:RemovesWriters mode → ¬ Writes a)
  (hb:RemovesWriters mode → ¬ Writes b) : (deliveryPlan P mode).edge a b :=
 deliveryPlan_elim (Q := (·.edge a b))
  (fun hmode=>⟨h,fun hgone=>ha hmode hgone.2,fun hgone=>hb hmode hgone.2⟩)
  (fun _=>.inl h) fun _ _=>h

lemma deliveryPlan_edge_cases : (deliveryPlan P mode).edge a b → P.edge a b ∨
  (mode=.mitigationPatch ∧ (a=.rollbackEvidence ∧ P.Inherits .acceptance .rollbackEvidence
    (fun b=>(b=.recoveryVerification ∨ b=.verification) ∧ P.node b) b ∨
   a=.acceptance ∧ b=.rollbackEvidence)) := by
 refine deliveryPlan_elim (Q := fun P=>P.edge a b → _) (fun _ h=>.inl h.1) ?_ fun _ _=>.inl
 rintro hmode (hold | hinherits | ⟨ha,-,hb⟩)
 · exact .inl hold
 · exact .inr ⟨hmode,.inl hinherits⟩
 · exact .inr ⟨hmode,.inr ⟨ha,hb⟩⟩

variable (mode) in
lemma attached_deliveryPlan {ks:List NodeKey} (h:P.Attached .acceptance ks)
  (hacceptance:P.node .acceptance) (hks:∀k∈ks,¬ Writes k) :
  (deliveryPlan P mode).Attached .acceptance (ks++deliveryGates mode) := by
 have hkept:(deliveryPlan P mode).Attached .acceptance ks := by
  refine h.mono (fun k hk hnode=>deliveryPlan_node_of hnode fun _=>hks k hk)
   fun a b ha hb hab=>deliveryPlan_edge_of hab (fun _=>?_) fun _=>hks b hb
  rcases ha with rfl | ha
  · decide
  · exact hks a ha
 cases mode with
 | mitigationPatch => exact h.attach hacceptance _ _
 | _ => exact (append_nil ks).symm ▸ hkept

end Delivery

section Budget

variable {budget:ExecutionBudget}

lemma foldl_drop_edge (ids:List NodeKey) :
  (ids.foldl DependencyGraph.drop P).edge a b ↔
   P.edge a b ∧ a ∉ ids ∧ (b∈ids → ¬ P.node b) := by
 induction ids generalizing P with
 | nil => simp
 | cons id ids ih =>
   have hstep:(P.drop id).edge a b ↔ P.edge a b ∧ a≠id ∧ (b=id → ¬ P.node b) := by
    simp only [DependencyGraph.drop,DependencyGraph.remove]
    have hnode:P.edge a b → P.node a:=P.edge_node
    grind
   rw [foldl_cons,ih,hstep,drop_node]
   grind

lemma fastPlan_node : (fastPlan P).node k ↔
  (P.node k ∧ k ∉ fastRemovals ∧ ¬ Investigates k) ∨ k=.investigator := by
 change ((_ ∧ ¬ (_ ∧ _ ∧ _)) ∨ _) ↔ _
 rw [foldl_drop_node]
 tauto

lemma fastPlan_edge_cases (h:(fastPlan P).edge a b) :
  (P.edge a b ∧ a≠.implementer ∧ (P.node b → b ∉ fastRemovals)) ∨
   (a=.investigator ∧ b=.analyst) ∨ (a=.implementer ∧ b=.investigator) := by
 rcases h with ⟨hne,⟨hedge,-,-⟩ | ⟨ha,hb⟩⟩ | ⟨ha,-,hb⟩
 · obtain ⟨hedge,-,hnode⟩:=(foldl_drop_edge _).mp hedge
   exact .inl ⟨hedge,hne,fun hb hmem=>hnode hmem hb⟩
 · exact .inr (.inl ⟨ha,hb⟩)
 · exact .inr (.inr ⟨ha,hb⟩)

lemma budgetPlan_elim {Q:Plan → Prop} (hfast:budget=.fast → Q (fastPlan P)) (hkept:Q P)
  (hadded:budget=.thorough → P.node .planner → Q (P.insert .planCritic (·=.planner))) :
  Q (budgetPlan P budget) := by
 cases budget with
 | fast => exact hfast rfl
 | standard => exact hkept
 | thorough =>
   simp only [budgetPlan]
   split
   · rename_i h
     exact hadded rfl h.1
   · exact hkept

lemma budgetPlan_node_of (h:P.node k)
  (hk:budget=.fast → k ∉ fastRemovals ∧ ¬ Investigates k) : (budgetPlan P budget).node k :=
 budgetPlan_elim (Q := (·.node k)) (fun hfast=>fastPlan_node.mpr (.inl ⟨h,hk hfast⟩)) h
  fun _ _=>.inl h

lemma budgetPlan_edge_of (h:P.edge a b) (hne:budget=.fast → a≠.implementer)
  (ha:budget=.fast → a ∉ fastRemovals ∧ ¬ Investigates a)
  (hb:budget=.fast → b ∉ fastRemovals ∧ ¬ Investigates b) : (budgetPlan P budget).edge a b := by
 refine budgetPlan_elim (Q := (·.edge a b)) (fun hfast=>?_) h fun _ _=>.inl h
 obtain ⟨hfasta,hinv⟩:=ha hfast
 obtain ⟨hfastb,hinvestigates⟩:=hb hfast
 refine .inl ⟨hne hfast,.inl ⟨?_,fun hgone=>hinv hgone.2.1,
  fun hgone=>hinvestigates hgone.2.1⟩⟩
 exact (foldl_drop_edge _).mpr ⟨h,hfasta,fun hmem=>absurd hmem hfastb⟩

lemma budgetPlan_edge_cases : (budgetPlan P budget).edge a b → P.edge a b ∨
  (a=.investigator ∧ b=.analyst) ∨ (a=.implementer ∧ b=.investigator) ∨
   (a=.planCritic ∧ b=.planner) := by
 refine budgetPlan_elim (Q := fun P=>P.edge a b → _) (fun _ h=>?_) .inl fun _ _ h=>?_
 · rcases fastPlan_edge_cases h with ⟨hold,-⟩ | hnew | hnew
   · exact .inl hold
   · exact .inr (.inl hnew)
   · exact .inr (.inr (.inl hnew))
 · exact h.imp_right fun hnew=>.inr (.inr hnew)

end Budget

section Intents

instance (nodes:List ProfileNode) : DecidablePred (planOfNodes nodes).node :=
 fun k=>inferInstanceAs (Decidable (∃n∈nodes,n.id=k))

instance (nodes:List ProfileNode) : DecidableRel (planOfNodes nodes).edge :=
 fun a b=>inferInstanceAs (Decidable (∃n∈nodes,n.id=a ∧ b∈n.dependsOn))

variable {primary:PrimaryIntent} {secondary:List PrimaryIntent}

lemma intentPlan_node : (intentPlan primary secondary).node k ↔
  (planOfNodes (loadFragment primary)).node k ∨
   ∃intent∈secondary,(planOfNodes (secondaryNodes intent)).node k := by
 unfold intentPlan
 generalize planOfNodes (loadFragment primary)=P
 induction secondary generalizing P with
 | nil => simp
 | cons intent secondary ih => simp [ih,loadPlan_node,or_assoc]

lemma intentPlan_edge : (intentPlan primary secondary).edge a b ↔
  (planOfNodes (loadFragment primary)).edge a b ∨
   ∃intent∈secondary,(planOfNodes (secondaryNodes intent)).edge a b := by
 unfold intentPlan
 generalize planOfNodes (loadFragment primary)=P
 induction secondary generalizing P with
 | nil => simp
 | cons intent secondary ih => simp [ih,loadPlan_edge,or_assoc]

lemma secondary_edge {intent:PrimaryIntent}
  (h:(planOfNodes (secondaryNodes intent)).edge a b) : b=.analyst := by
 obtain ⟨n,hn,-,hb⟩:=h
 revert n
 cases intent <;> simp [secondaryNodes,agentNode,controllerNode]

end Intents

section Compositions

variable {composition:RunComposition} {adapter:ProjectAdapter}

structure Core (P:Plan) : Prop where
 analyst : P.node .analyst
 acceptance : P.node .acceptance
 unsettled : ¬ P.node .investigator

lemma core_intentPlan (primary:PrimaryIntent) (secondary:List PrimaryIntent) :
  Core (intentPlan primary secondary) := by
 have hsecondary:∀intent,¬ (planOfNodes (secondaryNodes intent)).node .investigator := by
  intro intent
  cases intent <;> decide
 constructor
 · refine intentPlan_node.mpr (.inl ?_)
   cases primary <;> decide
 · refine intentPlan_node.mpr (.inl ?_)
   cases primary <;> decide
 · rw [intentPlan_node]
   rintro (h | ⟨intent,-,h⟩)
   · revert h
     cases primary <;> decide
   · exact hsecondary intent h

lemma Core.overlay (h:Core P) (overlay:RiskOverlay) : Core (overlayPlan P overlay) := by
 constructor
 · exact overlayPlan_node.mpr (.inl ⟨h.analyst,fun _=>by simp [Deferrable]⟩)
 · exact overlayPlan_node.mpr (.inl ⟨h.acceptance,fun _=>by simp [Deferrable]⟩)
 · rw [overlayPlan_node]
   rintro (hold | hnew)
   · exact h.unsettled hold.1
   · revert hnew
     cases overlay <;> decide

lemma Core.unsettled_of (h:Core P) (hk:.investigator≠k) :
  ¬ (P.node .investigator ∨ .investigator=k) :=
 not_or.mpr ⟨h.unsettled,hk⟩

lemma Core.pack (h:Core P) (packs:List VerificationPackId) (adapter:ProjectAdapter) :
  Core (packPlan P packs adapter) :=
 packPlan_elim packs adapter h fun _ _ _=>
  ⟨.inl h.analyst,.inl h.acceptance,h.unsettled_of (by decide)⟩

lemma Core.delivery (h:Core P) (mode:DeliveryMode) : Core (deliveryPlan P mode) :=
 ⟨deliveryPlan_node_of h.analyst fun _=>by decide,
  deliveryPlan_node_of h.acceptance fun _=>by decide,
  deliveryPlan_elim (Q := (¬ ·.node .investigator)) (fun _ hnode=>h.unsettled hnode.1)
   (fun _=>h.unsettled_of (by decide)) fun _ _=>h.unsettled⟩

abbrev intendedPlan (composition:RunComposition) : Plan :=
 intentPlan composition.primaryIntent composition.secondaryIntents

def overlaidPlan (composition:RunComposition) : Plan :=
 composition.overlays.foldl overlayPlan
  (intentPlan composition.primaryIntent composition.secondaryIntents)

noncomputable abbrev packedPlan (composition:RunComposition) (adapter:ProjectAdapter) : Plan :=
 packPlan (overlaidPlan composition) composition.verificationPacks adapter

noncomputable def deliveredPlan (composition:RunComposition) (adapter:ProjectAdapter) : Plan :=
 deliveryPlan (packPlan (overlaidPlan composition) composition.verificationPacks adapter)
  composition.deliveryMode

lemma composedPlan_eq :
  composedPlan composition adapter =
   budgetPlan (deliveredPlan composition adapter) composition.executionBudget :=
 rfl

lemma core_overlaidPlan : Core (overlaidPlan composition) :=
 foldlRecOn _ _ (core_intentPlan _ _) fun _ h overlay _=>h.overlay overlay

lemma overlaidPlan_node_of
  (h:(intendedPlan composition).node k)
  (hk:.emergency∈composition.overlays → ¬ Deferrable k) : (overlaidPlan composition).node k :=
 foldlRecOn (motive := fun P : Plan=>P.node k) _ _ h fun _ hnode _ hmem=>
  overlayPlan_node.mpr (.inl ⟨hnode,fun heq=>hk (heq ▸ hmem)⟩)

lemma overlaidPlan_node_cases (h:(overlaidPlan composition).node k) :
  (intendedPlan composition).node k ∨
   ∃overlay∈composition.overlays,
     overlayAux overlay=some k ∨ overlayGate overlay=some k := by
 revert h
 refine foldlRecOn (motive := fun P : Plan=>P.node k → _) _ _ .inl ?_
 intro P ih overlay hmem hnode
 rcases overlayPlan_node.mp hnode with ⟨hold,-⟩ | hnew
 · exact ih hold
 · exact .inr ⟨overlay,hmem,hnew⟩

lemma deliveredPlan_node_cases (h:(deliveredPlan composition adapter).node k) :
  (overlaidPlan composition).node k ∨
   (k=.verification ∧ Resolves composition.verificationPacks adapter ∧
    ¬ (overlaidPlan composition).node .verification ∧
    (overlaidPlan composition).node .implementer) ∨ k=.rollbackEvidence := by
 have hpack:(packedPlan composition adapter).node k ∨ k=.rollbackEvidence :=
  deliveryPlan_elim (Q := fun P=>P.node k → _) (fun _ h=>.inl h.1) (fun _ h=>h)
   (fun _ _=>.inl) h
 rcases hpack with hpack | hgate
 · refine packPlan_elim (Q := fun P=>P.node k → _) _ _ .inl ?_ hpack
   exact fun hresolves hnone himpl hnode=>
    hnode.imp_right fun hnew=>.inl ⟨hnew,hresolves,hnone,himpl⟩
 · exact .inr (.inr hgate)

lemma composedPlan_node_cases (h:(composedPlan composition adapter).node k) :
  (deliveredPlan composition adapter).node k ∨ k=.investigator ∨
   (k=.planCritic ∧ composition.executionBudget=.thorough ∧
    (deliveredPlan composition adapter).node .planner) := by
 refine budgetPlan_elim (Q := fun P=>P.node k → _) (fun _ h=>?_) .inl ?_ (composedPlan_eq ▸ h)
 · exact (fastPlan_node.mp h).imp And.left .inl
 · exact fun hthorough hplan h=>h.imp_right fun hnew=>.inr ⟨hnew,hthorough,hplan⟩

lemma composedPlan_writes (h:(composedPlan composition adapter).node k) (hk:Writes k) :
  (fragmentPlan composition.primaryIntent).node k := by
 have hne:∀k',¬ Writes k' → k≠k' := by
  rintro k' hk' rfl
  exact hk' hk
 rcases composedPlan_node_cases h with h | h | ⟨h,-⟩
 · rcases deliveredPlan_node_cases h with h | ⟨h,-⟩ | h
   · rcases overlaidPlan_node_cases h with h | ⟨overlay,-,h⟩
     · rcases intentPlan_node.mp h with h | ⟨intent,-,n,hn,hid⟩
       · exact h
       · have hall:∀n∈secondaryNodes intent,¬ Writes n.id := by
          cases intent <;> decide
         exact absurd hid.symm (hne _ (hall n hn))
     · have hall:∀x∈overlayAdditions,¬ Writes x := by decide
       exact absurd hk (hall k (mem_overlayAdditions h))
   · exact absurd h (hne _ (by decide))
   · exact absurd h (hne _ (by decide))
 · exact absurd h (hne _ (by decide))
 · exact absurd h (hne _ (by decide))

structure Survives (composition:RunComposition) (k:NodeKey) : Prop where
 overlays : .emergency∈composition.overlays → ¬ Deferrable k
 delivery : RemovesWriters composition.deliveryMode → ¬ Writes k
 budget : composition.executionBudget=.fast → k ∉ fastRemovals ∧ ¬ Investigates k

lemma composedPlan_node_of
  (h:(intendedPlan composition).node k)
  (hk:Survives composition k) : (composedPlan composition adapter).node k :=
 budgetPlan_node_of (deliveryPlan_node_of (packPlan_node_of _ _
  (overlaidPlan_node_of h hk.overlays)) hk.delivery) hk.budget

lemma composedPlan_edge_of
  (h:(intendedPlan composition).edge a b)
  (ha:Survives composition a) (hb:Survives composition b)
  (hne:composition.executionBudget=.fast → a≠.implementer) :
  (composedPlan composition adapter).edge a b := by
 have hover:(overlaidPlan composition).edge a b :=
  foldlRecOn (motive := fun P : Plan=>P.edge a b) _ _ h fun _ hedge _ hmem=>
   overlayPlan_edge_of hedge fun heq=>⟨ha.overlays (heq ▸ hmem),hb.overlays (heq ▸ hmem)⟩
 have hdelivery:(deliveredPlan composition adapter).edge a b :=
  deliveryPlan_edge_of (packPlan_edge_of _ _ hover) ha.delivery hb.delivery
 exact budgetPlan_edge_of hdelivery hne ha.budget hb.budget

structure Lasting (k:NodeKey) : Prop where
 overlays : ¬ Deferrable k
 delivery : ¬ Writes k
 budget : k ∉ fastRemovals ∧ ¬ Investigates k

lemma Lasting.survives (h:Lasting k) : Survives composition k :=
 ⟨fun _=>h.overlays, fun _=>h.delivery, fun _=>h.budget⟩

lemma Lasting.ne_implementer (h:Lasting k) : k≠.implementer := by
 rintro rfl
 exact h.delivery (by decide)

instance (k:NodeKey) : Decidable (Deferrable k) :=
 inferInstanceAs (Decidable (_ ∨ _))

instance (k:NodeKey) : Decidable (Lasting k) :=
 decidable_of_iff (¬ Deferrable k ∧ ¬ Writes k ∧ k ∉ fastRemovals ∧ ¬ Investigates k)
  ⟨fun h=>⟨h.1,h.2.1,h.2.2⟩, fun h=>⟨h.overlays,h.delivery,h.budget⟩⟩

lemma overlayGate_lasting {overlay:RiskOverlay} {gate:NodeKey}
  (h:overlayGate overlay=some gate) : Lasting gate := by
 cases overlay <;> simp only [overlayGate,Option.some.injEq,reduceCtorEq] at h <;> subst h <;>
  decide

def overlayGates (overlays:List RiskOverlay) : List NodeKey :=
 overlays.filterMap overlayGate

lemma attached_foldl (overlays:List RiskOverlay) {ks:List NodeKey}
  (h:P.Attached .acceptance ks) (hacceptance:P.node .acceptance) (hks:∀k∈ks,Lasting k) :
  (overlays.foldl overlayPlan P).Attached .acceptance (ks++overlayGates overlays) := by
 induction overlays generalizing P ks with
 | nil => simpa [overlayGates] using h
 | cons overlay overlays ih =>
   have hstep:=attached_overlayPlan overlay h hacceptance fun k hk=>(hks k hk).overlays
   have hrest:=ih hstep
    (overlayPlan_node.mpr (.inl ⟨hacceptance,fun _=>by simp [Deferrable]⟩)) (by
     intro k hk
     rcases mem_append.mp hk with hk | hk
     · exact hks k hk
     · exact overlayGate_lasting (Option.mem_toList.mp hk))
   cases hgate : overlayGate overlay with
   | none | some => simpa [overlayGates,hgate] using hrest

variable (composition adapter) in
lemma composedPlan_attached {ks:List NodeKey}
  (h:(intendedPlan composition).Attached .acceptance ks)
  (hks:∀k∈ks,Lasting k) :
  (composedPlan composition adapter).Attached .acceptance
   (ks++overlayGates composition.overlays++deliveryGates composition.deliveryMode) := by
 have hover:=attached_foldl composition.overlays h (core_intentPlan _ _).acceptance hks
 have hgates:∀k∈ks++overlayGates composition.overlays,Lasting k := by
  intro k hk
  rcases mem_append.mp hk with hk | hk
  · exact hks k hk
  · obtain ⟨overlay,-,hgate⟩:=mem_filterMap.mp hk
    exact overlayGate_lasting hgate
 have hpack:(packedPlan composition adapter).Attached .acceptance
   (ks++overlayGates composition.overlays) :=
  hover.mono (fun _ _ hnode=>packPlan_node_of _ _ hnode)
   fun _ _ _ _ hedge=>packPlan_edge_of _ _ hedge
 have hdelivery:=attached_deliveryPlan composition.deliveryMode hpack
  (core_overlaidPlan.pack _ _).acceptance fun k hk=>(hgates k hk).delivery
 have hlast:∀k∈ks++overlayGates composition.overlays ++
   deliveryGates composition.deliveryMode,Lasting k := by
  intro k hk
  rcases mem_append.mp hk with hk | hk
  · exact hgates k hk
  · unfold deliveryGates at hk
    split at hk
    · rw [mem_singleton.mp hk]
      decide
    · exact absurd hk not_mem_nil
 refine hdelivery.mono (fun k hk hnode=>budgetPlan_node_of hnode fun _=>(hlast k hk).budget)
  fun a b ha hb hedge=>?_
 have hlasting:Lasting a := by
  rcases ha with rfl | ha
  · decide
  · exact hlast a ha
 exact budgetPlan_edge_of hedge (fun _=>hlasting.ne_implementer) (fun _=>hlasting.budget)
  fun _=>(hlast b hb).budget

end Compositions

end EpistemicCompiler.ProfileSteps
