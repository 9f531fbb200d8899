import EpistemicCompiler.ProfileContracts

set_option autoImplicit false

/-!
# The gates in front of acceptance

A gate takes over what acceptance depends on when it is attached, so gates depend on each other
in the order in which they are attached. A gate that is attached again after another one closes
a cycle; otherwise the compiled plan is ranked.
-/
namespace EpistemicCompiler.ProfileGates
open ProfileCatalog ProfileComposition ProfileCompiler ProfilePlans ProfileStages ProfileSteps
 Option
open ProfileChecks ProfileContracts DependencyGraphs FallibleRuns List

variable {attached:List NodeKey} {k:NodeKey} {done:List NodeKey} {P:Plan}
 {composition:RunComposition} {adapter:ProjectAdapter} {signals:CompileSignals}

section

def gates : List NodeKey := [
 .securityReviewer,.architectureReviewer,.migrationDryRun,.rollbackEvidence]

def late : List NodeKey := [.repairImplementer,.freshReviewer,.acceptance]

def level : NodeKey → ℕ
 | .analyst => 0
 | .rootCauseInvestigator | .secondHypothesis | .similarPatternInvestigator => 2
 | .blastRadiusInvestigator | .characterization => 3
 | .planner => 4
 | .planCritic | .implementer | .specAuthor | .contradictionFinder => 5
 | .integration | .migrationDryRun | .synthesizer | .recoveryVerification
 | .regressionVerification | .equivalence => 6
 | .verification | .specReviewer | .evidenceCompleteness | .postmortemSynthesizer => 7
 | .reviewer | .testReviewer | .performanceReviewer | .consistencyGate => 8
 | .specConsistency => 9
 | .securityReviewer | .architectureReviewer | .rollbackEvidence => 10
 | _ => 1

def rank (attached:List NodeKey) (k:NodeKey) : ℕ :=
 if k∈late then 20+attached.length+late.idxOf k
 else if k∈attached then 20+attached.idxOf k
 else level k

def Descends (a b:NodeKey) : Prop :=
 (a∈late ∧ (b∈late → late.idxOf b<late.idxOf a)) ∨
  (a ∉ late ∧ b ∉ late ∧ b ∉ gates ∧ level b<level a)

instance : DecidableRel Descends :=
 fun _ _=>inferInstanceAs (Decidable ((_ ∧ (_ → _)) ∨ (_ ∧ _ ∧ _ ∧ _)))

variable {a b:NodeKey}

lemma level_lt (k:NodeKey) : level k<20 := by
 cases k <;> decide

lemma rank_of_ordinary (hattached:∀k∈attached,k∈gates) (hlate:k ∉ late)
  (hgate:k ∉ gates) : rank attached k=level k := by
 rw [rank,if_neg hlate,if_neg fun hk=>hgate (hattached k hk)]

lemma rank_of_attached (hlate:k ∉ late) (hk:k∈attached) :
  rank attached k=20+attached.idxOf k := by
 rw [rank,if_neg hlate,if_pos hk]

lemma gate_not_late (h:k∈gates) : k ∉ late := by
 revert h
 cases k <;> decide

variable (attached) in
lemma rank_lt_of_not_late (h:k ∉ late) : rank attached k<20+attached.length := by
 rw [rank,if_neg h]
 split
 · have hlt:=idxOf_lt_length_of_mem ‹k∈attached›
   omega
 · have hlt:=level_lt k
   omega

lemma Descends.rank_lt (h:Descends a b) (hattached:∀k∈attached,k∈gates) :
  rank attached b<rank attached a := by
 rcases h with ⟨ha,hb⟩ | ⟨ha,hb,hgate,hlevel⟩
 · have hrank:rank attached a=20+attached.length+late.idxOf a:=if_pos ha
   by_cases hlate : b∈late
   · have hlt:=hb hlate
     rw [hrank,rank,if_pos hlate]
     omega
   · have hlt:=rank_lt_of_not_late attached hlate
     omega
 · rw [rank_of_ordinary hattached hb hgate,rank,if_neg ha]
   split
   · have hlt:=level_lt b
     omega
   · exact hlevel

end

section

/-- The plan after the gates `done`: acceptance depends on them and on ordinary nodes. -/
structure Ordered (attached done:List NodeKey) (P:Plan) : Prop where
 ranked : DependencyGraph.Ranked (rank attached) P
 sink : ∀b,P.edge .acceptance b → b∈done ∨ rank attached b<20

lemma Ordered.mono (h:Ordered attached done P) {Q:Plan}
  (hsub:∀a b,Q.edge a b → P.edge a b) : Ordered attached done Q :=
 ⟨h.ranked.mono hsub,fun b hb=>h.sink b (hsub _ _ hb)⟩

variable (hattached:∀k∈attached,k∈gates)

include hattached

lemma Ordered.insert (h:Ordered attached done P) {deps:NodeKey → Prop} (hk:k≠.acceptance)
  (hdeps:∀b,deps b → Descends k b) : Ordered attached done (P.insert k deps) := by
 refine ⟨h.ranked.insert fun b hb=>(hdeps b hb).rank_lt hattached, ?_⟩
 rintro b (hb | ⟨heq,-⟩)
 · exact h.sink b hb
 · exact absurd heq.symm hk

omit hattached in
lemma idxOf_lt_of_before {x y:NodeKey} (hconsecutive:∀g k,[g,k,g] <+ attached → g=k)
  (hxy:[x,y] <+ attached) (hne:x≠y) : attached.idxOf x<attached.idxOf y := by
 have hx:x∈attached:=hxy.subset (by simp)
 rcases Nat.lt_or_gt_of_ne fun heq=>hne ((idxOf_inj hx).mp heq) with hlt | hlt
 · exact hlt
 · have hyx:=DependencyGraph.pair_sublist_of_idxOf_lt hx hlt
   rcases DependencyGraph.interleaved_of_both hne hxy hyx with hmix | hmix
   · exact absurd (hconsecutive _ _ hmix) hne
   · exact absurd (hconsecutive _ _ hmix) hne.symm

lemma Ordered.attach (h:Ordered attached done P) {gate:NodeKey}
  (hstart:done++[gate] <+: attached) (hconsecutive:∀g k,[g,k,g] <+ attached → g=k)
  {fallback:NodeKey → Prop} (hfall:∀b,fallback b → b ∉ late ∧ b ∉ gates) :
  Ordered attached (done++[gate]) (P.attach .acceptance gate fallback) := by
 have hmem:gate∈attached:=hstart.subset (by simp)
 have hgate:=hattached gate hmem
 have hrank:=rank_of_attached (gate_not_late hgate) hmem
 have hdescends:Descends .acceptance gate :=
  .inl ⟨by decide,fun hlate=>absurd hlate (gate_not_late hgate)⟩
 have hne:NodeKey.acceptance≠gate := by
  rintro rfl
  exact absurd hgate (by decide)
 constructor
 · refine h.ranked.attach (hdescends.rank_lt hattached) (fun b hb hbne=>?_) fun b hb=>?_
   · rcases h.sink b hb with hdone | hlow
     · have hpair:[b,gate] <+ attached :=
        (DependencyGraph.pair_sublist_concat.mpr (.inr ⟨hdone,rfl⟩)).trans hstart.sublist
       have hb':b∈attached:=hpair.subset (by simp)
       have hlt:=idxOf_lt_of_before hconsecutive hpair hbne
       rw [hrank,rank_of_attached (gate_not_late (hattached b hb')) hb']
       omega
     · omega
   · obtain ⟨hlate,hordinary⟩:=hfall b hb
     have hlt:=level_lt b
     rw [hrank,rank_of_ordinary hattached hlate hordinary]
     omega
 · rintro b (hb | ⟨heq,-⟩ | ⟨-,-,rfl⟩)
   · exact (h.sink b hb).imp_left fun hdone=>mem_append_left _ hdone
   · exact absurd heq hne
   · exact .inl (by simp)

end

section

def intentGates : PrimaryIntent → List NodeKey
 | .securityRemediation => [.securityReviewer]
 | .refactor | .deprecationRetirement | .architectureDesign => [.architectureReviewer]
 | _ => []

variable {intent:PrimaryIntent}

lemma fragment_descends {a b:NodeKey} (h:(fragmentPlan intent).edge a b) : Descends a b ∨
   (intent=.migration ∧ a=.verification ∧ b=.migrationDryRun) := by
 have hall:∀n∈loadFragment intent,∀b∈n.dependsOn,Descends n.id b ∨
   (intent=.migration ∧ n.id=.verification ∧ b=.migrationDryRun) := by
  cases intent <;> decide
 obtain ⟨n,hn,rfl,hb⟩:=h
 exact hall n hn b hb

lemma secondary_descends {a b:NodeKey}
  (h:(planOfNodes (secondaryNodes intent)).edge a b) : a≠.acceptance ∧ Descends a b := by
 have hall:∀n∈secondaryNodes intent,∀b∈n.dependsOn,
   n.id≠.acceptance ∧ Descends n.id b := by
  cases intent <;> decide
 obtain ⟨n,hn,rfl,hb⟩:=h
 exact hall n hn b hb

lemma fragment_acceptance {b:NodeKey} (h:(fragmentPlan intent).edge .acceptance b) :
  b∈intentGates intent ∨ (b ∉ late ∧ b ∉ gates) := by
 have hall:∀n∈loadFragment intent,n.id=.acceptance → ∀b∈n.dependsOn,
   b∈intentGates intent ∨ (b ∉ late ∧ b ∉ gates) := by
  cases intent <;> decide
 obtain ⟨n,hn,hid,hb⟩:=h
 exact hall n hn hid b hb

lemma aux_descends {overlay:RiskOverlay} {b:NodeKey} (hk:overlayAux overlay=some k)
  (hb:auxDeps P k b) : k≠.acceptance ∧ Descends k b := by
 refine ⟨fun heq=>overlayAux_ne_acceptance (heq ▸ hk), ?_⟩
 cases overlay <;> simp only [overlayAux,some.injEq,reduceCtorEq] at hk <;> subst hk
 case concurrency =>
  rcases hb with ⟨-,rfl⟩ | ⟨-,rfl⟩ <;> decide
 all_goals
  subst hb
  decide

lemma gateFallback_ordinary {gate b:NodeKey} (h:gateFallback gate b) :
  b ∉ late ∧ b ∉ gates := by
 unfold gateFallback at h
 split at h
 case h_5 => exact absurd h id
 all_goals
  subst h
  decide

variable (hattached:∀k∈attached,k∈gates)
 (hconsecutive:∀g k,[g,k,g] <+ attached → g=k)

include hattached

lemma ordered_intentPlan (secondary:List PrimaryIntent)
  (hmigration:intent=.migration → .migrationDryRun ∉ attached) :
  Ordered attached (intentGates intent) (intentPlan intent secondary) := by
 constructor
 · intro a b hedge
   rcases intentPlan_edge.mp hedge with hedge | ⟨other,-,hedge⟩
   · rcases fragment_descends hedge with hdescends | ⟨hintent,rfl,rfl⟩
     · exact hdescends.rank_lt hattached
     · rw [rank_of_ordinary hattached (by decide) (by decide:.verification ∉ gates),rank,
        if_neg (by decide),if_neg (hmigration hintent)]
       decide
   · exact (secondary_descends hedge).2.rank_lt hattached
 · intro b hedge
   rcases intentPlan_edge.mp hedge with hedge | ⟨other,-,hedge⟩
   · rcases fragment_acceptance hedge with hgate | ⟨hlate,hgate⟩
     · exact .inl hgate
     · rw [rank_of_ordinary hattached hlate hgate]
       exact .inr (level_lt b)
   · exact absurd rfl (secondary_descends hedge).1

include hconsecutive

lemma Ordered.overlay (h:Ordered attached done P) (overlay:RiskOverlay)
  (hstart:done++(overlayGate overlay).toList <+: attached) :
  Ordered attached (done++(overlayGate overlay).toList) (overlayPlan P overlay) := by
 have hbase:Ordered attached done (if overlay=.emergency then emergencyPlan P else P) := by
  split
  · exact h.mono fun _ _=>emergencyPlan_edge
  · exact h
 unfold overlayPlan
 generalize (if overlay=.emergency then emergencyPlan P else P)=Q at hbase ⊢
 have haux:Ordered attached done (auxPlan Q (overlayAux overlay)) := by
  cases haux : overlayAux overlay with
  | none => exact hbase
  | some k =>
    refine hbase.insert hattached ?_ fun b hb=>(aux_descends haux hb).2
    exact fun heq=>overlayAux_ne_acceptance (heq ▸ haux)
 cases hgate : overlayGate overlay with
 | none =>
   rw [toList_none,append_nil]
   exact haux
 | some gate =>
   rw [hgate,toList_some] at hstart
   exact haux.attach hattached hstart hconsecutive fun b=>gateFallback_ordinary

lemma Ordered.overlays (h:Ordered attached done P) (overlays:List RiskOverlay)
  (hstart:done++overlayGates overlays <+: attached) :
  Ordered attached (done++overlayGates overlays) (overlays.foldl overlayPlan P) := by
 induction overlays generalizing P done with
 | nil =>
   rw [overlayGates,filterMap_nil,append_nil]
   exact h
 | cons overlay overlays ih =>
   have hsplit:overlayGates (overlay::overlays) =
     (overlayGate overlay).toList++overlayGates overlays := by
    cases hgate : overlayGate overlay <;> simp [overlayGates,hgate]
   rw [hsplit,← append_assoc] at hstart ⊢
   exact ih (h.overlay hattached hconsecutive overlay ((prefix_append _ _).trans hstart)) hstart

lemma Ordered.delivery (h:Ordered attached done P) (mode:DeliveryMode)
  (hstart:done++deliveryGates mode <+: attached) :
  Ordered attached (done++deliveryGates mode) (deliveryPlan P mode) := by
 apply deliveryPlan_elim
 · intro hmode
   have hnone:deliveryGates mode=[] := by
    rcases hmode with rfl | rfl <;> rfl
   rw [hnone,append_nil]
   exact h.mono fun _ _ hedge=>hedge.1
 · rintro rfl
   refine h.attach hattached hstart hconsecutive fun b hb=>?_
   rcases hb.1 with rfl | rfl <;> decide
 · intro _ hnone
   rw [hnone,append_nil]
   exact h

omit hconsecutive in
lemma Ordered.pack (h:Ordered attached done P) (packs:List VerificationPackId)
  (adapter:ProjectAdapter) : Ordered attached done (packPlan P packs adapter) := by
 refine packPlan_elim packs adapter h fun _ _ _=>h.insert hattached (by decide) ?_
 rintro b rfl
 decide

omit hconsecutive in
lemma Ordered.budget (h:Ordered attached done P) (budget:ExecutionBudget) :
  DependencyGraph.Ranked (rank attached) (budgetPlan P budget) := by
 intro a b hedge
 rcases budgetPlan_edge_cases hedge with hedge | ⟨rfl,rfl⟩ | ⟨rfl,rfl⟩ | ⟨rfl,rfl⟩
 · exact h.ranked a b hedge
 all_goals exact Descends.rank_lt (by decide) hattached

end

def gateSequence (composition:RunComposition) : List NodeKey :=
 intentGates composition.primaryIntent++overlayGates composition.overlays ++
  deliveryGates composition.deliveryMode

lemma gateSequence_gates : ∀k∈gateSequence composition,k∈gates := by
 intro k hk
 unfold gateSequence at hk
 rw [mem_append,mem_append] at hk
 rcases hk with (hk | hk) | hk
 · revert hk
   unfold intentGates
   split <;> intro hk <;> simp_all [gates]
 · obtain ⟨overlay,-,hgate⟩:=mem_filterMap.mp hk
   revert hgate
   cases overlay <;> simp only [overlayGate,some.injEq,reduceCtorEq,false_implies] <;>
    rintro rfl <;> decide
 · unfold deliveryGates at hk
   split at hk
   · rw [mem_singleton.mp hk]
     decide
   · exact absurd hk not_mem_nil

lemma not_cyclic_of_consecutive (hmigration:composition.primaryIntent=.migration →
   .migrationDryRun ∉ gateSequence composition)
  (hconsecutive:∀g k,[g,k,g] <+ gateSequence composition → g=k) :
  ¬ (composedPlan composition adapter).Cyclic := by
 have hgates:=@gateSequence_gates composition
 have hintents:=ordered_intentPlan hgates composition.secondaryIntents hmigration
 have hoverlay:=hintents.overlays hgates hconsecutive composition.overlays (prefix_append _ _)
 have hpack:=hoverlay.pack hgates composition.verificationPacks adapter
 have hdelivery:=hpack.delivery hgates hconsecutive composition.deliveryMode prefix_rfl
 exact (hdelivery.budget hgates composition.executionBudget).not_cyclic

lemma attached_intentGates (intent:PrimaryIntent) (secondary:List PrimaryIntent) :
  (intentPlan intent secondary).Attached .acceptance (intentGates intent) := by
 have hall:∀gate∈intentGates intent,(fragmentPlan intent).node gate ∧
   (fragmentPlan intent).edge .acceptance gate := by
  cases intent <;> decide
 unfold intentGates at hall ⊢
 split at hall
 case h_5 => exact DependencyGraph.attached_nil
 all_goals
  obtain ⟨hnode,hedge⟩:=hall _ (mem_singleton_self _)
  exact DependencyGraph.attached_singleton (intentPlan_node.mpr (.inl hnode))
   (intentPlan_edge.mpr (.inl hedge))

lemma intentGates_lasting (intent:PrimaryIntent) : ∀k∈intentGates intent,Lasting k := by
 cases intent <;> decide

variable (adapter) in
lemma cyclic_of_interleaved {g:NodeKey} (h:[g,k,g] <+ gateSequence composition)
  (hne:g≠k) : (composedPlan composition adapter).Cyclic := by
 have hattached:=composedPlan_attached _ adapter
  (attached_intentGates composition.primaryIntent composition.secondaryIntents)
  (intentGates_lasting composition.primaryIntent)
 have hgk:[g,k] <+ [g,k,g] := by simp
 have hkg:[k,g] <+ [g,k,g]:=sublist_cons_self g _
 exact ⟨g,.tail (.single (hattached.ordered k g (hkg.trans h) hne.symm))
  (hattached.ordered g k (hgk.trans h) hne)⟩

lemma cyclic_of_migration (hintent:composition.primaryIntent=.migration)
  (hgate:.migrationDryRun∈gateSequence composition) :
  (composedPlan composition adapter).Cyclic := by
 have hfragment:∀a b,(planOfNodes (loadFragment .migration)).edge a b →
   (intendedPlan composition).edge a b := by
  intro a b hedge
  rw [intendedPlan,hintent]
  exact intentPlan_edge.mpr (.inl hedge)
 have hreview:(intendedPlan composition).node
   .reviewer := by
  rw [intendedPlan,hintent]
  exact intentPlan_node.mpr (.inl (by decide))
 have hattached:=composedPlan_attached composition adapter
  (DependencyGraph.attached_singleton hreview (hfragment _ _ (by decide)))
  (by simp; decide)
 have hmem:.migrationDryRun∈overlayGates composition.overlays ++
   deliveryGates composition.deliveryMode := by
  simpa [gateSequence,hintent,intentGates] using hgate
 have hpair:[.reviewer,.migrationDryRun] <+ [.reviewer]++overlayGates composition.overlays ++
   deliveryGates composition.deliveryMode := by
  exact (singleton_sublist.mpr hmem).cons_cons _
 have hkept:∀a b,Lasting a → Lasting b → (planOfNodes (loadFragment .migration)).edge a b →
   (composedPlan composition adapter).edge a b := fun a b ha hb hedge=>
  composedPlan_edge_of (hfragment a b hedge) ha.survives hb.survives fun _=>ha.ne_implementer
 refine ⟨.migrationDryRun,.tail (.tail (.single
  (hattached.ordered _ _ hpair (by decide))) (b := .reviewer) (c := .verification) ?_) ?_⟩
 · exact hkept _ _ (by decide) (by decide) (by decide)
 · exact hkept _ _ (by decide) (by decide) (by decide)

lemma composedPlan_acyclic_iff : ¬ (composedPlan composition adapter).Cyclic ↔
  (composition.primaryIntent=.migration → .migrationDryRun ∉ gateSequence composition) ∧
   ∀g k,[g,k,g] <+ gateSequence composition → g=k := by
 constructor
 · intro hacyclic
   refine ⟨fun hintent hgate=>hacyclic (cyclic_of_migration hintent hgate), fun g k h=>?_⟩
   by_contra hne
   exact hacyclic (cyclic_of_interleaved adapter h hne)
 · rintro ⟨hmigration,hconsecutive⟩
   exact not_cyclic_of_consecutive hmigration hconsecutive

/-- The gate of every overlay is an unconditional node of the compiled profile, with the role or
operation of the gate, and acceptance depends on it. -/
theorem overlay_gates_survive {r:CompiledProfileResult}
  (h:compileRunComposition composition adapter signals=.ok r)
  {overlay:RiskOverlay} (hoverlay:overlay∈composition.overlays) {gate:NodeKey}
  (hgate:overlayGate overlay=some gate) :
  (∃n∈r.compiled.nodes,n.id=gate ∧ n.role=(kindOf gate).role ∧
   n.operation=(kindOf gate).operation ∧ n.when=none) ∧
  NodeDepends r.compiled.nodes .acceptance gate := by
 have hcompiled:=compiled_of_ok h
 have hattached:=composedPlan_attached composition adapter DependencyGraph.attached_nil (by simp)
 have hmem:gate∈[]++overlayGates composition.overlays ++
   deliveryGates composition.deliveryMode := by
  exact mem_append_left _ (mem_filterMap.mpr ⟨overlay,hoverlay,hgate⟩)
 have hnode:=hattached.present gate hmem
 have hedge:=hattached.required gate hmem
 constructor
 · have hcompiledNode:(planOfNodes r.compiled.nodes).node gate := by
    rw [hcompiled.plan_eq]
    exact hnode
   obtain ⟨n,hn,hid⟩:=hcompiledNode
   have hstandard:=hcompiled.wellFormed.standard n hn
   have hkind:=hstandard.kind
   rw [hid] at hkind
   refine ⟨n,hn,hid,congrArg NodeKind.role hkind,congrArg NodeKind.operation hkind,?_⟩
   have hrole:n.role≠some .investigator := by
    have hlasting:=overlayGate_lasting hgate
    intro hrole
    exact hlasting.budget.2 ((congrArg NodeKind.role hkind).symm.trans hrole)
   rw [hstandard.condition hrole,hid]
   cases overlay <;> simp only [overlayGate,some.injEq,reduceCtorEq] at hgate <;>
    subst hgate <;> rfl
 · change (planOfNodes r.compiled.nodes).edge .acceptance gate
   rw [hcompiled.plan_eq]
   exact ⟨hedge,hnode⟩

def gatedComposition : RunComposition :=
 ⟨.bugfix,[],[.securitySensitive,.crossCutting],[],.runbook,.normal,.fast,.corrective,[],
  none⟩

theorem overlay_gates_survive_fast :
  ∃r,compileRunComposition gatedComposition ⟨none⟩ ⟨false,false,false⟩=.ok r ∧
    NodeDepends r.compiled.nodes .acceptance .securityReviewer := by
 have hok:(compileRunComposition gatedComposition ⟨none⟩ ⟨false,false,false⟩).isOk =
   true := by decide
 obtain ⟨r,hr⟩:=exists_ok_of_isOk hok
 have hoverlay:.securitySensitive∈gatedComposition.overlays := by decide
 exact ⟨r,hr,(overlay_gates_survive hr hoverlay rfl).2⟩

section

variable {contract:TaskContract}

/-- The gates that a contract asks for, in the order in which they are attached: that of the
intent, those of the flags when an overlay is first selected, that of an incident. -/
def gateRequests (contract:TaskContract) : List NodeKey :=
 intentGates (effectiveIntent contract)++overlayGates (overlaysFromFlags contract.riskFlags) ++
  if Incident contract ∨ effectiveIntent contract=.incidentResponse then [.rollbackEvidence]
  else []

lemma overlayGates_contractOverlays :
  overlayGates (contractOverlays contract) =
   overlayGates (overlaysFromFlags contract.riskFlags) := by
 rw [contractOverlays_eq,overlayGates,filterMap_append,incidentOverlays]
 split <;> simp [overlayGate,overlayGates]

lemma gateSequence_composed (contract:TaskContract) (adapter:ProjectAdapter) :
  gateSequence (composed contract adapter)=gateRequests contract := by
 rw [gateSequence,gateRequests,composed_primaryIntent,composed_overlays,
  overlayGates_contractOverlays,deliveryGates]
 simp only [composed_mitigation]

/-- Compilation returns exactly when a migration asks for no dry-run gate and no gate is asked
for again after another one. -/
theorem compile_returns_iff_gates_consecutive (contract:TaskContract) (adapter:ProjectAdapter) :
  (∃r,compileProfileFromContract contract adapter=.ok r) ↔
   (effectiveIntent contract=.migration → .migrationDryRun ∉ gateRequests contract) ∧
    ∀g k,[g,k,g] <+ gateRequests contract → g=k := by
 unfold compileProfileFromContract
 rw [compile_returns_iff,composedPlan_acyclic_iff,gateSequence_composed, composed_primaryIntent]

/-- The architecture review is asked for by two overlays, with the security review between. -/
def interleavedContract : TaskContract :=
 { version:=.v1
   kind:=.feature
   objective:="Add login"
   inScope:=[]
   constraints:=[]
   assumptions:=[]
   acceptanceCriteria:=[⟨"It works",[.test]⟩]
   riskFlags:=[.publicApi,.secrets,.multiSubsystem]
   behaviorChanges:=true
   blockingQuestions:=[] }

theorem interleaved_gates_fail :
  compileProfileFromContract interleavedContract ⟨none⟩=.error .cycle := by
 have hmix:[NodeKey.architectureReviewer,.securityReviewer,.architectureReviewer] <+
   gateSequence (composeFromContract interleavedContract ⟨none⟩).composition := by
  decide
 exact compile_error (cyclic_of_interleaved ⟨none⟩ hmix (by decide))

end

end EpistemicCompiler.ProfileGates
