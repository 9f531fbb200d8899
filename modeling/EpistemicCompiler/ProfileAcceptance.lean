import EpistemicCompiler.ProfileGates

set_option autoImplicit false

/-!
# What acceptance waits for

The work of a fragment lies on one path below acceptance. The path survives unless an emergency
or the fast budget cuts it; the plan critic and the verification of a pack are never on it.
-/
namespace EpistemicCompiler.ProfileAcceptance
open ProfileCatalog ProfileComposition ProfileCompiler ProfilePlans ProfileStages ProfileSteps List
open ProfileChecks ProfileContracts ProfileGates DependencyGraphs FallibleRuns

variable {composition:RunComposition} {contract:TaskContract} {adapter:ProjectAdapter}

variable (intent:PrimaryIntent) (n:ProfileNode) {k:NodeKey}

def reviewerRoles : List AgentRole := [
 .reviewer,.specReviewer,.securityReviewer,.architectureReviewer,.testReviewer,
 .performanceReviewer]

def WatchedKind (kind:NodeKind) : Prop :=
 kind.role=some .implementer ∨ (∃role∈reviewerRoles,kind.role=some role) ∨
  kind.operation=some .verification ∨ kind.operation=some .regressionVerification

instance : DecidablePred WatchedKind :=
 fun _=>inferInstanceAs (Decidable (_ ∨ _ ∨ _ ∨ _))

def Watched : Prop :=
 n.when=none ∧ WatchedKind ⟨n.role,n.operation,n.concurrencyGroup⟩

instance : DecidablePred Watched :=
 fun _=>inferInstanceAs (Decidable (_ ∧ _))

def WatchedKey (k:NodeKey) : Prop :=
 whenOf k=none ∧ WatchedKind (kindOf k)

instance : DecidablePred WatchedKey :=
 fun _=>inferInstanceAs (Decidable (_ ∧ _))

lemma watched_not_investigator {kind:NodeKind} (h:WatchedKind kind)
  (hrole:kind.role=some .investigator) (hoperation:kind.operation=none) : False := by
 rcases h with h | ⟨role,hmem,h⟩ | h | h
 · rw [hrole] at h
   cases h
 · rw [hrole] at h
   cases h
   revert hmem
   decide
 · rw [hoperation] at h
   cases h
 · rw [hoperation] at h
   cases h

lemma watched_iff {n:ProfileNode} (h:Standard n) : Watched n ↔ WatchedKey n.id := by
 unfold Watched WatchedKey
 rw [h.kind]
 by_cases hrole : n.role=some .investigator
 · have hkind:(kindOf n.id).role=some .investigator := by
    rw [← h.kind]
    exact hrole
   have hoperation:(kindOf n.id).operation=none := by
    rw [investigator_kind hkind]
    rfl
   have hnot:¬ WatchedKind (kindOf n.id) :=
    fun hwatch=>watched_not_investigator hwatch hkind hoperation
   simp [hnot]
 · rw [h.condition hrole]

section

def spine : PrimaryIntent → List NodeKey
 | .feature =>
   [.acceptance,.specConsistency,.reviewer,.verification,.integration,.implementer]
 | .bugfix => [.acceptance,.reviewer,.regressionVerification,.implementer]
 | .refactor => [.acceptance,.architectureReviewer,.equivalence,.implementer]
 | .optimization => [.acceptance,.performanceReviewer,.verification,.implementer]
 | .dependencyUpgrade | .buildTooling => [.acceptance,.reviewer,.verification,.implementer]
 | .migration => [.acceptance,.reviewer,.verification,.migrationDryRun,.implementer]
 | .securityRemediation => [.acceptance,.securityReviewer,.verification,.implementer]
 | .incidentResponse => [.acceptance,.postmortemSynthesizer,.recoveryVerification,.implementer]
 | .deprecationRetirement => [.acceptance,.architectureReviewer,.verification,.implementer]
 | .testEngineering => [.acceptance,.testReviewer,.verification,.implementer]
 | .documentation => [.acceptance,.specReviewer,.specAuthor]
 | .specification | .requirements => [.acceptance,.consistencyGate,.specReviewer,.specAuthor]
 | .architectureDesign => [.acceptance,.architectureReviewer,.specAuthor]
 | .research | .diagnosis => [.acceptance]

def SpineStep (a b:NodeKey) : Prop :=
 (planOfNodes (loadFragment intent)).edge a b ∧ a∈spine intent ∧ b∈spine intent ∧ ¬ Writes a

instance (intent:PrimaryIntent) : DecidableRel (SpineStep intent) :=
 fun _ _=>inferInstanceAs (Decidable (_ ∧ _ ∧ _ ∧ _))

lemma spine_isChain : (spine intent).IsChain (SpineStep intent) := by
 cases intent <;> decide

lemma spine_eq : spine intent=.acceptance::(spine intent).tail := by
 cases intent <;> rfl

variable {intent:PrimaryIntent} {k:NodeKey}

lemma fragment_watched (h:(fragmentPlan intent).node k) (hk:WatchedKey k) :
  k∈(spine intent).tail := by
 have hall:∀n∈loadFragment intent,WatchedKey n.id → n.id∈(spine intent).tail := by
  cases intent <;> decide
 obtain ⟨n,hn,rfl⟩:=h
 exact hall n hn hk

lemma spine_node (h:k∈spine intent) : (fragmentPlan intent).node k := by
 have hall:∀k∈spine intent,(fragmentPlan intent).node k := by
  cases intent <;> decide
 exact hall k h

lemma secondary_not_watched
  (h:(planOfNodes (secondaryNodes intent)).node k) : ¬ WatchedKey k := by
 have hall:∀n∈secondaryNodes intent,¬ WatchedKey n.id := by
  cases intent <;> decide
 obtain ⟨n,hn,rfl⟩:=h
 exact hall n hn

lemma reaches_spine (hspine:∀k∈spine composition.primaryIntent,Survives composition k)
  (hk:k∈(spine composition.primaryIntent).tail) :
  (composedPlan composition adapter).close.Reaches .acceptance k := by
 have hstep:∀a b,SpineStep composition.primaryIntent a b →
   (composedPlan composition adapter).close.edge a b := by
  rintro a b ⟨hedge,ha,hb,hwrite⟩
  have hne:a≠.implementer := by
   rintro rfl
   exact hwrite (by decide)
  constructor
  · exact composedPlan_edge_of (intentPlan_edge.mpr (.inl hedge)) (hspine a ha) (hspine b hb)
     fun _=>hne
  · exact composedPlan_node_of (intentPlan_node.mpr (.inl (spine_node hb))) (hspine b hb)
 have hchain:=(spine_isChain composition.primaryIntent).imp hstep
 rw [spine_eq] at hchain
 exact DependencyGraph.reaches_of_isChain hchain k hk

end

section

variable {P:Plan}

def laterTargets : List NodeKey :=
 [.analyst,.reproductionInvestigator,.implementer,.planner,.investigator]++gates

def fallbackTargets : List NodeKey :=
 [.reviewer,.verification,.recoveryVerification,.implementer]

structure Targeted (target:NodeKey → Prop) (P:Plan) : Prop where
 all : ∀a b,P.edge a b → target b
 fallback : (∃d,Lasting d ∧ P.edge .acceptance d) ∨ ∀b∈fallbackTargets,target b

variable {target:NodeKey → Prop} (htarget:∀b∈laterTargets,target b)

lemma gateFallback_target {gate b:NodeKey} (h:gateFallback gate b) : b∈fallbackTargets := by
 unfold gateFallback at h
 split at h
 case h_5 => exact absurd h id
 all_goals
  subst h
  decide

lemma auxDeps_target {b:NodeKey} (h:auxDeps P k b) : b∈laterTargets := by
 unfold auxDeps at h
 split at h
 · rcases h with ⟨-,rfl⟩ | ⟨-,rfl⟩ <;> decide
 · subst h
   decide

lemma Targeted.inherits (h:Targeted target P) {gate b:NodeKey} {fallback:NodeKey → Prop}
  (hfall:∀b,fallback b → b∈fallbackTargets)
  (hb:P.Inherits .acceptance gate fallback b) : target b := by
 rcases hb with ⟨hedge,-⟩ | ⟨hnone,hb⟩
 · exact h.all _ b hedge
 · rcases h.fallback with ⟨d,-,hd⟩ | hall
   · exact absurd hd (hnone d)
   · exact hall b (hfall b hb)

include htarget

lemma Targeted.overlay (h:Targeted target P) (overlay:RiskOverlay) :
  Targeted target (overlayPlan P overlay) := by
 constructor
 · intro a b hedge
   rcases overlayPlan_edge_cases hedge with hold | ⟨-,hdeps⟩ | ⟨-,hinherits⟩ | ⟨-,hgate⟩
   · exact h.all a b hold
   · exact htarget b (auxDeps_target hdeps)
   · exact h.inherits (fun _=>gateFallback_target) hinherits
   · refine htarget b ?_
     revert hgate
     cases overlay <;> simp only [overlayGate,Option.some.injEq,reduceCtorEq,
      false_implies] <;> rintro rfl <;> decide
 · refine h.fallback.imp_left ?_
   rintro ⟨d,hd,hedge⟩
   exact ⟨d,hd,overlayPlan_edge_of hedge fun _=>⟨by decide,hd.overlays⟩⟩

lemma Targeted.pack (h:Targeted target P) (packs:List VerificationPackId)
  (adapter:ProjectAdapter) : Targeted target (packPlan P packs adapter) := by
 constructor
 · intro a b hedge
   rcases packPlan_edge_cases hedge with hold | ⟨-,rfl⟩
   · exact h.all a b hold
   · exact htarget _ (by decide)
 · refine h.fallback.imp_left ?_
   rintro ⟨d,hd,hedge⟩
   exact ⟨d,hd,packPlan_edge_of _ _ hedge⟩

lemma Targeted.delivery (h:Targeted target P) (mode:DeliveryMode) :
  ∀a b,(deliveryPlan P mode).edge a b → target b := by
 intro a b hedge
 rcases deliveryPlan_edge_cases hedge with hold | ⟨-,⟨-,hinherits⟩ | ⟨-,rfl⟩⟩
 · exact h.all a b hold
 · refine h.inherits (fun b hb=>?_) hinherits
   rcases hb.1 with rfl | rfl <;> decide
 · exact htarget _ (by decide)

variable (target) in
lemma composedPlan_target
  (h:Targeted target (intendedPlan composition)) :
  ∀a b,(composedPlan composition adapter).edge a b → target b := by
 have hover:Targeted target (overlaidPlan composition) :=
  foldlRecOn _ _ h fun _ ih overlay _=>ih.overlay htarget overlay
 have hdelivery:=(hover.pack htarget composition.verificationPacks adapter).delivery
  htarget composition.deliveryMode
 intro a b hedge
 rcases budgetPlan_edge_cases hedge with hold | ⟨-,rfl⟩ | ⟨-,rfl⟩ | ⟨-,rfl⟩
 · exact hdelivery a b hold
 all_goals exact htarget _ (by decide)

end

def plannedIntents : List PrimaryIntent := [
 .feature,.bugfix,.refactor,.optimization,.dependencyUpgrade,.migration,
 .securityRemediation,.deprecationRetirement]

def unverifiedIntents : List PrimaryIntent := [.bugfix,.refactor,.incidentResponse]

lemma planner_iff : (fragmentPlan intent).node .planner ↔ intent∈plannedIntents := by
 cases intent <;> decide

lemma unverified_iff :
  ((fragmentPlan intent).node .implementer ∧
    ¬ (fragmentPlan intent).node .verification) ↔ intent∈unverifiedIntents := by
 cases intent <;> decide

lemma spine_not_deferrable {intent:PrimaryIntent} (h:intent ∉ plannedIntents) :
  ∀k∈spine intent,¬ Deferrable k := by
 revert h
 cases intent <;> decide

lemma overlaidPlan_fragment (hk:k=.planner ∨ k=.implementer)
  (h:(overlaidPlan composition).node k) : (fragmentPlan composition.primaryIntent).node k := by
 rcases overlaidPlan_node_cases h with h | ⟨overlay,-,h⟩
 · rcases intentPlan_node.mp h with h | ⟨intent,-,h⟩
   · exact h
   · have hall:∀intent,¬ (planOfNodes (secondaryNodes intent)).node .planner ∧
       ¬ (planOfNodes (secondaryNodes intent)).node .implementer := by
      intro intent
      cases intent <;> decide
     rcases hk with rfl | rfl
     · exact absurd h (hall intent).1
     · exact absurd h (hall intent).2
 · have hmem:=mem_overlayAdditions h
   rcases hk with rfl | rfl <;> exact absurd hmem (by decide)

def ThoroughPlan (contract:TaskContract) : Prop :=
 HighRisk contract ∧ effectiveIntent contract∈plannedIntents

/-- A pack adds a verification when its intent has an implementer and none yet. -/
def PackAddsVerification (contract:TaskContract) (adapter:ProjectAdapter) : Prop :=
 PackSelected contract adapter ∧ effectiveIntent contract∈unverifiedIntents

def FastFeature (contract:TaskContract) : Prop :=
 FastEligible contract ∧ effectiveIntent contract=.feature

lemma highRisk_of_emergency (h:EmergencyRequested contract) : HighRisk contract := by
 rcases h with h | h
 · exact .inl ⟨.emergency,h,by decide⟩
 · exact .inr h

variable (adapter) in
lemma survives_spine (hcritic:¬ ThoroughPlan contract) (hcut:¬ FastFeature contract) :
  ∀k∈spine (effectiveIntent contract),
    Survives (composed contract adapter) k := by
 intro k hk
 constructor
 · intro hmem
   rw [composed_overlays,emergency_mem_contractOverlays] at hmem
   exact spine_not_deferrable (fun hplan=>hcritic ⟨highRisk_of_emergency hmem,hplan⟩) k hk
 · intro hmode
   rcases (composed_removesWriters hmode).2 with hintent | hintent
   · rw [hintent] at hk
     rw [mem_singleton.mp hk]
     decide
   · rw [hintent] at hk
     rw [mem_singleton.mp hk]
     decide
 · intro hbudget
   have hfast:=composed_fast.mp hbudget
   have hintent:effectiveIntent contract=.bugfix :=
    hfast.2.2.2.2.2.resolve_left fun hfeature=>hcut ⟨hfast,hfeature⟩
   have hall:∀k∈spine .bugfix,k ∉ fastRemovals ∧ ¬ Investigates k := by decide
   rw [hintent] at hk
   exact hall k hk

lemma watched_reached (hcritic:¬ ThoroughPlan contract)
  (hpack:¬ PackAddsVerification contract adapter) (hcut:¬ FastFeature contract)
  (h:(composedPlan (composed contract adapter) adapter).node k)
  (hk:WatchedKey k) :
  (composedPlan (composed contract adapter) adapter).close.Reaches
   .acceptance k := by
 have hspine:=survives_spine adapter hcritic hcut
 have hintent:=@composed_primaryIntent contract adapter
 have hpacks:=@composed_resolves contract adapter
 have hthorough:=@composed_thorough contract adapter
 generalize composed contract adapter=composition at *
 rw [← hintent] at hspine
 rcases composedPlan_node_cases h with h' | rfl | ⟨rfl,hbudget,hplanner⟩
 · rcases deliveredPlan_node_cases h' with h' | ⟨rfl,hresolves,hnone,himpl⟩ | rfl
   · rcases overlaidPlan_node_cases h' with h' | ⟨overlay,hmem,haux | hgate⟩
     · rcases intentPlan_node.mp h' with h' | ⟨intent,-,h'⟩
       · exact reaches_spine hspine (fragment_watched h' hk)
       · exact absurd hk (secondary_not_watched h')
     · revert haux
       cases overlay <;> simp only [overlayAux,Option.some.injEq,reduceCtorEq,
        false_implies] <;> rintro rfl <;> exact absurd hk (by decide)
     · have hattached:=composedPlan_attached composition adapter
        DependencyGraph.attached_nil (by simp)
       refine .single ⟨hattached.required k ?_,h⟩
       exact mem_append_left _ (mem_filterMap.mpr ⟨overlay,hmem,hgate⟩)
   · have hfragment:¬ (planOfNodes (loadFragment composition.primaryIntent)).node
       .verification := fun hnode=>
      hnone (overlaidPlan_node_of (intentPlan_node.mpr (.inl hnode)) fun _=>by decide)
     have hunverified:=(unverified_iff _).mp
      ⟨overlaidPlan_fragment (.inr rfl) himpl,hfragment⟩
     rw [hintent] at hunverified
     exact absurd ⟨hpacks.mp hresolves,hunverified⟩ hpack
   · exact absurd hk (by decide)
 · exact absurd hk (by decide)
 · have hover:(overlaidPlan composition).node .planner := by
    rcases deliveredPlan_node_cases hplanner with hnode | ⟨heq,-⟩ | heq
    · exact hnode
    · cases heq
    · cases heq
   have hplan:=(planner_iff _).mp (overlaidPlan_fragment (.inl rfl) hover)
   rw [hintent] at hplan
   exact absurd ⟨hthorough.mp hbudget,hplan⟩ hcritic

lemma not_reaches_of_target {P:Plan} (h:∀a b,P.edge a b → b≠k) :
  ¬ P.close.Reaches .acceptance k := by
 intro hreach
 obtain ⟨a,-,hedge⟩:=Relation.TransGen.tail'_iff.mp hreach
 exact h a k (close_edge hedge) rfl

lemma intentPlan_target {intent:PrimaryIntent} {secondary:List PrimaryIntent}
  {target:NodeKey → Prop} (hanalyst:target .analyst)
  (hfragment:∀n∈loadFragment intent,∀b∈n.dependsOn,target b) :
  ∀a b,(intentPlan intent secondary).edge a b → target b := by
 intro a b hedge
 rcases intentPlan_edge.mp hedge with ⟨n,hn,-,hb⟩ | ⟨other,-,hedge⟩
 · exact hfragment n hn b hb
 · rwa [secondary_edge hedge]

variable (adapter) in
lemma critic_unreached (h:ThoroughPlan contract) :
  (composedPlan (composed contract adapter) adapter).node .planCritic ∧
   ¬ (composedPlan (composed contract adapter) adapter).close.Reaches
     .acceptance .planCritic := by
 have hintent:=@composed_primaryIntent contract adapter
 have hbudget:=(@composed_thorough _ adapter).mpr h.1
 generalize composed contract adapter=composition at *
 constructor
 · have hplanner:(deliveredPlan composition adapter).node .planner := by
    refine deliveryPlan_node_of (packPlan_node_of _ _ (overlaidPlan_node_of (intentPlan_node.mpr
     (.inl ?_)) fun _=>by decide)) fun _=>by decide
    rw [planner_iff,hintent]
    exact h.2
   rw [composedPlan_eq,hbudget]
   by_cases hcritic : (deliveredPlan composition adapter).node .planCritic
   · exact budgetPlan_node_of hcritic fun hfast=>by cases hfast
   · unfold budgetPlan
     rw [if_pos ⟨hplanner,hcritic⟩]
     exact .inr rfl
 · refine not_reaches_of_target (composedPlan_target (·≠.planCritic) (by decide) ?_)
   refine ⟨intentPlan_target (by decide) ?_,.inr (by decide)⟩
   cases composition.primaryIntent <;> decide

lemma pack_unreached (h:PackAddsVerification contract adapter) :
  (composedPlan (composed contract adapter) adapter).node .verification ∧
   ¬ (composedPlan (composed contract adapter) adapter).close.Reaches
     .acceptance .verification := by
 have hintent:=@composed_primaryIntent contract adapter
 have hresolves:=composed_resolves.mpr h.1
 have hunverified:=h.2
 rw [← hintent] at hunverified
 generalize composed contract adapter=composition at *
 constructor
 · have hpack:(packPlan (overlaidPlan composition) composition.verificationPacks adapter).node
     .verification := by
    by_cases hnode : (overlaidPlan composition).node .verification
    · exact packPlan_node_of _ _ hnode
    · have himpl:(overlaidPlan composition).node .implementer :=
       overlaidPlan_node_of (intentPlan_node.mpr (.inl ((unverified_iff _).mpr
        hunverified).1)) fun _=>by decide
      unfold packPlan
      rw [if_pos ⟨hresolves,hnode,himpl⟩]
      exact .inr rfl
   exact budgetPlan_node_of (deliveryPlan_node_of hpack fun _=>by decide) fun _=>by decide
 · refine not_reaches_of_target (composedPlan_target (·≠.verification) (by decide) ?_)
   have hfragment:∀intent∈unverifiedIntents,
     (∀n∈loadFragment intent,∀b∈n.dependsOn,b≠.verification) ∧
     ∃d∈spine intent,Lasting d ∧ (planOfNodes (loadFragment intent)).edge .acceptance d := by
    decide
   obtain ⟨hkept,d,-,hlast,hedge⟩:=hfragment _ hunverified
   exact ⟨intentPlan_target (by decide) hkept,
    .inl ⟨d,hlast,intentPlan_edge.mpr (.inl hedge)⟩⟩

variable (adapter) in
/-- Without overlays a feature has nothing but the check of its spec in front of acceptance. -/
lemma acceptance_cut (h:FastFeature contract) :
  (composedPlan (composed contract adapter) adapter).node .implementer ∧
   ¬ (composedPlan (composed contract adapter) adapter).close.Reaches
     .acceptance .implementer := by
 obtain ⟨hfast,hfeature⟩:=h
 have hnil:contractOverlays contract=[] :=
  contractOverlays_eq_nil.mpr ⟨hfast.2.2.2.1,hfast.2.2.2.2.1⟩
 have hincident:¬ Incident contract := by
  rintro (hincident | ⟨-,hflag⟩)
  · exact hfast.2.2.2.2.1 hincident
  · cases hfast.2.2.2.1 _ hflag
 have hintent:=@composed_primaryIntent contract adapter
 have hoverlays:=@composed_overlays contract adapter
 have hbudget:=(@composed_fast _ adapter).mpr hfast
 have hwriters:=mt (@composed_removesWriters contract adapter) (by simp [hfeature])
 have hmitigation:=mt (@composed_mitigation contract adapter).mp (by simp [hincident,hfeature])
 rw [hfeature] at hintent
 rw [hnil] at hoverlays
 generalize composed contract adapter=composition at *
 have hnode:∀k,(planOfNodes (loadFragment .feature)).node k →
   (deliveredPlan composition adapter).node k := by
  intro k hk
  refine deliveryPlan_node_of (packPlan_node_of _ _ (overlaidPlan_node_of (intentPlan_node.mpr
   (.inl ?_)) ?_)) fun hmode=>absurd hmode hwriters
  · rw [hintent]
    exact hk
  · simp [hoverlays]
 have hsink:∀b,(deliveredPlan composition adapter).edge .acceptance b →
   b=.specConsistency := by
  intro b hedge
  have hpack:=(deliveryPlan_edge_cases hedge).resolve_right fun hnew=>hmitigation hnew.1
  have hover:=(packPlan_edge_cases hpack).resolve_right fun hnew=>
   absurd hnew.1 (by decide)
  unfold overlaidPlan at hover
  rw [hoverlays,hintent,foldl_nil] at hover
  rcases intentPlan_edge.mp hover with ⟨n,hn,hid,hb⟩ | ⟨other,-,hedge⟩
  · have hall:∀n∈loadFragment .feature,n.id=.acceptance → ∀b∈n.dependsOn,
      b=.specConsistency := by decide
    exact hall n hn hid b hb
  · exact absurd rfl (secondary_descends hedge).1
 rw [composedPlan_eq,hbudget]
 constructor
 · exact fastPlan_node.mpr (.inl ⟨hnode _ (by decide),by decide,by decide⟩)
 · intro hreach
   obtain ⟨b,hedge,-⟩:=Relation.TransGen.head'_iff.mp hreach
   rcases fastPlan_edge_cases (close_edge hedge) with ⟨hold,-,hkept⟩ | ⟨heq,-⟩ | ⟨heq,-⟩
   · have hb:=hsink b hold
     subst hb
     exact hkept (hnode _ (by decide)) (by decide)
   · cases heq
   · cases heq

lemma waits_iff_keys {compiled:CompiledProfile}
  (h:Compiled composition adapter compiled) :
  (∀n∈compiled.nodes,Watched n →
   Relation.TransGen (NodeDepends compiled.nodes) .acceptance n.id) ↔
  ∀k,(composedPlan composition adapter).node k → WatchedKey k →
    (composedPlan composition adapter).close.Reaches .acceptance k := by
 have hplan:=h.plan_eq
 change (∀n∈compiled.nodes,Watched n →
  (planOfNodes compiled.nodes).Reaches .acceptance n.id) ↔ _
 rw [hplan]
 constructor
 · intro hwaits k hnode hk
   have hcompiled:(planOfNodes compiled.nodes).node k := by
    rw [hplan]
    exact hnode
   obtain ⟨n,hn,rfl⟩:=hcompiled
   exact hwaits n hn ((watched_iff (h.wellFormed.standard n hn)).mpr hk)
 · intro hwaits n hn hwatch
   have hnode:(planOfNodes compiled.nodes).node n.id:=⟨n,hn,rfl⟩
   rw [hplan] at hnode
   exact hwaits n.id hnode ((watched_iff (h.wellFormed.standard n hn)).mp hwatch)

/-- Acceptance depends on all unconditional work, verification and review, except in three cases. -/
theorem acceptance_waits_iff {r:CompiledProfileResult}
  (h:compileProfileFromContract contract adapter=.ok r) :
  (∀n∈r.compiled.nodes,Watched n →
   Relation.TransGen (NodeDepends r.compiled.nodes) .acceptance n.id) ↔
  ¬ ThoroughPlan contract ∧ ¬ PackAddsVerification contract adapter ∧
    ¬ FastFeature contract := by
 rw [waits_iff_keys (compiled_of_ok h)]
 constructor
 · intro hwaits
   refine ⟨fun hcritic=>?_, fun hpack=>?_, fun hcut=>?_⟩
   · obtain ⟨hnode,hnot⟩:=critic_unreached adapter hcritic
     exact hnot (hwaits _ hnode (by decide))
   · obtain ⟨hnode,hnot⟩:=pack_unreached hpack
     exact hnot (hwaits _ hnode (by decide))
   · obtain ⟨hnode,hnot⟩:=acceptance_cut adapter hcut
     exact hnot (hwaits _ hnode (by decide))
 · rintro ⟨hcritic,hpack,hcut⟩ k hnode hk
   exact watched_reached hcritic hpack hcut hnode hk

def smallFeature : TaskContract :=
 { version:=.v1
   kind:=.feature
   objective:="Add a greeting"
   inScope:=["src/greet.ts"]
   constraints:=[]
   assumptions:=[]
   acceptanceCriteria:=[⟨"It greets",[.test]⟩]
   riskFlags:=[]
   behaviorChanges:=false
   blockingQuestions:=[] }

/-- Acceptance of a small feature depends on nothing at all. -/
theorem fast_feature_acceptance_unguarded :
  ∃r,compileProfileFromContract smallFeature ⟨none⟩=.ok r ∧
    (∃n∈r.compiled.nodes,n.id=.implementer ∧ Watched n) ∧
    ∀k,¬ Relation.TransGen (NodeDepends r.compiled.nodes) .acceptance k := by
 have hchecked:((compileProfileFromContract smallFeature ⟨none⟩).toOption.any fun r=>
   (∃n∈r.compiled.nodes,n.id=.implementer ∧ Watched n) ∧
    ∀n∈r.compiled.nodes,n.id=.acceptance → n.dependsOn=[])=true := by
  decide +kernel
 obtain ⟨r,hr,htest⟩:=exists_ok_of_any hchecked
 obtain ⟨himplementer,hempty⟩:=of_decide_eq_true htest
 refine ⟨r,hr,himplementer,fun k hreaches=>?_⟩
 obtain ⟨b,⟨n,hn,hid,hb⟩,-⟩:=Relation.TransGen.head'_iff.mp hreaches
 rw [hempty n hn hid] at hb
 cases hb

def toolingContract : TaskContract :=
 { smallFeature with version:=.v2 .buildTooling [] none }

theorem acceptance_waits_iff_tooling :
  ∃r,compileProfileFromContract toolingContract ⟨none⟩=.ok r ∧
    ∀n∈r.compiled.nodes,Watched n →
      Relation.TransGen (NodeDepends r.compiled.nodes) .acceptance n.id := by
 have hok:(compileProfileFromContract toolingContract ⟨none⟩).isOk=true := by decide +kernel
 have hintent:effectiveIntent toolingContract=.buildTooling := by decide
 obtain ⟨r,hr⟩:=exists_ok_of_isOk hok
 refine ⟨r,hr,(acceptance_waits_iff hr).mpr ⟨fun h=>?_, fun h=>?_, fun h=>?_⟩⟩
 · exact absurd h.2 (by rw [hintent]; decide)
 · exact absurd h.2 (by rw [hintent]; decide)
 · exact absurd h.2 (by rw [hintent]; decide)

section

variable {graph:GraphState} (provenance:NodeProvenance)

@[simp] lemma addNode_forbidden :
  (addNode graph n provenance).forbiddenActions=graph.forbiddenActions := by
 unfold addNode
 split <;> rfl

@[simp] lemma loadNodes_forbidden (nodes:List ProfileNode) (provenance:NodeProvenance) :
  (loadNodes graph nodes provenance).forbiddenActions=graph.forbiddenActions := by
 induction nodes generalizing graph with
 | nil => rfl
 | cons n nodes ih => exact (@ih (addNode graph n provenance)).trans (addNode_forbidden _ _)

@[simp] lemma attachBeforeAcceptance_forbidden :
  (attachBeforeAcceptance graph n provenance).forbiddenActions=graph.forbiddenActions :=
 addNode_forbidden _ _

@[simp] lemma spliced_forbidden :
  (deferSpecConsistency graph).forbiddenActions=graph.forbiddenActions ∧
   (∀operation,(skipOperation graph operation).forbiddenActions=graph.forbiddenActions) ∧
   ∀id,(removeIfPresent graph id).forbiddenActions=graph.forbiddenActions := by
 unfold deferSpecConsistency skipOperation removeIfPresent
 refine ⟨?_,fun _=>?_,fun _=>?_⟩ <;> split <;> rfl

@[simp] lemma removeWhere_forbidden (unwanted:ProfileNode → Bool) :
  (removeWhere graph unwanted).forbiddenActions=graph.forbiddenActions :=
 foldlRecOn (motive := fun g : GraphState=>g.forbiddenActions=graph.forbiddenActions)
  _ _ rfl fun _ h _ _=>h

lemma mem_forbid {actions:List String} {action:String} :
  action∈(forbid graph actions).forbiddenActions ↔
   action∈graph.forbiddenActions ∨ action∈actions := by
 simp [forbid,mem_unique]

lemma writeLease_applyOverlay (overlay:RiskOverlay) :
  "write-lease"∈(applyOverlay graph overlay).forbiddenActions ↔
   "write-lease"∈graph.forbiddenActions := by
 cases overlay <;> simp [applyOverlay,mem_forbid]

lemma writeLease_attachPackNodes (packs:List VerificationPackId) (adapter:ProjectAdapter) :
  (attachPackNodes graph packs adapter).forbiddenActions=graph.forbiddenActions := by
 unfold attachPackNodes
 split
 · rfl
 · split <;> simp

lemma writeLease_applyDelivery (mode:DeliveryMode) :
  "write-lease"∈(applyDelivery graph mode).forbiddenActions ↔
   "write-lease"∈graph.forbiddenActions ∨ RemovesWriters mode := by
 cases mode <;> simp [applyDelivery,mem_forbid,RemovesWriters]

lemma keepInvestigator_forbidden :
  (keepInvestigator graph).forbiddenActions=graph.forbiddenActions := by
 unfold keepInvestigator
 grind [addNode_forbidden,removeNode]

lemma applyBudget_forbidden (budget:ExecutionBudget) :
  (applyBudget graph budget).forbiddenActions=graph.forbiddenActions := by
 have hdrops:(fastRemovals.foldl removeIfPresent graph).forbiddenActions =
   graph.forbiddenActions :=
  foldlRecOn (motive := fun g : GraphState=>g.forbiddenActions=graph.forbiddenActions)
   _ _ rfl fun _ h _ _=>(spliced_forbidden.2.2 _).trans h
 cases budget with
 | fast => simp only [applyBudget,removeWhere_forbidden,keepInvestigator_forbidden,hdrops]
 | standard => rfl
 | thorough =>
   unfold applyBudget
   simp only
   split <;> simp

lemma writeLease_buildGraph (composition:RunComposition) (adapter:ProjectAdapter) :
  "write-lease"∈(buildGraph composition adapter).forbiddenActions ↔
   RemovesWriters composition.deliveryMode := by
 unfold buildGraph
 simp only [applyBudget_forbidden,writeLease_applyDelivery,writeLease_attachPackNodes]
 refine or_iff_right (fun hmem=>?_)
 have hsecondary:(composition.secondaryIntents.foldl (fun graph secondary=>
   loadNodes graph (secondaryNodes secondary) (.secondary secondary))
   (loadNodes emptyGraph (loadFragment composition.primaryIntent)
    (.intent composition.primaryIntent))).forbiddenActions=[] :=
  foldlRecOn (motive := fun g : GraphState=>g.forbiddenActions=[]) _ _
   (loadNodes_forbidden _ _) fun _ h _ _=>(loadNodes_forbidden _ _).trans h
 have hoverlays:∀overlays : List RiskOverlay,∀graph : GraphState,
   "write-lease"∈(overlays.foldl applyOverlay graph).forbiddenActions →
    "write-lease"∈graph.forbiddenActions := by
  intro overlays
  induction overlays with
  | nil => exact fun _ h=>h
  | cons overlay overlays ih =>
    exact fun graph h=>(writeLease_applyOverlay overlay).mp (ih _ h)
 have hnone:=hoverlays _ _ hmem
 rw [hsecondary] at hnone
 cases hnone

end

lemma composed_removesWriters_iff
  (hintent:effectiveIntent contract=.research ∨ effectiveIntent contract=.diagnosis) :
  RemovesWriters (composed contract adapter).deliveryMode ↔
   ¬ Incident contract := by
 refine ⟨fun h=>(composed_removesWriters h).1, fun h=>?_⟩
 have hurgency:¬ composedUrgency contract (contractOverlays contract)=.incident :=
  mt composedUrgency_incident.mp h
 rw [composed_deliveryMode]
 unfold defaultDeliveryFor
 rw [if_neg hurgency]
 rcases hintent with hintent | hintent
 · rw [hintent]
   exact .inl rfl
 · rw [hintent]
   exact .inl rfl

lemma readOnly_fragment {intent:PrimaryIntent} (h:intent=.research ∨ intent=.diagnosis)
  (hk:(fragmentPlan intent).node k) : ¬ Writes k := by
 have hall:∀intent∈[PrimaryIntent.research,.diagnosis],∀n∈loadFragment intent,
   ¬ Writes n.id := by decide
 obtain ⟨n,hn,rfl⟩:=hk
 exact hall intent (by simpa using h) n hn

/-- Research and diagnosis never write, but the write lease is forbidden outside incidents only. -/
theorem readOnly_profile_iff {r:CompiledProfileResult}
  (h:compileProfileFromContract contract adapter=.ok r)
  (hintent:(composeFromContract contract adapter).composition.primaryIntent=.research ∨
   (composeFromContract contract adapter).composition.primaryIntent=.diagnosis) :
  (∀n∈r.compiled.nodes,n.role≠some .implementer ∧ n.concurrencyGroup≠some .write) ∧
   ("write-lease"∈r.compiled.forbiddenActions ↔ ¬ Incident contract) := by
 have hcompiled:=compiled_of_ok h
 constructor
 · intro n hn
   have hnode:(planOfNodes r.compiled.nodes).node n.id:=⟨n,hn,rfl⟩
   rw [hcompiled.plan_eq] at hnode
   have hwrites:¬ Writes n.id:=fun hwrites=>
    readOnly_fragment hintent (composedPlan_writes hnode hwrites) hwrites
   rw [← writes_iff_write,← (hcompiled.wellFormed.standard n hn).kind,not_or] at hwrites
   exact hwrites
 · rw [hcompiled.forbidden,mem_unique,writeLease_buildGraph,composed_removesWriters_iff]
   rwa [composed_primaryIntent] at hintent

/-- A research task that states itself to be an incident; the contract passes its schema. -/
def incidentResearch : TaskContract :=
 { smallFeature with version:=.v2 .research [] (some .incident), kind:=.research }

theorem incident_research_write_lease :
  ∃r,compileProfileFromContract incidentResearch ⟨none⟩=.ok r ∧
    r.compiled.composition.primaryIntent=.research ∧
    "write-lease" ∉ r.compiled.forbiddenActions := by
 have hchecked:((compileProfileFromContract incidentResearch ⟨none⟩).toOption.any fun r=>
   r.compiled.composition.primaryIntent=.research ∧
    "write-lease" ∉ r.compiled.forbiddenActions)=true := by
  decide +kernel
 obtain ⟨r,hr,htest⟩:=exists_ok_of_any hchecked
 exact ⟨r,hr,of_decide_eq_true htest⟩

theorem readOnly_profile_iff_research :
  ∃r,compileProfileFromContract { incidentResearch with version:=.v1 } ⟨none⟩=.ok r ∧
    "write-lease"∈r.compiled.forbiddenActions := by
 have hok:(compileProfileFromContract { incidentResearch with version:=.v1 } ⟨none⟩).isOk =
   true := by decide +kernel
 obtain ⟨r,hr⟩:=exists_ok_of_isOk hok
 exact ⟨r,hr,(readOnly_profile_iff hr (.inl (by decide))).2.mpr (by decide)⟩

end EpistemicCompiler.ProfileAcceptance
