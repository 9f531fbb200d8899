import EpistemicCompiler.ProfileGates

set_option autoImplicit false

/-!
# Overlays in another order

Two overlays commute unless they attach different gates, or one attaches a gate and the other
is an emergency that removes a dependency of acceptance.
-/
namespace EpistemicCompiler.ProfileOrder
open ProfileCatalog ProfileComposition ProfileCompiler ProfilePlans ProfileStages ProfileSteps List
 Option
open ProfileChecks ProfileContracts ProfileGates DependencyGraphs

section

variable {P:Plan} {x y overlay:RiskOverlay} {k:NodeKey}

lemma overlayAux_ne (h:overlayAux overlay=some k) :
  k≠.reproductionInvestigator ∧ k≠.acceptance ∧ ¬ Deferrable k := by
 cases overlay <;> simp only [overlayAux,some.injEq,reduceCtorEq] at h <;> subst h <;>
  decide

lemma overlayGate_ne (h:overlayGate overlay=some k) :
  k≠.reproductionInvestigator ∧ k≠.acceptance ∧ ¬ Deferrable k := by
 cases overlay <;> simp only [overlayGate,some.injEq,reduceCtorEq] at h <;> subst h <;>
  decide

lemma auxDeps_congr {Q:Plan}
  (h:Q.node .reproductionInvestigator ↔ P.node .reproductionInvestigator) :
  auxDeps Q k=auxDeps P k := by
 funext b
 simp only [auxDeps,h]

lemma auxPlan_comm : auxPlan (auxPlan P (overlayAux x)) (overlayAux y) =
  auxPlan (auxPlan P (overlayAux y)) (overlayAux x) := by
 cases hx : overlayAux x with
 | none => rfl
 | some k =>
   cases hy : overlayAux y with
   | none => rfl
   | some l =>
     have hk:auxDeps (auxPlan P (some l)) k=auxDeps P k :=
      auxDeps_congr (by simp [auxPlan_node,(overlayAux_ne hy).1])
     have hl:auxDeps (auxPlan P (some k)) l=auxDeps P l :=
      auxDeps_congr (by simp [auxPlan_node,(overlayAux_ne hx).1])
     change (P.insert k _).insert l _ = (P.insert l _).insert k _
     rw [hk,hl]
     exact P.insert_insert_comm

lemma auxPlan_gatePlan : auxPlan (gatePlan P (overlayGate x)) (overlayAux y) =
  gatePlan (auxPlan P (overlayAux y)) (overlayGate x) := by
 cases hx : overlayGate x with
 | none => rfl
 | some gate =>
   cases hy : overlayAux y with
   | none => rfl
   | some k =>
     have hk:auxDeps (gatePlan P (some gate)) k=auxDeps P k :=
      auxDeps_congr (by simp [gatePlan,DependencyGraph.attach,(overlayGate_ne hx).1.symm])
     change (P.attach .acceptance gate _).insert k _ = (P.insert k _).attach .acceptance gate _
     rw [hk]
     exact (P.insert_attach_comm (overlayAux_ne hy).2.1).symm

lemma gatePlan_comm (h:∀g g',overlayGate x=some g → overlayGate y=some g' → g=g') :
  gatePlan (gatePlan P (overlayGate x)) (overlayGate y) =
   gatePlan (gatePlan P (overlayGate y)) (overlayGate x) := by
 cases hx : overlayGate x with
 | none => rfl
 | some gate =>
   cases hy : overlayGate y with
   | none => rfl
   | some gate' => rw [h gate gate' hx hy]

lemma auxDeps_not_deferrable {b:NodeKey} (h:auxDeps P k b) : ¬ Deferrable b := by
 unfold auxDeps at h
 split at h
 · rcases h with ⟨-,rfl⟩ | ⟨-,rfl⟩ <;> decide
 · subst h
   decide

lemma gateFallback_not_deferrable {b:NodeKey} (h:gateFallback k b) : ¬ Deferrable b := by
 unfold gateFallback at h
 split at h
 case h_5 => exact absurd h id
 all_goals
  subst h
  decide

lemma emergencyPlan_auxPlan : emergencyPlan (auxPlan P (overlayAux y)) =
  auxPlan (emergencyPlan P) (overlayAux y) := by
 cases hy : overlayAux y with
 | none => rfl
 | some k =>
   have hk:auxDeps (emergencyPlan P) k=auxDeps P k :=
    auxDeps_congr (by simp [emergencyPlan_node,Deferrable])
   obtain ⟨hspec,hequiv⟩:=not_or.mp (overlayAux_ne hy).2.2
   change ((P.insert k _).drop _).drop _ = ((P.drop _).drop _).insert k _
   rw [hk,P.insert_drop_comm hspec fun hb=>auxDeps_not_deferrable hb (.inl rfl),
    DependencyGraph.insert_drop_comm _ hequiv fun hb=>auxDeps_not_deferrable hb (.inr rfl)]

lemma emergencyPlan_gatePlan
  (h:overlayGate y≠none → ∀d,Deferrable d → ¬ P.edge .acceptance d) :
  emergencyPlan (gatePlan P (overlayGate y))=gatePlan (emergencyPlan P) (overlayGate y) := by
 cases hy : overlayGate y with
 | none => rfl
 | some gate =>
   have hnone:=h (by simp [hy])
   obtain ⟨hspec,hequiv⟩:=not_or.mp (overlayGate_ne hy).2.2
   have hdrop:¬ (P.drop .specConsistency).edge .acceptance .equivalence :=
    fun hedge=>hnone _ (.inr rfl) hedge.1
   change ((P.attach _ gate _).drop _).drop _ = ((P.drop _).drop _).attach _ gate _
   rw [P.attach_drop_comm hspec (by decide) (hnone _ (.inl rfl))
       fun hb=>gateFallback_not_deferrable hb (.inl rfl),
    (P.drop .specConsistency).attach_drop_comm hequiv (by decide) hdrop
     fun hb=>gateFallback_not_deferrable hb (.inr rfl)]

lemma overlayPlan_of_ne (h:x≠.emergency) :
  overlayPlan P x=gatePlan (auxPlan P (overlayAux x)) (overlayGate x) := by
 rw [overlayPlan,if_neg h]

lemma emergency_overlayPlan_comm (hy:y≠.emergency)
  (h:overlayGate y≠none → ∀d,Deferrable d → ¬ P.edge .acceptance d) :
  overlayPlan (overlayPlan P .emergency) y=overlayPlan (overlayPlan P y) .emergency := by
 have hsink:overlayGate y≠none →
   ∀d,Deferrable d → ¬ (auxPlan P (overlayAux y)).edge .acceptance d := by
  intro hgate d hd hedge
  rcases (auxPlan_edge _).mp hedge with hold | ⟨haux,-⟩
  · exact h hgate d hd hold
  · exact overlayAux_ne_acceptance haux
 change overlayPlan (emergencyPlan P) y=emergencyPlan (overlayPlan P y)
 rw [overlayPlan_of_ne hy,overlayPlan_of_ne hy,emergencyPlan_gatePlan hsink, emergencyPlan_auxPlan]

lemma overlayPlan_comm
  (hgates:∀g g',overlayGate x=some g → overlayGate y=some g' → g=g')
  (hx:x=.emergency → overlayGate y≠none → ∀d,Deferrable d → ¬ P.edge .acceptance d)
  (hy:y=.emergency → overlayGate x≠none → ∀d,Deferrable d → ¬ P.edge .acceptance d) :
  overlayPlan (overlayPlan P x) y=overlayPlan (overlayPlan P y) x := by
 by_cases hxe : x=.emergency
 · subst hxe
   by_cases hye : y=.emergency
   · rw [hye]
   · exact emergency_overlayPlan_comm hye (hx rfl)
 · by_cases hye : y=.emergency
   · subst hye
     exact (emergency_overlayPlan_comm hxe (hy rfl)).symm
   · rw [overlayPlan_of_ne hxe,overlayPlan_of_ne hye,overlayPlan_of_ne hye,
      overlayPlan_of_ne hxe,auxPlan_gatePlan,auxPlan_gatePlan,auxPlan_comm,
      gatePlan_comm hgates]

end

def flagGate : RiskFlag → Option NodeKey
 | .auth | .secrets | .crypto | .payment => some .securityReviewer
 | .publicApi | .multiSubsystem => some .architectureReviewer
 | .migration | .dataMutation => some .migrationDryRun
 | .productionImpact => some .rollbackEvidence
 | _ => none

def RequestsGate (contract:TaskContract) (gate:NodeKey) : Prop :=
 ∃flag∈contract.riskFlags,flagGate flag=some gate

lemma filterMap_flagOverlays (flag:RiskFlag) :
  (flagOverlays flag).filterMap overlayGate=(flagGate flag).toList := by
 cases flag <;> rfl

lemma mem_overlayGates {flags:List RiskFlag} {gate:NodeKey} :
  gate∈overlayGates (overlaysFromFlags flags) ↔ ∃flag∈flags,flagGate flag=some gate := by
 unfold overlayGates
 rw [mem_filterMap]
 simp only [mem_overlaysFromFlags]
 constructor
 · rintro ⟨overlay,⟨flag,hflag,hover⟩,hgate⟩
   refine ⟨flag,hflag,?_⟩
   have hmem:=mem_filterMap.mpr ⟨overlay,hover,hgate⟩
   rw [filterMap_flagOverlays] at hmem
   exact mem_toList.mp hmem
 · rintro ⟨flag,hflag,hgate⟩
   have hmem:gate∈(flagOverlays flag).filterMap overlayGate := by
    rw [filterMap_flagOverlays]
    exact mem_toList.mpr hgate
   obtain ⟨overlay,hover,hgate⟩:=mem_filterMap.mp hmem
   exact ⟨overlay,⟨flag,hflag,hover⟩,hgate⟩

lemma requestsGate_of_overlay {contract:TaskContract} {overlay:RiskOverlay} {gate:NodeKey}
  (hover:overlay∈overlaysFromFlags contract.riskFlags)
  (hgate:overlayGate overlay=some gate) : RequestsGate contract gate :=
 mem_overlayGates.mp (mem_filterMap.mpr ⟨overlay,hover,hgate⟩)

section

variable {contract:TaskContract} {adapter:ProjectAdapter} {flags:List RiskFlag}

def withFlags (contract:TaskContract) (flags:List RiskFlag) : TaskContract :=
 { contract with riskFlags:=flags }

variable (hflags:flags.Perm contract.riskFlags)

include hflags

lemma emergencyRequested_withFlags :
  EmergencyRequested (withFlags contract flags) ↔ EmergencyRequested contract :=
 or_congr hflags.mem_iff Iff.rfl

lemma effectiveIntent_withFlags :
  effectiveIntent (withFlags contract flags)=effectiveIntent contract := by
 unfold effectiveIntent
 simp only [emergencyRequested_withFlags hflags]
 rfl

lemma overlaysFromFlags_perm :
  (overlaysFromFlags flags).Perm (overlaysFromFlags contract.riskFlags) := by
 refine (perm_ext_iff_of_nodup (unique_nodup _) (unique_nodup _)).mpr fun overlay=>?_
 change overlay∈overlaysFromFlags flags ↔ overlay∈overlaysFromFlags contract.riskFlags
 simp only [mem_overlaysFromFlags,hflags.mem_iff]

lemma incidentOverlays_withFlags :
  incidentOverlays (withFlags contract flags)=incidentOverlays contract := by
 have hmem:.emergency∈(withFlags contract flags).riskFlags ↔
   .emergency∈contract.riskFlags := hflags.mem_iff
 unfold incidentOverlays
 simp only [hmem]
 rfl

lemma contractOverlays_perm :
  (contractOverlays (withFlags contract flags)).Perm (contractOverlays contract) := by
 rw [contractOverlays_eq,contractOverlays_eq,incidentOverlays_withFlags hflags]
 exact (overlaysFromFlags_perm hflags).append_right _

lemma composedUrgency_withFlags :
  composedUrgency (withFlags contract flags) (contractOverlays (withFlags contract flags)) =
   composedUrgency contract (contractOverlays contract) := by
 unfold composedUrgency
 simp only [(contractOverlays_perm hflags).mem_iff]
 rfl

lemma composed_budget_withFlags :
  (composed (withFlags contract flags) adapter).executionBudget =
   (composed contract adapter).executionBudget := by
 have hperm:=contractOverlays_perm hflags
 rw [composed_budget,composed_budget,effectiveIntent_withFlags hflags]
 unfold executionBudgetFor
 rw [hperm.length_eq,hperm.any_eq]
 rfl

lemma composed_packs_withFlags :
  (composed (withFlags contract flags) adapter).verificationPacks =
   (composed contract adapter).verificationPacks := by
 have hrules:packRules (withFlags contract flags) (contractOverlays (withFlags contract flags)) =
   packRules contract (contractOverlays contract) := by
  unfold packRules
  simp only [(contractOverlays_perm hflags).contains_eq]
  rfl
 change packsForContract _ _ (contractOverlays (withFlags contract flags)) =
  packsForContract _ _ (contractOverlays contract)
 unfold packsForContract
 rw [hrules]

lemma composedPlan_withFlags
  (hoverlay:overlaidPlan (composed (withFlags contract flags) adapter) =
   overlaidPlan (composed contract adapter)) :
  composedPlan (composed (withFlags contract flags) adapter) adapter =
   composedPlan (composed contract adapter) adapter := by
 rw [composedPlan_eq,composedPlan_eq,deliveredPlan,deliveredPlan,hoverlay,
  composed_packs_withFlags hflags,composed_budget_withFlags hflags,composed_deliveryMode,
  composed_deliveryMode,effectiveIntent_withFlags hflags,composedUrgency_withFlags hflags]

omit hflags in
lemma overlaidPlan_contract (contract:TaskContract) (adapter:ProjectAdapter) :
  overlaidPlan (composed contract adapter) =
   (incidentOverlays contract).foldl overlayPlan
    ((overlaysFromFlags contract.riskFlags).foldl overlayPlan
      (intentPlan (effectiveIntent contract)
       ((effectiveSecondary contract).filter (·≠effectiveIntent contract)))) := by
 rw [overlaidPlan,composed_overlays,contractOverlays_eq,foldl_append,
  composed_primaryIntent,composed_secondaryIntents]

omit hflags in
lemma fragment_deferrable {intent:PrimaryIntent} (hintent:intent≠.feature)
  {secondary:List PrimaryIntent} {d:NodeKey} (hd:Deferrable d) :
  ¬ (intentPlan intent secondary).edge .acceptance d := by
 have hall:∀n∈loadFragment intent,n.id=.acceptance → ∀b∈n.dependsOn,¬ Deferrable b := by
  revert hintent
  cases intent <;> decide
 intro hedge
 rcases intentPlan_edge.mp hedge with ⟨n,hn,hid,hb⟩ | ⟨other,-,hedge⟩
 · exact hall n hn hid d hb hd
 · exact absurd rfl (secondary_descends hedge).1

/-- With one gate at most, the flags may come in any order, unless an emergency takes away what
a feature waits for. -/
lemma overlaidPlan_perm
  (hgates:∀g g',RequestsGate contract g → RequestsGate contract g' → g=g')
  (hemergency:.emergency∈contract.riskFlags → (∃g,RequestsGate contract g) →
   effectiveIntent contract≠.feature) :
  overlaidPlan (composed (withFlags contract flags) adapter) =
   overlaidPlan (composed contract adapter) := by
 rw [overlaidPlan_contract,overlaidPlan_contract,incidentOverlays_withFlags hflags,
  effectiveIntent_withFlags hflags]
 congr 1
 symm
 refine foldl_perm (I := fun P : Plan=>.emergency∈contract.riskFlags →
  (∃g,RequestsGate contract g) → ∀d,Deferrable d → ¬ P.edge .acceptance d)
  (overlaysFromFlags_perm hflags).symm ?_ ?_ ?_
 · intro overlay _ P hP hflag hreq d hd hedge
   rcases overlayPlan_edge_cases hedge with hold | ⟨haux,-⟩ | ⟨hgate,-⟩ | ⟨-,hgate⟩
   · exact hP hflag hreq d hd hold
   · exact overlayAux_ne_acceptance haux
   · exact overlayGate_ne_acceptance hgate
   · exact (overlayGate_ne hgate).2.2 hd
 · intro x hx y hy P hP
   have hreq:∀z∈overlaysFromFlags contract.riskFlags,overlayGate z≠none →
     ∃g,RequestsGate contract g := by
    intro z hz hne
    obtain ⟨g,hg⟩:=ne_none_iff_exists'.mp hne
    exact ⟨g,requestsGate_of_overlay hz hg⟩
   refine overlayPlan_comm (fun g g' hg hg'=>hgates g g' (requestsGate_of_overlay hx hg)
    (requestsGate_of_overlay hy hg')) ?_ ?_
   · rintro rfl hne
     exact hP (emergency_mem_overlaysFromFlags.mp hx) (hreq y hy hne)
   · rintro rfl hne
     exact hP (emergency_mem_overlaysFromFlags.mp hy) (hreq x hx hne)
 · intro hflag hreq d hd
   exact fragment_deferrable (hemergency hflag hreq) hd

end

end EpistemicCompiler.ProfileOrder
