import EpistemicCompiler.ProfileOrder

set_option autoImplicit false

/-!
# When the order of the risk flags matters

Two different gates depend on each other in the order in which the flags ask for them, and the gate
of a feature keeps what acceptance waits for only if it is attached after the emergency.
-/
namespace EpistemicCompiler.ProfileReordering
open ProfileCatalog ProfileComposition ProfileCompiler ProfilePlans ProfileStages ProfileSteps List
open ProfileChecks ProfileContracts ProfileGates ProfileOrder DependencyGraphs
open List (Perm Pairwise Sublist)

variable {adapter:ProjectAdapter} {contract:TaskContract} {flags:List RiskFlag}
 {g k:NodeKey} {P:Plan} {b:NodeKey}

section Agreement

/-- Both compilations fail, or both return profiles with the same nodes and the same transitive
dependencies. -/
def SameProfile : Except CompileError CompiledProfileResult →
    Except CompileError CompiledProfileResult → Prop
 | .ok r, .ok r' =>
   (∀k,k∈r.compiled.nodes.map (·.id) ↔ k∈r'.compiled.nodes.map (·.id)) ∧
    ∀a b,Relation.TransGen (NodeDepends r.compiled.nodes) a b ↔
      Relation.TransGen (NodeDepends r'.compiled.nodes) a b
 | .error _, .error _ => True
 | _, _ => False

lemma SameProfile.symm {x y:Except CompileError CompiledProfileResult}
  (h:SameProfile x y) : SameProfile y x := by
 cases x <;> cases y
 · exact h
 · exact h
 · exact h
 · exact ⟨fun k=>(h.1 k).symm, fun a b=>(h.2 a b).symm⟩

lemma SameProfile.trans {x y z:Except CompileError CompiledProfileResult}
  (h:SameProfile x y) (h':SameProfile y z) : SameProfile x z := by
 cases x <;> cases y <;> cases z
 case ok.ok.ok =>
  exact ⟨fun k=>(h.1 k).trans (h'.1 k), fun a b=>(h.2 a b).trans (h'.2 a b)⟩
 all_goals first | exact h | exact h' | exact h.elim

variable {composition composition':RunComposition} {signals signals':CompileSignals}

lemma sameProfile_of_plan
  (h:composedPlan composition adapter=composedPlan composition' adapter) :
  SameProfile (compileRunComposition composition adapter signals)
   (compileRunComposition composition' adapter signals') := by
 by_cases hcycle : (composedPlan composition adapter).Cyclic
 · rw [compile_error hcycle,compile_error (h ▸ hcycle)]
   trivial
 · obtain ⟨r,hr,hcompiled⟩:=compile_ok signals hcycle
   obtain ⟨r',hr',hcompiled'⟩:=compile_ok signals' (h ▸ hcycle)
   have hplan:planOfNodes r.compiled.nodes=planOfNodes r'.compiled.nodes := by
    rw [hcompiled.plan_eq,hcompiled'.plan_eq,h]
   rw [hr,hr']
   constructor
   · intro k
     rw [mem_ids_iff,mem_ids_iff,hplan]
   · intro a b
     change (planOfNodes r.compiled.nodes).Reaches a b ↔ (planOfNodes r'.compiled.nodes).Reaches a b
     rw [hplan]

lemma SameProfile.plans (h:SameProfile (compileRunComposition composition adapter signals)
   (compileRunComposition composition' adapter signals'))
  (hacyclic:¬ (composedPlan composition adapter).Cyclic) {a:NodeKey} :
  (composedPlan composition adapter).close.Reaches a b ↔
   (composedPlan composition' adapter).close.Reaches a b := by
 obtain ⟨r,hr,hcompiled⟩:=compile_ok signals hacyclic
 rw [hr] at h
 cases hr' : compileRunComposition composition' adapter signals' with
 | error e =>
   rw [hr'] at h
   exact h.elim
 | ok r' =>
   rw [hr'] at h
   have hsame:=h.2 a b
   change (planOfNodes r.compiled.nodes).Reaches a b ↔
    (planOfNodes r'.compiled.nodes).Reaches a b at hsame
   rwa [hcompiled.plan_eq,(compiled_of_ok hr').plan_eq] at hsame

end Agreement

section Sorting

variable {intent:PrimaryIntent}

def gateKey (intent:PrimaryIntent) (gate:NodeKey) : ℕ :=
 if gate∈intentGates intent then 1
 else match gate with
  | .securityReviewer => 2
  | .architectureReviewer => 3
  | .migrationDryRun => 4
  | _ => 5

abbrev KeyLe (intent:PrimaryIntent) (g k:NodeKey) : Prop :=
 gateKey intent g ≤ gateKey intent k

def flagKey (intent:PrimaryIntent) (flag:RiskFlag) : ℕ :=
 ((flagGate flag).map (gateKey intent)).getD 0

lemma gateKey_injective :
  ∀g∈gates,∀k∈gates,gateKey intent g=gateKey intent k → g=k := by
 cases intent <;> decide

lemma gateKey_pos : ∀g∈gates,1 ≤ gateKey intent g := by
 cases intent <;> decide

lemma gateKey_le_rollback :
  ∀g∈gates,gateKey intent g ≤ gateKey intent .rollbackEvidence := by
 cases intent <;> decide

lemma gateRequests_gates : ∀k∈gateRequests contract,k∈gates := by
 rw [← gateSequence_composed contract ⟨none⟩]
 exact gateSequence_gates

/-- Gates that are asked for in the order of their keys are not interleaved. -/
lemma consecutive_of_sorted (h:(gateRequests contract).Pairwise (KeyLe intent)) :
  ∀g k,[g,k,g].Sublist (gateRequests contract) → g=k := by
 intro g k hmix
 have hg:=gateRequests_gates g (hmix.subset (by simp))
 have hk:=gateRequests_gates k (hmix.subset (by simp))
 have hsort:=h.sublist hmix
 simp only [pairwise_cons,mem_cons] at hsort
 exact gateKey_injective g hg k hk
  (le_antisymm (hsort.1 k (.inl rfl)) (hsort.2.1 g (.inl rfl)))

lemma overlayGates_sublist (flags:List RiskFlag) :
  (overlayGates (overlaysFromFlags flags)).Sublist (flags.filterMap flagGate) := by
 have hgates:(flags.flatMap flagOverlays).filterMap overlayGate=flags.filterMap flagGate := by
  rw [filterMap_flatMap]
  simp only [filterMap_flagOverlays]
  induction flags with
  | nil => rfl
  | cons flag flags ih =>
    rw [flatMap_cons,ih]
    cases hgate : flagGate flag <;> simp [hgate]
 rw [← hgates]
 exact (unique_sublist _).filterMap overlayGate

lemma gateRequests_sorted (hflags:(overlayGates (overlaysFromFlags contract.riskFlags)).Pairwise
   fun g k=>gateKey (effectiveIntent contract) g ≤ gateKey (effectiveIntent contract) k) :
  (gateRequests contract).Pairwise
   fun g k=>gateKey (effectiveIntent contract) g ≤ gateKey (effectiveIntent contract) k := by
 have hgates:=@gateRequests_gates contract
 unfold gateRequests at hgates ⊢
 have hintent:∀intent,(intentGates intent).Pairwise
   (fun g k=>gateKey intent g ≤ gateKey intent k) ∧
    ∀g∈intentGates intent,gateKey intent g=1 := by
  intro intent
  cases intent <;> decide
 refine pairwise_append.mpr ⟨pairwise_append.mpr ⟨(hintent _).1,hflags,?_⟩,?_,?_⟩
 · intro g hg k hk
   rw [(hintent _).2 g hg]
   exact gateKey_pos k (hgates k (by simp [hk]))
 · split <;> simp
 · intro g hg k hk
   split at hk
   · rw [mem_singleton.mp hk]
     exact gateKey_le_rollback g (hgates g (mem_append_left _ hg))
   · exact absurd hk not_mem_nil

lemma filterMap_flagGate_sorted
  (h:flags.Pairwise fun f f'=>flagKey intent f ≤ flagKey intent f') :
  (flags.filterMap flagGate).Pairwise (KeyLe intent) := by
 refine h.filterMap _ fun f f' hle g hg k hk=>?_
 simpa [flagKey,hg,hk] using hle

def sortedFlags (intent:PrimaryIntent) (flags:List RiskFlag) : List RiskFlag :=
 flags.mergeSort fun f f'=>flagKey intent f ≤ flagKey intent f'

lemma sortedFlags_sorted (intent:PrimaryIntent) (flags:List RiskFlag) :
  (sortedFlags intent flags).Pairwise fun f f'=>flagKey intent f ≤ flagKey intent f' := by
 have hsort:=@pairwise_mergeSort RiskFlag
  (fun f f'=>decide (flagKey intent f ≤ flagKey intent f'))
  (by simp only [decide_eq_true_eq]; exact fun _ _ _=>le_trans)
  (by simp only [Bool.or_eq_true,decide_eq_true_eq]; exact fun _ _=>le_total _ _) flags
 exact hsort.imp of_decide_eq_true

lemma pair_of_sorted {seq:List NodeKey} {key:NodeKey → ℕ}
  (hsort:seq.Pairwise fun g k=>key g ≤ key k) (hg:g∈seq) (hk:k∈seq)
  (hlt:key g<key k) : [g,k].Sublist seq := by
 have hne:g≠k := by
  rintro rfl
  exact lt_irrefl _ hlt
 refine (DependencyGraph.pair_sublist_total hg hk hne).resolve_right fun hkg=>?_
 have hle:=hsort.sublist hkg
 simp only [pairwise_cons,mem_singleton,forall_eq] at hle
 exact absurd hle.1 (not_le.mpr hlt)

lemma attached_gateRequests (contract:TaskContract) (adapter:ProjectAdapter) :
  (contractPlan contract adapter).Attached .acceptance
   (gateRequests contract) := by
 rw [← gateSequence_composed contract adapter]
 exact composedPlan_attached _ _ (attached_intentGates _ _) (intentGates_lasting _)

end Sorting

lemma requestsGate_withFlags (hflags:flags.Perm contract.riskFlags) :
  g∈overlayGates (overlaysFromFlags flags) ↔ RequestsGate contract g := by
 rw [mem_overlayGates,RequestsGate]
 simp only [hflags.mem_iff]

lemma migrationDryRun_mem_gateRequests (hintent:effectiveIntent contract=.migration) :
  .migrationDryRun∈gateRequests contract ↔ RequestsGate contract .migrationDryRun := by
 unfold gateRequests
 rw [hintent,mem_append,mem_append,requestsGate_withFlags (Perm.refl _)]
 constructor
 · rintro ((hmem | hmem) | hmem)
   · exact absurd hmem (by decide)
   · exact hmem
   · split at hmem <;> simp at hmem
 · exact fun hmem=>.inl (.inr hmem)

lemma acyclic_of_sorted
  (hmigration:effectiveIntent contract=.migration → ¬ RequestsGate contract .migrationDryRun)
  (hsort:(overlayGates (overlaysFromFlags contract.riskFlags)).Pairwise
   (KeyLe (effectiveIntent contract))) : ¬ (contractPlan contract adapter).Cyclic := by
 rw [composedPlan_acyclic_iff,gateSequence_composed,composed_primaryIntent]
 refine ⟨fun hintent=>?_, consecutive_of_sorted (gateRequests_sorted hsort)⟩
 rw [migrationDryRun_mem_gateRequests hintent]
 exact hmigration hintent

variable (adapter) in
lemma later_reaches_earlier
  (h:[g,k].Sublist (overlayGates (overlaysFromFlags contract.riskFlags))) (hne:g≠k) :
  (contractPlan contract adapter).close.Reaches
   k g := by
 have hattached:=attached_gateRequests contract adapter
 have hreq:[g,k].Sublist (gateRequests contract) :=
  h.trans ((sublist_append_right _ _).trans (sublist_append_left _ _))
 refine .single ⟨hattached.ordered g k hreq hne,hattached.present g ?_⟩
 exact hreq.subset (by simp)

/-- Two gates asked for in either order depend on each other the other way round. -/
lemma swapped_gates_disagree {contract':TaskContract}
  (hacyclic:¬ (contractPlan contract adapter).Cyclic)
  (h:[g,k].Sublist (overlayGates (overlaysFromFlags contract.riskFlags)))
  (h':[k,g].Sublist (overlayGates (overlaysFromFlags contract'.riskFlags))) (hne:g≠k) :
  ¬ SameProfile (compileProfileFromContract contract adapter)
    (compileProfileFromContract contract' adapter) := by
 intro hsame
 have hfirst:=later_reaches_earlier adapter h hne
 have hback:=(hsame.plans hacyclic).mpr (later_reaches_earlier adapter h' hne.symm)
 exact hacyclic ⟨k,DependencyGraph.Reaches.mono (fun _ _=>close_edge) (hfirst.trans hback)⟩

variable (adapter) in
lemma two_gates_disagree
  (hmigration:effectiveIntent contract=.migration → ¬ RequestsGate contract .migrationDryRun)
  (hg:RequestsGate contract g) (hk:RequestsGate contract k)
  (hlt:gateKey (effectiveIntent contract) g<gateKey (effectiveIntent contract) k) :
  ∃flags flags',flags.Perm contract.riskFlags ∧ flags'.Perm contract.riskFlags ∧
    ¬ SameProfile (compileProfileFromContract (withFlags contract flags) adapter)
      (compileProfileFromContract (withFlags contract flags') adapter) := by
 let sorted:=sortedFlags (effectiveIntent contract) contract.riskFlags
 have hperm:sorted.Perm contract.riskFlags:=mergeSort_perm _ _
 have hperm':sorted.reverse.Perm contract.riskFlags:=sorted.reverse_perm.trans hperm
 have hne:g≠k := by
  rintro rfl
  exact lt_irrefl _ hlt
 have hkeys:=filterMap_flagGate_sorted (sortedFlags_sorted (effectiveIntent contract)
  contract.riskFlags)
 have hsort:=hkeys.sublist (overlayGates_sublist sorted)
 have hreverse:(overlayGates (overlaysFromFlags sorted.reverse)).reverse.Pairwise
   (KeyLe (effectiveIntent contract)) := by
  have hsub:=(overlayGates_sublist sorted.reverse).reverse
  rw [filterMap_reverse,reverse_reverse] at hsub
  exact hkeys.sublist hsub
 have hacyclic:¬ (composedPlan (composeFromContract (withFlags contract sorted)
   adapter).composition adapter).Cyclic := by
  have hintent:=effectiveIntent_withFlags hperm
  refine acyclic_of_sorted (fun heq=>?_) ?_
  · rw [← requestsGate_withFlags (Perm.refl _)]
    exact fun hmem=>hmigration (hintent ▸ heq) ((requestsGate_withFlags hperm).mp hmem)
  · rw [hintent]
    exact hsort
 have hfirst:=pair_of_sorted hsort ((requestsGate_withFlags hperm).mpr hg)
  ((requestsGate_withFlags hperm).mpr hk) hlt
 have hsnd:[k,g].Sublist (overlayGates (overlaysFromFlags sorted.reverse)) := by
  have hpair:=(pair_of_sorted hreverse (mem_reverse.mpr ((requestsGate_withFlags hperm').mpr hg))
   (mem_reverse.mpr ((requestsGate_withFlags hperm').mpr hk)) hlt).reverse
  rwa [reverse_reverse] at hpair
 exact ⟨sorted,sorted.reverse,hperm,hperm', swapped_gates_disagree hacyclic hfirst hsnd hne⟩

section Emergency

variable {overlays:List RiskOverlay}

variable (hnone:.emergency ∉ overlays)
 (hgates:∀overlay∈overlays,∀gate,overlayGate overlay=some gate → gate=g)

include hnone hgates

lemma fallback_kept (hb:gateFallback g b) (h:(∀d,¬ P.edge .acceptance d) ∨ P.edge g b) :
  (∀d,¬ (overlays.foldl overlayPlan P).edge .acceptance d) ∨
   (overlays.foldl overlayPlan P).edge g b := by
 refine foldlRecOn (motive := fun P : Plan=>
  (∀d,¬ P.edge .acceptance d) ∨ P.edge g b) _ _ h ?_
 intro P ih overlay hmem
 have hne:overlay≠.emergency:=fun heq=>hnone (heq ▸ hmem)
 rcases ih with hempty | hedge
 · cases hgate : overlayGate overlay with
   | none =>
     refine .inl fun d hd=>?_
     rcases overlayPlan_edge_cases hd with hold | ⟨haux,-⟩ | ⟨hnew,-⟩ | ⟨-,hnew⟩
     · exact hempty d hold
     · exact overlayAux_ne_acceptance haux
     · exact overlayGate_ne_acceptance hnew
     · rw [hgate] at hnew
       cases hnew
   | some gate =>
     have heq:=hgates overlay hmem gate hgate
     subst heq
     refine .inr ?_
     rw [overlayPlan_of_ne hne,hgate,gatePlan_edge, auxPlan_inherits overlayAux_ne_acceptance]
     exact .inr (.inl ⟨rfl,.inr ⟨hempty,hb⟩⟩)
 · exact .inr (overlayPlan_edge_of hedge fun heq=>absurd heq hne)

structure Guarded (g:NodeKey) (P:Plan) : Prop where
 node : P.node .specConsistency
 guarded : P.edge .acceptance .specConsistency
 sink : ∀b,P.edge .acceptance b → b=.specConsistency ∨ b=g
 gate : ∀b,P.edge g b → b=.specConsistency

lemma Guarded.foldl (h:Guarded g P) (hg:∀overlay,overlayAux overlay≠some g)
  (hacceptance:g≠.acceptance) : Guarded g (overlays.foldl overlayPlan P) := by
 refine foldlRecOn _ _ h ?_
 intro P ih overlay hmem
 have hne:overlay≠.emergency:=fun heq=>hnone (heq ▸ hmem)
 constructor
 · exact overlayPlan_node.mpr (.inl ⟨ih.node,fun heq=>absurd heq hne⟩)
 · exact overlayPlan_edge_of ih.guarded fun heq=>absurd heq hne
 · intro b hedge
   rcases overlayPlan_edge_cases hedge with hold | ⟨haux,-⟩ | ⟨hnew,-⟩ | ⟨-,hnew⟩
   · exact ih.sink b hold
   · exact absurd haux overlayAux_ne_acceptance
   · exact absurd hnew overlayGate_ne_acceptance
   · exact .inr (hgates overlay hmem b hnew)
 · intro b hedge
   rcases overlayPlan_edge_cases hedge with hold | ⟨haux,-⟩ | ⟨-,hinherits⟩ | ⟨heq,-⟩
   · exact ih.gate b hold
   · exact absurd haux (hg overlay)
   · rcases hinherits with ⟨hold,hbg⟩ | ⟨hempty,-⟩
     · exact (ih.sink b hold).resolve_right hbg
     · exact absurd ih.guarded (hempty _)
   · exact absurd heq hacceptance

end Emergency

section Feature

variable {a:NodeKey}

lemma emergencyPlan_edge_ne (h:(emergencyPlan P).edge a b) (hnode:P.node .specConsistency) :
  b≠.specConsistency :=
 fun heq=>h.1.2.2 ⟨heq,hnode⟩

lemma feature_acceptance {secondary:List PrimaryIntent} :
  (intentPlan .feature secondary).edge .acceptance b ↔ b=.specConsistency := by
 have hall:∀n∈loadFragment .feature,n.id=.acceptance → ∀b∈n.dependsOn,
   b=.specConsistency := by decide
 rw [intentPlan_edge]
 constructor
 · rintro (⟨n,hn,hid,hb⟩ | ⟨other,-,hedge⟩)
   · exact hall n hn hid b hb
   · exact absurd rfl (secondary_descends hedge).1
 · rintro rfl
   exact .inl (by decide)

lemma feature_gate_edge {secondary:List PrimaryIntent} (hg:g∈gates) :
  ¬ (intentPlan .feature secondary).edge g b := by
 have hall:∀n∈loadFragment .feature,n.id ∉ gates := by decide
 rw [intentPlan_edge]
 rintro (⟨n,hn,rfl,-⟩ | ⟨other,-,n,hn,rfl,-⟩)
 · exact hall n hn hg
 · have hother:∀n∈secondaryNodes other,n.id ∉ gates := by
    cases other <;> decide
   exact hother n hn hg

/-- Later stages give a gate new dependencies only when they attach it once more. -/
lemma composedPlan_gate_edge {composition:RunComposition} (hg:g∈gates)
  (hsink:∀b,(overlaidPlan composition).edge .acceptance b ↔ b=g)
  (h:(composedPlan composition adapter).edge g b) : (overlaidPlan composition).edge g b := by
 have hne:∀k ∉ gates,g≠k := by
  rintro k hk rfl
  exact hk hg
 have hpack:∀a,a≠.verification → ∀b,(packedPlan composition adapter).edge a b →
   (overlaidPlan composition).edge a b := fun a ha b hedge=>
  (packPlan_edge_cases hedge).resolve_right fun hnew=>ha hnew.1
 have hdelivery:(deliveredPlan composition adapter).edge g b := by
  rcases budgetPlan_edge_cases h with hold | ⟨heq,-⟩ | ⟨heq,-⟩ | ⟨heq,-⟩
  · exact hold
  all_goals exact absurd heq (hne _ (by decide))
 rcases deliveryPlan_edge_cases hdelivery with hold | ⟨-,⟨rfl,⟨hold,hbg⟩ | ⟨hempty,-⟩⟩ | ⟨heq,-⟩⟩
 · exact hpack g (hne _ (by decide)) b hold
 · exact absurd ((hsink b).mp (hpack _ (by decide) b hold)) hbg
 · exact absurd (packPlan_edge_of _ _ ((hsink _).mpr rfl)) (hempty _)
 · exact absurd heq (hne _ (by decide))

end Feature

section FeatureEmergency

def emergencyFlags (flags:List RiskFlag) : List RiskFlag :=
 flags.filter (·=.emergency)

def otherFlags (flags:List RiskFlag) : List RiskFlag :=
 flags.filter (·≠.emergency)

abbrev emergencyFirst (contract:TaskContract) : TaskContract :=
 withFlags contract (emergencyFlags contract.riskFlags++otherFlags contract.riskFlags)

abbrev emergencyLast (contract:TaskContract) : TaskContract :=
 withFlags contract (otherFlags contract.riskFlags++emergencyFlags contract.riskFlags)

abbrev featurePlan (contract:TaskContract) : Plan :=
 intentPlan .feature ((effectiveSecondary contract).filter (·≠PrimaryIntent.feature))

lemma emergencyFlags_append_perm (flags:List RiskFlag) :
  (emergencyFlags flags++otherFlags flags).Perm flags := by
 have hperm:=filter_append_perm (·=RiskFlag.emergency) flags
 simpa [emergencyFlags,otherFlags] using hperm

lemma mem_emergencyFlags_flatMap {overlay:RiskOverlay}
  (h:overlay∈(emergencyFlags flags).flatMap flagOverlays) : overlay=.emergency := by
 obtain ⟨flag,hflag,hover⟩:=mem_flatMap.mp h
 obtain rfl : flag=.emergency := by simpa [emergencyFlags] using of_mem_filter hflag
 simpa [flagOverlays] using hover

lemma emergency_not_mem_otherFlags :
  .emergency ∉ (otherFlags flags).flatMap flagOverlays := by
 intro h
 obtain ⟨flag,hflag,hover⟩:=mem_flatMap.mp h
 rw [emergency_mem_flagOverlays] at hover
 simpa [hover] using of_mem_filter hflag

lemma overlaysFromFlags_emergencyFlags (h:.emergency∈flags) :
  overlaysFromFlags (emergencyFlags flags)=[.emergency] := by
 refine unique_constant ?_ fun _=>mem_emergencyFlags_flatMap
 exact mem_flatMap.mpr ⟨.emergency,by simp [emergencyFlags,h],by decide⟩

lemma overlaysFromFlags_first (h:.emergency∈flags) :
  overlaysFromFlags (emergencyFlags flags++otherFlags flags) =
   .emergency::overlaysFromFlags (otherFlags flags) := by
 rw [overlaysFromFlags,flatMap_append,unique_append]
 · exact congrArg (·++_) (overlaysFromFlags_emergencyFlags h)
 · intro overlay hother hemergency
   rw [mem_emergencyFlags_flatMap hemergency] at hother
   exact emergency_not_mem_otherFlags hother

lemma overlaysFromFlags_last (h:.emergency∈flags) :
  overlaysFromFlags (otherFlags flags++emergencyFlags flags) =
   overlaysFromFlags (otherFlags flags)++[.emergency] := by
 rw [overlaysFromFlags,flatMap_append,unique_append]
 · exact congrArg (_++·) (overlaysFromFlags_emergencyFlags h)
 · intro overlay hemergency hother
   rw [mem_emergencyFlags_flatMap hemergency] at hother
   exact emergency_not_mem_otherFlags hother

lemma incidentOverlays_of_emergency (h:.emergency∈contract.riskFlags) :
  incidentOverlays contract=[] :=
 if_neg fun hincident=>hincident.2 h

lemma gateFallback_exists {flag:RiskFlag} (h:flagGate flag=some g) :
  g∈gates ∧ ∃b,gateFallback g b ∧ (fragmentPlan .feature).node b ∧
    ¬ Deferrable b := by
 cases flag <;> simp only [flagGate,Option.some.injEq,reduceCtorEq] at h <;> subst h
 all_goals
  refine ⟨by decide,_,rfl,?_⟩
  decide

lemma gates_aux {overlay:RiskOverlay} (hg:g∈gates) : overlayAux overlay≠some g := by
 rintro haux
 revert hg
 cases overlay <;> simp only [overlayAux,Option.some.injEq,reduceCtorEq] at haux <;>
  subst haux <;> decide

lemma otherFlags_gates (hsole:∀k,RequestsGate contract k → k=g) :
  ∀overlay∈overlaysFromFlags (otherFlags contract.riskFlags),
    ∀gate,overlayGate overlay=some gate → gate=g := by
 intro overlay hover gate hgate
 refine hsole gate (@requestsGate_of_overlay _ overlay _ ?_ hgate)
 obtain ⟨flag,hmem,hflag⟩:=mem_overlaysFromFlags.mp hover
 exact mem_overlaysFromFlags.mpr ⟨flag,mem_of_mem_filter hmem,hflag⟩

lemma otherFlags_no_emergency : .emergency ∉ overlaysFromFlags (otherFlags flags) := by
 rw [overlaysFromFlags,mem_unique]
 exact emergency_not_mem_otherFlags

lemma otherFlags_attached (hg:RequestsGate contract g)
  (hacceptance:P.node .acceptance) :
  ((overlaysFromFlags (otherFlags contract.riskFlags)).foldl overlayPlan P).edge
    .acceptance g := by
 have hattached:=attached_foldl (overlaysFromFlags (otherFlags contract.riskFlags))
  (DependencyGraph.attached_nil (G := P)) hacceptance (by simp)
 obtain ⟨flag,hmem,hgate⟩:=hg
 have hne:flag≠.emergency := by
  rintro rfl
  cases hgate
 exact hattached.required g (mem_overlayGates.mpr ⟨flag,mem_filter.mpr ⟨hmem,by simpa using hne⟩,
  hgate⟩)

variable (hfeature:effectiveIntent contract=.feature)
 (hflag:.emergency∈contract.riskFlags) (hg:RequestsGate contract g)
 (hsole:∀k,RequestsGate contract k → k=g)

include hfeature hflag

variable (adapter) in
lemma overlaidPlan_first :
  overlaidPlan (composed (emergencyFirst contract) adapter) =
   (overlaysFromFlags (otherFlags contract.riskFlags)).foldl overlayPlan
    (emergencyPlan (featurePlan contract)) := by
 have hperm:=emergencyFlags_append_perm contract.riskFlags
 rw [overlaidPlan_contract,incidentOverlays_of_emergency (hperm.mem_iff.mpr hflag),
  effectiveIntent_withFlags hperm,hfeature]
 change (overlaysFromFlags (emergencyFlags contract.riskFlags ++
  otherFlags contract.riskFlags)).foldl overlayPlan _ = _
 rw [overlaysFromFlags_first hflag]
 rfl

variable (adapter) in
lemma overlaidPlan_last :
  overlaidPlan (composed (emergencyLast contract) adapter) =
   emergencyPlan ((overlaysFromFlags (otherFlags contract.riskFlags)).foldl overlayPlan
    (featurePlan contract)) := by
 have hperm:=perm_append_comm.trans (emergencyFlags_append_perm contract.riskFlags)
 rw [overlaidPlan_contract,incidentOverlays_of_emergency (hperm.mem_iff.mpr hflag),
  effectiveIntent_withFlags hperm,hfeature]
 change (overlaysFromFlags (otherFlags contract.riskFlags ++
  emergencyFlags contract.riskFlags)).foldl overlayPlan _ = _
 rw [overlaysFromFlags_last hflag,foldl_append]
 rfl

include hg hsole

variable (adapter) in
lemma emergency_first_reaches (hb:gateFallback g b)
  (hnode:(planOfNodes (loadFragment .feature)).node b) (hdefer:¬ Deferrable b) :
  (composedPlan (composed (emergencyFirst contract) adapter) adapter).close.Reaches g b := by
 have hperm:=emergencyFlags_append_perm contract.riskFlags
 have hintent:=effectiveIntent_withFlags hperm
 have hplan:=overlaidPlan_first adapter hfeature hflag
 have hprimary:=@composed_primaryIntent (emergencyFirst contract) adapter
 have hmode:¬ RemovesWriters (composed (emergencyFirst contract) adapter).deliveryMode := by
  intro hmode
  simpa [hintent,hfeature] using (composed_removesWriters hmode).2
 have hbudget:(composed (emergencyFirst contract) adapter).executionBudget≠.fast := by
  intro hbudget
  cases (composed_fast.mp hbudget).2.2.2.1 _ (hperm.mem_iff.mpr hflag)
 rw [hintent,hfeature] at hprimary
 generalize composed (emergencyFirst contract) adapter=composition at *
 have hcore:=core_intentPlan .feature
  ((effectiveSecondary contract).filter (·≠PrimaryIntent.feature))
 have hspec:(featurePlan contract).node .specConsistency :=
  intentPlan_node.mpr (.inl (by decide))
 have hempty:∀d,¬ (emergencyPlan (featurePlan contract)).edge .acceptance d:=fun d hd=>
  emergencyPlan_edge_ne hd hspec (feature_acceptance.mp (emergencyPlan_edge hd))
 have hedge:(overlaidPlan composition).edge g b := by
  rw [hplan]
  refine (fallback_kept otherFlags_no_emergency (otherFlags_gates hsole) hb
   (.inl hempty)).resolve_left fun hnone=>?_
  exact hnone g (otherFlags_attached hg
   (emergencyPlan_node.mpr ⟨hcore.acceptance,by simp [Deferrable]⟩))
 refine .single ⟨budgetPlan_edge_of (deliveryPlan_edge_of (packPlan_edge_of _ _ hedge)
  (fun hr=>absurd hr hmode) fun hr=>absurd hr hmode) (fun hf=>absurd hf hbudget)
  (fun hf=>absurd hf hbudget) fun hf=>absurd hf hbudget,?_⟩
 refine composedPlan_node_of (intentPlan_node.mpr (.inl ?_))
  ⟨fun _=>hdefer, fun hr=>absurd hr hmode, fun hf=>absurd hf hbudget⟩
 rw [hprimary]
 exact hnode

lemma emergency_last_no_edge (hgate:g∈gates) :
  ¬ (composedPlan (composed (emergencyLast contract) adapter) adapter).edge g b := by
 have hplan:=overlaidPlan_last adapter hfeature hflag
 generalize composed (emergencyLast contract) adapter=composition at *
 have hcore:=core_intentPlan .feature
  ((effectiveSecondary contract).filter (·≠PrimaryIntent.feature))
 have hstart:Guarded g (featurePlan contract) :=
  ⟨intentPlan_node.mpr (.inl (by decide)),feature_acceptance.mpr rfl,
   fun b hb=>.inl (feature_acceptance.mp hb), fun b hb=>absurd hb (feature_gate_edge hgate)⟩
 have hne:g≠.acceptance := by
  rintro rfl
  exact absurd hgate (by decide)
 have hguard:=hstart.foldl otherFlags_no_emergency (otherFlags_gates hsole)
  (fun _=>gates_aux hgate) hne
 have hattached:=otherFlags_attached hg hcore.acceptance
 have hkept:¬ Deferrable g := by
  have hall:∀k∈gates,¬ Deferrable k := by decide
  exact hall g hgate
 have hsink:∀b,(overlaidPlan composition).edge .acceptance b ↔ b=g := by
  intro b
  rw [hplan]
  constructor
  · intro hedge
    exact (hguard.sink b (emergencyPlan_edge hedge)).resolve_left
     (emergencyPlan_edge_ne hedge hguard.node)
  · rintro rfl
    exact emergencyPlan_edge_of hattached (by simp [Deferrable]) hkept
 intro hedge
 have hoverlay:=composedPlan_gate_edge hgate hsink hedge
 rw [hplan] at hoverlay
 exact emergencyPlan_edge_ne hoverlay hguard.node
  (hguard.gate b (emergencyPlan_edge hoverlay))

variable (adapter) in
lemma emergency_disagrees :
  ∃flags flags',flags.Perm contract.riskFlags ∧ flags'.Perm contract.riskFlags ∧
    ¬ SameProfile (compileProfileFromContract (withFlags contract flags) adapter)
      (compileProfileFromContract (withFlags contract flags') adapter) := by
 obtain ⟨flag,-,hflagGate⟩:=id hg
 obtain ⟨hgate,b,hb,hnode,hdefer⟩:=gateFallback_exists hflagGate
 have hperm:=emergencyFlags_append_perm contract.riskFlags
 refine ⟨_,_,hperm,perm_append_comm.trans hperm,fun hsame=>?_⟩
 have hacyclic:¬ (contractPlan (emergencyFirst contract) adapter).Cyclic := by
  refine acyclic_of_sorted (fun hintent=>?_) (pairwise_iff_forall_sublist.mpr ?_)
  · rw [effectiveIntent_withFlags hperm,hfeature] at hintent
    cases hintent
  · intro x y hxy
    have hx:=(requestsGate_withFlags hperm).mp (hxy.subset (by simp:x∈[x,y]))
    have hy:=(requestsGate_withFlags hperm).mp (hxy.subset (by simp:y∈[x,y]))
    rw [hsole x hx,hsole y hy]
 have hfirst:=emergency_first_reaches adapter hfeature hflag hg hsole hb hnode hdefer
 have hsnd:=(hsame.plans hacyclic).mp hfirst
 obtain ⟨c,hedge,-⟩:=Relation.TransGen.head'_iff.mp hsnd
 exact emergency_last_no_edge hfeature hflag hg hsole hgate (close_edge hedge)

end FeatureEmergency

lemma migration_fails (hintent:effectiveIntent contract=.migration)
  (hgate:RequestsGate contract .migrationDryRun) :
  compileProfileFromContract contract adapter=.error .cycle := by
 refine compile_error (cyclic_of_migration (composed_primaryIntent.trans hintent) ?_)
 rw [gateSequence_composed,migrationDryRun_mem_gateRequests hintent]
 exact hgate

/-- When exactly the order of the risk flags makes no difference. -/
theorem order_independent_iff (contract:TaskContract) (adapter:ProjectAdapter) :
  (∀flags,flags.Perm contract.riskFlags →
   SameProfile (compileProfileFromContract contract adapter)
    (compileProfileFromContract (withFlags contract flags) adapter)) ↔
  (effectiveIntent contract=.migration ∧ RequestsGate contract .migrationDryRun) ∨
   ((∀g k,RequestsGate contract g → RequestsGate contract k → g=k) ∧
     (effectiveIntent contract=.feature → .emergency∈contract.riskFlags →
      ¬ ∃g,RequestsGate contract g)) := by
 constructor
 · intro hsame
   have hagree:∀flags flags',flags.Perm contract.riskFlags → flags'.Perm contract.riskFlags →
     SameProfile (compileProfileFromContract (withFlags contract flags) adapter)
      (compileProfileFromContract (withFlags contract flags') adapter) :=
    fun flags flags' h h'=>(hsame flags h).symm.trans (hsame flags' h')
   by_cases hmigration : effectiveIntent contract=.migration ∧
    RequestsGate contract .migrationDryRun
   · exact .inl hmigration
   · have hsole:∀g k,RequestsGate contract g → RequestsGate contract k → g=k := by
      intro g k hg hk
      by_contra hne
      have hkeys:gateKey (effectiveIntent contract) g≠gateKey (effectiveIntent contract) k := by
       obtain ⟨_,-,hgflag⟩:=id hg
       obtain ⟨_,-,hkflag⟩:=id hk
       exact fun heq=>hne (gateKey_injective g (gateFallback_exists hgflag).1 k
        (gateFallback_exists hkflag).1 heq)
      rw [not_and] at hmigration
      rcases Nat.lt_or_gt_of_ne hkeys with hlt | hlt
      · obtain ⟨flags,flags',h,h',hnot⟩ :=
         two_gates_disagree adapter hmigration hg hk hlt
        exact hnot (hagree flags flags' h h')
      · obtain ⟨flags,flags',h,h',hnot⟩ :=
         two_gates_disagree adapter hmigration hk hg hlt
        exact hnot (hagree flags flags' h h')
     refine .inr ⟨hsole,?_⟩
     rintro hfeature hflag ⟨g,hg⟩
     obtain ⟨flags,flags',h,h',hnot⟩:=emergency_disagrees adapter hfeature hflag
      hg fun k hk=>hsole k g hk hg
     exact hnot (hagree flags flags' h h')
 · rintro (⟨hintent,hgate⟩ | ⟨hsole,hemergency⟩) flags hflags
   · have hgate':RequestsGate (withFlags contract flags) .migrationDryRun :=
      (requestsGate_withFlags (Perm.refl _)).mp ((requestsGate_withFlags hflags).mpr hgate)
     rw [migration_fails hintent hgate,
      migration_fails ((effectiveIntent_withFlags hflags).trans hintent) hgate']
     trivial
   · refine sameProfile_of_plan (composedPlan_withFlags hflags ?_).symm
     exact overlaidPlan_perm hflags hsole fun hflag hrequest hfeature=>
      hemergency hfeature hflag hrequest

def twoGatesContract : TaskContract :=
 { interleavedContract with riskFlags:=[.secrets,.publicApi] }

theorem swapped_flags_disagree :
  [RiskFlag.publicApi,.secrets].Perm twoGatesContract.riskFlags ∧
   ¬ SameProfile (compileProfileFromContract twoGatesContract ⟨none⟩)
     (compileProfileFromContract (withFlags twoGatesContract [.publicApi,.secrets])
      ⟨none⟩) := by
 have hacyclic:=@acyclic_of_sorted ⟨none⟩ twoGatesContract
  (fun h=>absurd h (by decide)) (by decide)
 exact ⟨by decide,swapped_gates_disagree (g := .securityReviewer) (k := .architectureReviewer)
  hacyclic (by decide) (by decide +kernel) (by decide)⟩

end EpistemicCompiler.ProfileReordering
