import EpistemicCompiler.ProfileChecks

set_option autoImplicit false

/-!
# The composition of a contract, read off the contract

The rewriting rules, the urgency, the delivery mode and the budget of a composition are stated
directly in terms of the fields of the contract that decide them.
-/
namespace EpistemicCompiler.ProfileContracts
open ProfileCatalog ProfileComposition ProfileCompiler ProfilePlans ProfileStages ProfileSteps List

abbrev composed (contract:TaskContract) (adapter:ProjectAdapter) : RunComposition :=
 (composeFromContract contract adapter).composition

noncomputable abbrev contractPlan (contract:TaskContract) (adapter:ProjectAdapter) : Plan :=
 composedPlan (composeFromContract contract adapter).composition adapter

section

variable {α:Type} [DecidableEq α]

lemma unique_nodup (items:List α) : (unique items).Nodup := by
 -- the tail is filtered before it is searched again, so the induction is on the length
 induction hlen : items.length using Nat.strong_induction_on generalizing items with
 | _ n ih =>
   cases items with
   | nil => simp [unique]
   | cons a items =>
     rw [unique,eraseDups_cons,nodup_cons]
     constructor
     · simp [mem_eraseDups]
     · refine ih _ ?_ _ rfl
       have := length_filter_le (fun b=>!b == a) items
       rw [length_cons] at hlen
       omega

lemma unique_of_nodup {items:List α} (h:items.Nodup) : unique items=items := by
 induction items with
 | nil => simp [unique]
 | cons a items ih =>
   rw [nodup_cons] at h
   have hkept:items.filter (fun b=>!b == a)=items := by
    refine filter_eq_self.mpr fun b hb=>?_
    have hne:b≠a:=fun heq=>h.1 (heq ▸ hb)
    simpa using hne
   rw [unique,eraseDups_cons,hkept]
   exact congrArg (a::·) (ih h.2)

lemma unique_sublist (items:List α) : (unique items).Sublist items := by
 induction hlen : items.length using Nat.strong_induction_on generalizing items with
 | _ n ih =>
   cases items with
   | nil => simp [unique]
   | cons a items =>
     have hle:=length_filter_le (fun b=>!b == a) items
     rw [length_cons] at hlen
     rw [unique,eraseDups_cons]
     exact ((ih _ (by omega) _ rfl).trans filter_sublist).cons_cons a

lemma unique_append {front back:List α} (h:∀b∈back,b ∉ front) :
  unique (front++back)=unique front++unique back := by
 have hkept:back.removeAll front=back := by
  refine filter_eq_self.mpr fun b hb=>?_
  simpa using h b hb
 rw [unique,eraseDups_append,hkept]
 rfl

lemma unique_constant {items:List α} {a:α} (hmem:a∈items) (hall:∀b∈items,b=a) :
  unique items=[a] := by
 refine perm_singleton.mp ((perm_ext_iff_of_nodup (unique_nodup items)
  (nodup_singleton a)).mpr fun b=>?_)
 rw [mem_unique,mem_singleton]
 exact ⟨hall b,fun heq=>heq ▸ hmem⟩

end

variable {contract:TaskContract} {adapter:ProjectAdapter}

def EmergencyRequested (contract:TaskContract) : Prop :=
 .emergency∈contract.riskFlags ∨ contractUrgency contract=some .incident

instance : DecidablePred EmergencyRequested :=
 fun contract=>inferInstanceAs (Decidable (.emergency∈contract.riskFlags ∨
  contractUrgency contract=some .incident))

lemma mem_overlaysFromFlags {flags:List RiskFlag} {overlay:RiskOverlay} :
  overlay∈overlaysFromFlags flags ↔ ∃flag∈flags,overlay∈flagOverlays flag := by
 rw [overlaysFromFlags,mem_unique,mem_flatMap]

lemma emergency_mem_flagOverlays (flag:RiskFlag) :
  .emergency∈flagOverlays flag ↔ flag=.emergency := by
 cases flag <;> decide

lemma emergency_mem_overlaysFromFlags {flags:List RiskFlag} :
  .emergency∈overlaysFromFlags flags ↔ .emergency∈flags := by
 simp [mem_overlaysFromFlags,emergency_mem_flagOverlays]

def incidentOverlays (contract:TaskContract) : List RiskOverlay :=
 if contractUrgency contract=some .incident ∧ .emergency ∉ contract.riskFlags then [.emergency]
 else []

lemma contractOverlays_eq : contractOverlays contract =
  overlaysFromFlags contract.riskFlags++incidentOverlays contract := by
 unfold contractOverlays incidentOverlays
 simp only [emergency_mem_overlaysFromFlags]
 split
 · rfl
 · rw [append_nil]

lemma mem_contractOverlays {overlay:RiskOverlay} :
  overlay∈contractOverlays contract ↔ overlay∈overlaysFromFlags contract.riskFlags ∨
   (overlay=.emergency ∧ contractUrgency contract=some .incident) := by
 rw [contractOverlays_eq,mem_append,incidentOverlays]
 split
 · rename_i h
   simp [h.1]
 · rename_i h
   rw [not_and,not_not] at h
   simp only [not_mem_nil,or_false]
   refine ⟨.inl,?_⟩
   rintro (hmem | ⟨rfl,hincident⟩)
   · exact hmem
   · exact emergency_mem_overlaysFromFlags.mpr (h hincident)

lemma emergency_mem_contractOverlays :
  .emergency∈contractOverlays contract ↔ EmergencyRequested contract := by
 simp [mem_contractOverlays,emergency_mem_overlaysFromFlags,EmergencyRequested]

lemma contractOverlays_nodup : (contractOverlays contract).Nodup := by
 have hflags:(overlaysFromFlags contract.riskFlags).Nodup:=unique_nodup _
 rw [contractOverlays_eq,incidentOverlays]
 split
 · rename_i h
   refine nodup_append.mpr ⟨hflags,by simp,?_⟩
   intro overlay hmem _ hlast heq
   rw [heq,mem_singleton.mp hlast,emergency_mem_overlaysFromFlags] at hmem
   exact h.2 hmem
 · rw [append_nil]
   exact hflags

lemma composed_overlays :
  (composed contract adapter).overlays=contractOverlays contract :=
 unique_of_nodup (contractOverlays_nodup)

def effectiveIntent (contract:TaskContract) : PrimaryIntent :=
 match contractPrimaryIntent contract with
 | .refactor => if contract.behaviorChanges then .feature else .refactor
 | .bugfix => if EmergencyRequested contract then .incidentResponse else .bugfix
 | .documentation =>
   if contract.behaviorChanges then
    if contract.kind=.spec then .feature else intentFromKind contract.kind
   else .documentation
 | intent => intent

lemma composed_primaryIntent :
  (composed contract adapter).primaryIntent =
   effectiveIntent contract := by
 have hemergency:(.emergency∈contractOverlays contract ∨ .emergency∈contract.riskFlags) ↔
   EmergencyRequested contract := by
  rw [emergency_mem_contractOverlays,EmergencyRequested]
  tauto
 change (rewriteContract contract (contractOverlays contract)).primary=_
 unfold rewriteContract rewriteMigration rewriteDocumentation rewriteResearch rewriteEmergency
  rewriteRefactor effectiveIntent
 cases contractPrimaryIntent contract <;> grind [intentFromKind]

def effectiveSecondary (contract:TaskContract) : List PrimaryIntent :=
 let stated:=contractSecondaryIntents contract
 match contractPrimaryIntent contract with
 | .refactor =>
   if contract.behaviorChanges then unique (.refactor::stated.filter (·≠.refactor)) else stated
 | .documentation =>
   if contract.behaviorChanges then unique (.documentation::stated.filter (·≠.documentation))
   else stated
 | _ => stated

lemma composed_secondaryIntents :
  (composed contract adapter).secondaryIntents =
   (effectiveSecondary contract).filter (·≠effectiveIntent contract) := by
 rw [← @composed_primaryIntent contract adapter]
 change (rewriteContract contract (contractOverlays contract)).secondary.filter _ = _
 congr 1
 unfold rewriteContract rewriteMigration rewriteDocumentation rewriteResearch rewriteEmergency
  rewriteRefactor effectiveSecondary
 cases contractPrimaryIntent contract <;> grind

def Incident (contract:TaskContract) : Prop :=
 contractUrgency contract=some .incident ∨
  (contractUrgency contract=none ∧ .emergency∈contract.riskFlags)

instance : DecidablePred Incident :=
 fun _=>inferInstanceAs (Decidable (_ ∨ (_ ∧ _)))

lemma composedUrgency_incident :
  composedUrgency contract (contractOverlays contract)=.incident ↔ Incident contract := by
 unfold composedUrgency Incident
 cases hstat : contractUrgency contract with
 | some urgency => simp
 | none =>
   have hreq:EmergencyRequested contract ↔ .emergency∈contract.riskFlags := by
    simp [EmergencyRequested,hstat]
   simp [emergency_mem_contractOverlays,hreq]

lemma composed_deliveryMode :
  (composed contract adapter).deliveryMode =
   defaultDeliveryFor (effectiveIntent contract)
    (composedUrgency contract (contractOverlays contract)) := by
 rw [← @composed_primaryIntent contract adapter]
 rfl

lemma composed_mitigation :
  (composed contract adapter).deliveryMode=.mitigationPatch ↔
   Incident contract ∨ effectiveIntent contract=.incidentResponse := by
 rw [composed_deliveryMode,← composedUrgency_incident]
 unfold defaultDeliveryFor
 split
 · simp_all
 · cases effectiveIntent contract <;> simp_all

lemma composed_removesWriters
  (h:RemovesWriters (composed contract adapter).deliveryMode) :
  ¬ Incident contract ∧
    (effectiveIntent contract=.research ∨ effectiveIntent contract=.diagnosis) := by
 rw [composed_deliveryMode,RemovesWriters] at h
 rw [← composedUrgency_incident]
 unfold defaultDeliveryFor at h
 split at h
 · simp at h
 · refine ⟨‹_›,?_⟩
   cases hintent : effectiveIntent contract <;> simp_all

def HighRisk (contract:TaskContract) : Prop :=
 (∃flag∈contract.riskFlags,flag≠.noTests ∧ flag≠.uiVisible ∧ flag≠.behaviorChange) ∨
  contractUrgency contract=some .incident

def FastEligible (contract:TaskContract) : Prop :=
 contract.inScope.length ≤ 3 ∧ (∀item∈contract.assumptions,item.reversible=true) ∧
  contract.behaviorChanges=false ∧ (∀flag∈contract.riskFlags,flag=.behaviorChange) ∧
  contractUrgency contract≠some .incident ∧
  (effectiveIntent contract=.feature ∨ effectiveIntent contract=.bugfix)

lemma flag_high (flag:RiskFlag) :
  (∃overlay∈flagOverlays flag,overlay∈highOverlays) ↔
   flag≠.noTests ∧ flag≠.uiVisible ∧ flag≠.behaviorChange := by
 cases flag <;> decide

lemma flagOverlays_eq_nil (flag:RiskFlag) :
  flagOverlays flag=[] ↔ flag=.behaviorChange := by
 cases flag <;> decide

lemma high_contractOverlays :
  (contractOverlays contract).any (highOverlays.contains ·)=true ↔ HighRisk contract := by
 rw [any_eq_true]
 simp only [contains_iff_mem,mem_contractOverlays,mem_overlaysFromFlags]
 constructor
 · rintro ⟨overlay,⟨flag,hflag,hmem⟩ | ⟨-,hincident⟩,hhigh⟩
   · exact .inl ⟨flag,hflag,(flag_high flag).mp ⟨overlay,hmem,hhigh⟩⟩
   · exact .inr hincident
 · rintro (⟨flag,hflag,hrisk⟩ | hincident)
   · obtain ⟨overlay,hmem,hhigh⟩:=(flag_high flag).mpr hrisk
     exact ⟨overlay,.inl ⟨flag,hflag,hmem⟩,hhigh⟩
   · exact ⟨.emergency,.inr ⟨rfl,hincident⟩,by decide⟩

lemma contractOverlays_eq_nil : contractOverlays contract=[] ↔
  (∀flag∈contract.riskFlags,flag=.behaviorChange) ∧
   contractUrgency contract≠some .incident := by
 simp only [eq_nil_iff_forall_not_mem,mem_contractOverlays,mem_overlaysFromFlags,not_or,
  not_exists,not_and,← flagOverlays_eq_nil]
 constructor
 · intro h
   exact ⟨fun flag hflag overlay hmem=>(h overlay).1 flag hflag hmem, (h .emergency).2 rfl⟩
 · rintro ⟨hflags,hurgency⟩ overlay
   exact ⟨fun flag hflag hmem=>hflags flag hflag overlay hmem, fun _=>hurgency⟩

lemma composed_budget :
  (composed contract adapter).executionBudget =
   executionBudgetFor (effectiveIntent contract) (contractOverlays contract)
    (contract.inScope.length ≤ 3 ∧ ¬ contract.behaviorChanges)
    (contract.assumptions.all (·.reversible)) contract.behaviorChanges := by
 rw [← @composed_primaryIntent contract adapter]
 rfl

lemma composed_fast :
  (composed contract adapter).executionBudget=.fast ↔
   FastEligible contract := by
 have hlen:(contractOverlays contract).length=0 ↔ contractOverlays contract=[] :=
  length_eq_zero_iff
 rw [composed_budget,executionBudgetFor,FastEligible]
 simp only [hlen,contractOverlays_eq_nil,all_eq_true,decide_eq_true_eq]
 split
 · rename_i h
   simp only [true_iff]
   obtain ⟨⟨hscope,hchanges⟩,hreview,-,⟨hflags,hurgency⟩,hintent⟩:=h
   exact ⟨hscope,hreview,by simpa using hchanges,hflags,hurgency,hintent⟩
 · rename_i h
   constructor
   · intro hfast
     split at hfast <;> cases hfast
   · rintro ⟨hscope,hreview,hchanges,hflags,hurgency,hintent⟩
     exact absurd ⟨⟨hscope,by simp [hchanges]⟩,hreview,by simp [hchanges],
      ⟨hflags,hurgency⟩,hintent⟩ h

lemma composed_thorough :
  (composed contract adapter).executionBudget=.thorough ↔
   HighRisk contract := by
 rw [composed_budget,executionBudgetFor,← high_contractOverlays]
 split
 · rename_i h
   have hnil:contractOverlays contract=[]:=length_eq_zero_iff.mp h.2.2.2.1
   simp [hnil]
 · split <;> simp_all

def PackSelected (contract:TaskContract) (adapter:ProjectAdapter) : Prop :=
 ∃rule∈packRules contract (contractOverlays contract),rule.1=true ∧
   ∃id∈rule.2,id.text∈adapter.packs.getD []

lemma composed_resolves :
  Resolves (composed contract adapter).verificationPacks adapter ↔
   PackSelected contract adapter := by
 change Resolves (packsForContract contract adapter (contractOverlays contract)) adapter ↔ _
 unfold Resolves packsForContract PackSelected
 simp only [mem_filter,mem_unique,mem_flatMap,decide_eq_true_eq]
 constructor
 · rintro ⟨id,⟨⟨rule,⟨hrule,hselects⟩,hid⟩,-⟩,hkey⟩
   exact ⟨rule,hrule,hselects,id,hid,hkey⟩
 · rintro ⟨rule,hrule,hselects,id,hid,hkey⟩
   exact ⟨id,⟨⟨rule,⟨hrule,hselects⟩,hid⟩,.inl hkey⟩,hkey⟩

end EpistemicCompiler.ProfileContracts
