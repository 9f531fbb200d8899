import Mathlib.Algebra.Order.Field.Basic
import Mathlib.Tactic.Ring
import EpistemicCompiler.FallibleRuns
import EpistemicCompiler.Verdicts

set_option autoImplicit false

/-!
# What decides a verdict

When an obligation is discharged, when it is refuted, and how the mandatory ones among them make up
the verdict. The sequential test comes down to counting three observations of one kind.
-/
namespace EpistemicCompiler.VerdictRules
open Function QueueOrder Verdicts FallibleRuns List

variable (observations:List RunObservation)

def passCount : ℕ := (observations.filter (·.isPass)).length

def failCount : ℕ := (observations.filter (·.isFail)).length

lemma not_isPass_of_isFail {item:RunObservation} (h:item.isFail=true) :
  item.isPass=false := by
 simp only [RunObservation.isFail,RunObservation.isPass,Bool.or_eq_true,
  decide_eq_true_eq,decide_eq_false_iff_not] at h ⊢
 rcases h with h | h <;> simp [h]

lemma likelihood_eq (systematicFail:Bool) (observations:List RunObservation)
  (h:∀item∈observations,(if systematicFail then item.isPass else item.isFail)=false) :
  likelihood systematicFail observations =
   3 ^ if systematicFail then failCount observations else passCount observations := by
 have hratio:clampUnit (1/2+effect/2)/clampUnit (1/2 - effect/2)=3 := by
  norm_num [clampUnit,effect]
 have hloop:∀start : ℚ,observations.foldl (fun ratio item=>
   if !item.isFail && !item.isPass then ratio
   else if (if systematicFail then item.isFail else item.isPass) then
    ratio*(clampUnit (1/2+effect/2)/clampUnit (1/2 - effect/2))
   else ratio*((1 - clampUnit (1/2+effect/2))/(1 - clampUnit (1/2 - effect/2))))
   start =
   start*3 ^ if systematicFail then failCount observations else passCount observations := by
  rw [hratio]
  induction observations with
  | nil => simp [failCount,passCount]
  | cons item rest ih =>
    intro start
    have hitem:=h item mem_cons_self
    have hrest:=ih fun other hother=>h other (mem_cons_of_mem _ hother)
    rw [foldl_cons,hrest]
    cases systematicFail <;> cases hfail : item.isFail <;> cases hpass : item.isPass <;>
     simp_all [failCount,passCount,pow_succ] <;> ring
 exact (hloop 1).trans (one_mul _)

lemma acceptH1_le_iff (n:ℕ) : acceptH1 ≤ 3 ^ n ↔ 3 ≤ n := by
 have hbound:acceptH1=16 := by norm_num [acceptH1,alpha,beta]
 rw [hbound]
 constructor
 · intro h
   by_contra hlt
   have hn:n ≤ 2 := by omega
   have hpow:(3 : ℚ) ^ n ≤ 3 ^ 2:=pow_le_pow_right₀ (by norm_num) hn
   norm_num at hpow
   linarith
 · intro h
   have hpow:(3 : ℚ) ^ 3 ≤ 3 ^ n:=pow_le_pow_right₀ (by norm_num) h
   norm_num at hpow
   linarith

lemma passCount_eq_zero_iff {observations:List RunObservation} :
  passCount observations=0 ↔ ∀item∈observations,item.isPass=false := by
 rw [passCount,length_eq_zero_iff,filter_eq_nil_iff]
 simp

lemma failCount_eq_zero_iff {observations:List RunObservation} :
  failCount observations=0 ↔ ∀item∈observations,item.isFail=false := by
 rw [failCount,length_eq_zero_iff,filter_eq_nil_iff]
 simp

/-- Three observations of one kind make a stable class, and one of the other kind unmakes it. -/
lemma classifyFlake_eq :
  classifyFlake observations =
   if passCount observations=0 ∧ 3 ≤ failCount observations then .stableFail
   else if failCount observations=0 ∧ 3 ≤ passCount observations then .stablePass
   else .unknownInstability := by
 have hpass:(observations.filter (·.isPass)).length=passCount observations:=rfl
 have hfail:(observations.filter (·.isFail)).length=failCount observations:=rfl
 have hpassLe:passCount observations ≤ observations.length:=length_filter_le _ _
 have hfailLe:failCount observations ≤ observations.length:=length_filter_le _ _
 unfold classifyFlake
 simp only [hpass,hfail,minObservations,gt_iff_lt,Bool.and_eq_true,decide_eq_true_eq]
 by_cases hnone : observations.length=0
 · rw [if_pos hnone,if_neg (by omega),if_neg (by omega)]
 rw [if_neg hnone]
 by_cases hmixed : 0<failCount observations ∧ 0<passCount observations
 · rw [if_pos hmixed,if_neg (by omega),if_neg (by omega)]
 rw [if_neg hmixed]
 by_cases hfew : observations.length<3
 · rw [if_pos hfew,if_neg (by omega),if_neg (by omega)]
 rw [if_neg hfew]
 by_cases hfailing : 0<failCount observations
 · have hzero:passCount observations=0 := by omega
   have hratio:likelihood true observations=3 ^ failCount observations :=
    likelihood_eq true observations (by simpa using passCount_eq_zero_iff.mp hzero)
   have hsystematic:(decide (0<failCount observations) &&
     decide (passCount observations=0))=true := by simp [hfailing,hzero]
   rw [hsystematic,hratio]
   by_cases henough : 3 ≤ failCount observations
   · rw [if_pos ((acceptH1_le_iff _).mpr henough),if_pos ⟨hfailing,hzero⟩, if_pos ⟨hzero,henough⟩]
   · rw [if_neg (mt (acceptH1_le_iff _).mp henough),if_neg (by omega),if_neg (by omega)]
 · have hzero:failCount observations=0 := by omega
   have hratio:likelihood false observations=3 ^ passCount observations :=
    likelihood_eq false observations (by simpa using failCount_eq_zero_iff.mp hzero)
   have hsystematic:(decide (0<failCount observations) &&
     decide (passCount observations=0))=false := by simp [hzero]
   rw [hsystematic,hratio]
   by_cases henough : 3 ≤ passCount observations
   · rw [if_pos ((acceptH1_le_iff _).mpr henough),if_neg (fun h=>hfailing h.1),
      if_neg (by omega),if_pos ⟨hzero,henough⟩]
   · rw [if_neg (mt (acceptH1_le_iff _).mp henough),if_neg (by omega),if_neg (by omega)]

lemma stableFail_iff :
  classifyFlake observations=.stableFail ↔
   passCount observations=0 ∧ 3 ≤ failCount observations := by
 rw [classifyFlake_eq]
 split_ifs with h h' <;> simp [h]

lemma stablePass_iff :
  classifyFlake observations=.stablePass ↔
   failCount observations=0 ∧ 3 ≤ passCount observations := by
 rw [classifyFlake_eq]
 split_ifs with h h'
 · refine iff_of_false (fun heq=>by cases heq) ?_
   omega
 · exact iff_of_true rfl h'
 · exact iff_of_false (fun heq=>by cases heq) h'

lemma pairedFlake_eq_iff (baseline candidate:List RunObservation) {flake:FlakeClass}
  (h:flake≠.unknownInstability) : pairedFlake baseline candidate=flake ↔
   classifyFlake candidate=flake ∧ classifyFlake baseline=.stablePass := by
 unfold pairedFlake
 cases classifyFlake candidate <;> cases classifyFlake baseline <;> simp [h.symm]

section Obligations

variable (records:List EvidenceRecord)

def related (admissible:List EvidenceRecord) (id:String) : List EvidenceRecord :=
 admissible.filter (·.obligationId=id)

def refuting : List EvidenceRecord :=
 records.filter (·.relation=.refutes)

def candidateRefuting : List EvidenceRecord :=
 (refuting records).filter (·.subject.isCandidate)

def baselineRuns : List RunObservation :=
 (records.filter fun item=>item.subject.isBaseline && item.oracle≠.redGreen).flatMap
  (·.observations)

structure Refuted (records:List EvidenceRecord) : Prop where
 strong : ∀record∈candidateRefuting records,isWeak record=false
 stable : classifyFlake ((candidateRefuting records).flatMap (·.observations))=.stableFail
 baseline : baselineRuns records=[] ∨ classifyFlake (baselineRuns records)=.stablePass

structure Discharging (obligation:ProofObligation) (records:List EvidenceRecord) : Prop where
 unrefuted : refuting records=[]
 supported : dischargingSupports obligation (records.filter (·.relation=.supports))≠[]
 stable : flakeStatus records=.stablePass

structure FailingSupports (obligation:ProofObligation) (records:List EvidenceRecord) :
  Prop where
 unrefuted : refuting records=[]
 supported : dischargingSupports obligation (records.filter (·.relation=.supports))≠[]
 failing : flakeStatus records=.stableFail

lemma classifyCounterevidence_eq_none_iff :
  classifyCounterevidence records=none ↔ refuting records=[] := by
 unfold classifyCounterevidence refuting
 by_cases h : records.filter (·.relation=.refutes)=[]
 · simp [h]
 · have hlen:(records.filter (·.relation=.refutes)).length≠0 := by
    rwa [ne_eq,length_eq_zero_iff]
   refine iff_of_false (fun heq=>?_) h
   simp only [if_neg hlen] at heq
   split_ifs at heq
   split at heq <;> cases heq

lemma confirmed_iff :
  (classifyCounterevidence records).any (·.isConfirmed)=true ↔ Refuted records := by
 have hcandidate:(records.filter (·.relation=.refutes)).filter (·.subject.isCandidate) =
   candidateRefuting records := rfl
 have hbaseline:(records.filter fun item=>item.subject.isBaseline &&
   item.oracle≠.redGreen).flatMap (·.observations)=baselineRuns records := rfl
 unfold classifyCounterevidence
 simp only [hcandidate,hbaseline]
 have hnil:classifyFlake []=.unknownInstability:=rfl
 by_cases href : (records.filter (·.relation=.refutes)).length=0
 · rw [if_pos href]
   refine iff_of_false (by simp) fun h=>?_
   have hnone:candidateRefuting records=[] := by
    rw [candidateRefuting,refuting,length_eq_zero_iff.mp href]
    rfl
   have hstable:=h.stable
   rw [hnone,flatMap_nil,hnil] at hstable
   cases hstable
 rw [if_neg href]
 by_cases hweak : (candidateRefuting records).any isWeak=true
 · rw [if_pos hweak]
   refine iff_of_false (by simp [Counterevidence.isConfirmed]) fun h=>?_
   obtain ⟨record,hmem,hrecord⟩:=any_eq_true.mp hweak
   rw [h.strong record hmem] at hrecord
   cases hrecord
 rw [if_neg hweak]
 have hstr:∀record∈candidateRefuting records,isWeak record=false := by
  intro record hmem
  by_contra hrecord
  exact hweak (any_eq_true.mpr ⟨record,hmem,by simpa using hrecord⟩)
 by_cases hnone : (candidateRefuting records).length=0
 · rw [if_pos hnone]
   refine iff_of_false (by simp [Counterevidence.isConfirmed]) fun h=>?_
   have hstable:=h.stable
   rw [length_eq_zero_iff.mp hnone,flatMap_nil,hnil] at hstable
   cases hstable
 rw [if_neg hnone]
 by_cases hpair : (baselineRuns records).length > 0
 · rw [if_pos hpair]
   have hne:baselineRuns records≠[]:=length_pos_iff.mp hpair
   have hiff:Refuted records ↔ pairedFlake (baselineRuns records)
     ((candidateRefuting records).flatMap (·.observations))=.stableFail := by
    rw [pairedFlake_eq_iff _ _ (by decide)]
    constructor
    · exact fun h=>⟨h.stable,h.baseline.resolve_left hne⟩
    · exact fun h=>⟨hstr,h.1,.inr h.2⟩
   rw [hiff]
   cases pairedFlake (baselineRuns records)
    ((candidateRefuting records).flatMap (·.observations)) <;>
    simp [Counterevidence.isConfirmed]
 · rw [if_neg hpair]
   have hempty:baselineRuns records=[] :=
    length_eq_zero_iff.mp (by omega)
   have hiff:Refuted records ↔
     classifyFlake ((candidateRefuting records).flatMap (·.observations))=.stableFail :=
    ⟨fun h=>h.stable, fun h=>⟨hstr,h,.inl hempty⟩⟩
   rw [hiff]
   generalize (candidateRefuting records).flatMap (·.observations)=runs
   by_cases hruns : runs=[]
   · rw [hruns,hnil]
     simp [Counterevidence.isConfirmed]
   · cases classifyFlake runs <;> simp [Counterevidence.isConfirmed,hruns]

variable (obligation:ProofObligation) (statuses:Statuses) (admissible:List EvidenceRecord)

lemma find_prerequisite_eq_none_iff :
  (obligation.prerequisites.find? fun pre=>statuses pre≠some .pass)=none ↔
   ∀pre∈obligation.prerequisites,statuses pre=some .pass := by
 rw [find?_eq_none]
 simp

/-- Confirmed counterevidence fails an obligation; otherwise the runs decide, once nothing is
missing. -/
lemma evaluate_status :
  (evaluateObligation obligation statuses admissible).status =
   if (classifyCounterevidence (related admissible obligation.id)).any (·.isConfirmed) then .fail
   else if (∀pre∈obligation.prerequisites,statuses pre=some .pass) ∧
     refuting (related admissible obligation.id)=[] ∧ dischargingSupports obligation
      ((related admissible obligation.id).filter (·.relation=.supports))≠[] then
    match flakeStatus (related admissible obligation.id) with
    | .unknownInstability => .unknown
    | .stableFail => .fail
    | .stablePass => .pass
   else .unknown := by
 have hrelated:admissible.filter (·.obligationId=obligation.id) =
   related admissible obligation.id := rfl
 simp only [← find_prerequisite_eq_none_iff,← classifyCounterevidence_eq_none_iff,
  evaluateObligation,hrelated]
 cases obligation.prerequisites.find? fun pre=>statuses pre≠some .pass with
 | some pre => split_ifs <;> simp_all
 | none =>
   cases classifyCounterevidence (related admissible obligation.id) with
   | some counter => split_ifs <;> simp_all
   | none =>
     by_cases hsupports : dischargingSupports obligation
       ((related admissible obligation.id).filter (·.relation=.supports))=[]
     · simp [hsupports]
     · simp only [Option.any_none,Option.isSome_none,Bool.false_eq_true,if_false,
        List.length_eq_zero_iff,hsupports,ne_eq,not_false_eq_true,and_self,if_true]
       cases flakeStatus (related admissible obligation.id) <;> rfl

lemma evaluate_pass_iff :
  (evaluateObligation obligation statuses admissible).status=.pass ↔
   (∀pre∈obligation.prerequisites,statuses pre=some .pass) ∧
    Discharging obligation (related admissible obligation.id) := by
 rw [evaluate_status]
 split_ifs with hconfirmed hready
 · refine iff_of_false (by simp) fun h=>?_
   rw [(classifyCounterevidence_eq_none_iff _).mpr h.2.unrefuted] at hconfirmed
   cases hconfirmed
 · obtain ⟨hpre,hunresolved,hsupports⟩:=hready
   cases hflake : flakeStatus (related admissible obligation.id) with
   | stablePass => exact iff_of_true rfl ⟨hpre,hunresolved,hsupports,hflake⟩
   | _ => exact iff_of_false (by simp) fun h=>by simp [h.2.stable] at hflake
 · exact iff_of_false (by simp) fun h=>hready ⟨h.1,h.2.unrefuted,h.2.supported⟩

lemma evaluate_fail_iff :
  (evaluateObligation obligation statuses admissible).status=.fail ↔
   Refuted (related admissible obligation.id) ∨
    (∀pre∈obligation.prerequisites,statuses pre=some .pass) ∧
     FailingSupports obligation (related admissible obligation.id) := by
 rw [evaluate_status,← confirmed_iff]
 split_ifs with hconfirmed hready
 · exact iff_of_true rfl (.inl hconfirmed)
 · obtain ⟨hpre,hunresolved,hsupports⟩:=hready
   rw [or_iff_right hconfirmed]
   cases hflake : flakeStatus (related admissible obligation.id) with
   | stableFail => exact iff_of_true rfl ⟨hpre,hunresolved,hsupports,hflake⟩
   | _ => exact iff_of_false (by simp) fun h=>by simp [h.2.failing] at hflake
 · rw [or_iff_right hconfirmed]
   exact iff_of_false (by simp) fun h=>hready ⟨h.1,h.2.unrefuted,h.2.supported⟩

lemma evaluate_fail_confirmed
  (h:(evaluateObligation obligation statuses admissible).status=.fail) :
  (evaluateObligation obligation statuses admissible).failure.any (·.isConfirmed)=true := by
 simp only [evaluateObligation] at h ⊢
 split at h
 · split_ifs at h ⊢ with hconfirmed
   exact hconfirmed
 · split_ifs at h ⊢ with hconfirmed
   · exact hconfirmed
   · split at h
     · cases h
     · rfl
     · cases h

end Obligations

section Runs

variable (admissible:List EvidenceRecord)

variable (order earlier:List ProofObligation) (obligation:ProofObligation)

def dischargedIds : Set String :=
 order.foldl (fun discharged obligation=>{ id | if id=obligation.id then
  (∀pre∈obligation.prerequisites,pre∈discharged) ∧
   Discharging obligation (related admissible obligation.id) else id∈discharged }) ∅

def DischargedAfter : Prop :=
 (∀pre∈obligation.prerequisites,pre∈dischargedIds admissible earlier) ∧
  Discharging obligation (related admissible obligation.id)

def FailsAfter : Prop :=
 Refuted (related admissible obligation.id) ∨
  (∀pre∈obligation.prerequisites,pre∈dischargedIds admissible earlier) ∧
   FailingSupports obligation (related admissible obligation.id)

lemma mem_dischargedIds_concat (id:String) :
  id∈dischargedIds admissible (earlier++[obligation]) ↔
   if id=obligation.id then DischargedAfter admissible earlier obligation
   else id∈dischargedIds admissible earlier := by
 rw [dischargedIds,foldl_append]
 rfl

def statusesAfter : Statuses :=
 order.foldl (fun statuses obligation=>update statuses obligation.id
  (some (evaluateObligation obligation statuses admissible).status)) fun _=>none

lemma statusesAfter_concat : statusesAfter admissible (earlier++[obligation]) =
  update (statusesAfter admissible earlier) obligation.id
   (some (evaluateObligation obligation (statusesAfter admissible earlier) admissible).status) := by
 rw [statusesAfter,foldl_append]
 rfl

lemma statusesAfter_eq_pass_iff (id:String) :
  statusesAfter admissible order id=some .pass ↔ id∈dischargedIds admissible order := by
 induction order using reverseRecOn generalizing id with
 | nil => exact iff_of_false (fun h=>by cases h) (fun h=>by cases h)
 | append_singleton earlier obligation ih =>
   rw [statusesAfter_concat,mem_dischargedIds_concat]
   by_cases h : id=obligation.id
   · rw [if_pos h,h,update_self,Option.some_inj,evaluate_pass_iff,DischargedAfter]
     exact and_congr_left' (forall₂_congr fun pre _=>ih pre)
   · rw [if_neg h,update_of_ne h,ih]

lemma mem_evaluateAll_iff (item:ObligationEvaluation) :
  item∈evaluateAll admissible (fun _=>none) order ↔
   ∃earlier obligation later,order=earlier++obligation::later ∧
     item=evaluateObligation obligation (statusesAfter admissible earlier) admissible := by
 -- Looked at with the obligations already evaluated in front.
 have hrest:∀front,item∈evaluateAll admissible (statusesAfter admissible front) order ↔
   ∃earlier obligation later,order=earlier++obligation::later ∧
     item=evaluateObligation obligation (statusesAfter admissible (front++earlier))
      admissible := by
  induction order with
  | nil =>
    intro front
    refine iff_of_false not_mem_nil ?_
    rintro ⟨earlier,obligation,later,h,-⟩
    exact append_ne_nil_of_right_ne_nil _ (cons_ne_nil _ _) h.symm
  | cons first order ih =>
    intro front
    rw [evaluateAll,mem_cons,← statusesAfter_concat,ih]
    constructor
    · rintro (rfl | ⟨earlier,obligation,later,rfl,rfl⟩)
      · exact ⟨[],first,order,rfl,by rw [append_nil]⟩
      · exact ⟨first::earlier,obligation,later,rfl,by rw [append_assoc]; rfl⟩
    · rintro ⟨earlier,obligation,later,hsplit,rfl⟩
      cases earlier with
      | nil =>
        obtain ⟨rfl,rfl⟩:=cons.inj hsplit
        exact .inl (by rw [append_nil])
      | cons head earlier =>
        obtain ⟨rfl,rfl⟩:=cons.inj hsplit
        exact .inr ⟨earlier,obligation,later,rfl,by rw [append_assoc]; rfl⟩
 exact hrest []

variable {admissible} {earlier:List ProofObligation} {obligation:ProofObligation}

lemma status_pass_iff :
  (evaluateObligation obligation (statusesAfter admissible earlier) admissible).status=.pass ↔
   DischargedAfter admissible earlier obligation := by
 rw [evaluate_pass_iff,DischargedAfter]
 exact and_congr_left' (forall₂_congr fun pre _=>statusesAfter_eq_pass_iff admissible _ pre)

@[simp] lemma evaluate_fields (statuses:Statuses) :
  (evaluateObligation obligation statuses admissible).mandatory=obligation.mandatory ∧
   (evaluateObligation obligation statuses admissible).obligationId=obligation.id := by
 simp only [evaluateObligation]
 split
 · split_ifs <;> exact ⟨rfl,rfl⟩
 · split_ifs <;> first | exact ⟨rfl,rfl⟩ | (split <;> exact ⟨rfl,rfl⟩)

end Runs

section Verdicts

variable {items:List ObligationEvaluation} {flags:Flags}

lemma decideVerdict_accepted_iff :
  decideVerdict items flags=.accepted ↔
   flags.integrityViolation=false ∧ flags.sealsValid=true ∧
    flags.unresolvedBlockers=false ∧ (∃item∈items,item.mandatory=true) ∧
     ∀item∈items,item.mandatory=true → item.status=.pass := by
 unfold decideVerdict
 simp only [List.any_eq_true,List.all_eq_true]
 constructor
 · intro h
   split_ifs at h with hintegrity hconfirmed hflags hnone hunknown hfail hall
   obtain ⟨item,hitem⟩:=List.exists_mem_of_ne_nil _ (mt List.length_eq_zero_iff.mpr hnone)
   simp only [Bool.or_eq_true,not_or,Bool.not_eq_true',Bool.not_eq_false,
    Bool.not_eq_true] at hflags
   refine ⟨by simpa using hintegrity,hflags.1,hflags.2,⟨item,List.mem_filter.mp hitem⟩,?_⟩
   intro item hitem hmandatory
   exact of_decide_eq_true (hall item (List.mem_filter.mpr ⟨hitem,hmandatory⟩))
 · rintro ⟨hintegrity,hseals,hblocking,⟨item,hitem,hmandatory⟩,hall⟩
   have hpass:∀other∈items.filter (·.mandatory),other.status=.pass:=fun other hother=>
    hall other (List.mem_filter.mp hother).1 (List.mem_filter.mp hother).2
   have hsome:(items.filter (·.mandatory)).length≠0 := by
    rw [ne_eq,List.length_eq_zero_iff]
    exact List.ne_nil_of_mem (List.mem_filter.mpr ⟨hitem,hmandatory⟩)
   rw [if_neg (by simp [hintegrity]),if_neg,if_neg (by simp [hseals,hblocking]),if_neg hsome,
    if_neg,if_neg,if_pos]
   · exact fun other hother=>decide_eq_true (hpass other hother)
   all_goals
    rintro ⟨other,hother,hstatus⟩
    simp [hpass other hother] at hstatus

lemma decideVerdict_rejected_iff :
  decideVerdict items flags=.rejected ↔
   flags.integrityViolation=true ∨ ∃item∈items,item.mandatory=true ∧
    item.status=.fail ∧ item.failure.any (·.isConfirmed)=true := by
 unfold decideVerdict
 simp only [List.any_eq_true,List.mem_filter,Bool.and_eq_true,decide_eq_true_eq,and_assoc]
 by_cases hintegrity : flags.integrityViolation=true
 · rw [if_pos hintegrity]
   exact iff_of_true rfl (.inl hintegrity)
 rw [if_neg hintegrity,or_iff_right hintegrity]
 by_cases hfail : ∃item∈items,item.mandatory=true ∧ item.status=.fail ∧
   item.failure.any (·.isConfirmed)=true
 · rw [if_pos hfail]
   exact iff_of_true rfl hfail
 · rw [if_neg hfail]
   refine iff_of_false ?_ hfail
   split_ifs <;> simp

lemma compileVerdictReport_ok {hashes:ReportHashes} {input:CompileVerdictInput}
  {report:VerdictReport} (h:compileVerdictReport hashes input=.ok report) :
  report.verdict=decideVerdict
    (evaluations input.obligations input.evidence input.assessments) input.flags ∧
   report.obligationResults =
    (evaluations input.obligations input.evidence input.assessments).map (fun item=>
     ⟨item.obligationId,item.status,item.evidenceIds,item.reason⟩) ∧
   hashes.evidenceRootDigest input.evidence=.ok report.evidenceRootDigest := by
 obtain ⟨failures,-,h⟩:=bind_eq_ok h
 obtain ⟨tampered,-,h⟩:=bind_eq_ok h
 obtain ⟨digest,hdigest,h⟩:=bind_eq_ok h
 cases h
 exact ⟨rfl,rfl,hdigest⟩

variable {obligations:List ProofObligation} {evidence:List EvidenceRecord}
 {assessments:List EvidenceAssessment}

lemma forall_evaluations_iff {P:ObligationEvaluation → Prop} :
  (∀item∈evaluations obligations evidence assessments,P item) ↔
   ∀earlier obligation later,
     topologicalObligations obligations=earlier++obligation::later →
     P (evaluateObligation obligation
      (statusesAfter (admissibleRecords evidence assessments) earlier)
      (admissibleRecords evidence assessments)) := by
 constructor
 · exact fun h earlier obligation later hsplit=>
    h _ ((mem_evaluateAll_iff _ _ _).mpr ⟨earlier,obligation,later,hsplit,rfl⟩)
 · intro h item hitem
   obtain ⟨earlier,obligation,later,hsplit,rfl⟩:=(mem_evaluateAll_iff _ _ item).mp hitem
   exact h earlier obligation later hsplit

lemma exists_evaluations_iff {P:ObligationEvaluation → Prop} :
  (∃item∈evaluations obligations evidence assessments,P item) ↔
   ∃earlier obligation later,
     topologicalObligations obligations=earlier++obligation::later ∧
     P (evaluateObligation obligation
      (statusesAfter (admissibleRecords evidence assessments) earlier)
      (admissibleRecords evidence assessments)) := by
 simpa using not_congr (forall_evaluations_iff (P := fun item=>¬P item))

lemma verdict_accepted_iff :
  decideVerdict (evaluations obligations evidence assessments) flags=.accepted ↔
   flags.integrityViolation=false ∧ flags.sealsValid=true ∧
    flags.unresolvedBlockers=false ∧
    (∃obligation∈topologicalObligations obligations,obligation.mandatory=true) ∧
    ∀earlier obligation later,
      topologicalObligations obligations=earlier++obligation::later →
      obligation.mandatory=true →
      DischargedAfter (admissibleRecords evidence assessments) earlier obligation := by
 rw [decideVerdict_accepted_iff]
 refine and_congr_right fun _=>and_congr_right fun _=>and_congr_right fun _=>
  and_congr ?_ ?_
 · simp only [exists_evaluations_iff,evaluate_fields]
   constructor
   · rintro ⟨earlier,obligation,later,hsplit,hmandatory⟩
     exact ⟨obligation,by simp [hsplit],hmandatory⟩
   · rintro ⟨obligation,hmem,hmandatory⟩
     obtain ⟨earlier,later,hsplit⟩:=append_of_mem hmem
     exact ⟨earlier,obligation,later,hsplit,hmandatory⟩
 · simp only [forall_evaluations_iff,evaluate_fields,status_pass_iff]

lemma verdict_rejected_iff :
  decideVerdict (evaluations obligations evidence assessments) flags=.rejected ↔
   flags.integrityViolation=true ∨ ∃earlier obligation later,
    topologicalObligations obligations=earlier++obligation::later ∧
    obligation.mandatory=true ∧
    FailsAfter (admissibleRecords evidence assessments) earlier obligation := by
 rw [decideVerdict_rejected_iff]
 refine or_congr_right ?_
 simp only [exists_evaluations_iff,evaluate_fields]
 refine exists₃_congr fun earlier obligation later=>and_congr_right fun _=>
  and_congr_right fun _=>?_
 refine (and_iff_left_of_imp (evaluate_fail_confirmed _ _ _)).trans ?_
 rw [evaluate_fail_iff,FailsAfter]
 exact or_congr_right (and_congr_left' (forall₂_congr fun pre _=>
  statusesAfter_eq_pass_iff _ _ pre))

end Verdicts

end EpistemicCompiler.VerdictRules
