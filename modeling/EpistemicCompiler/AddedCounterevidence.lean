import EpistemicCompiler.VerdictCoverage

set_option autoImplicit false

/-!
# Adding counterevidence

One more refutation discharges nothing, so it never leads to acceptance. It can take a rejection
back: a weak refutation silences the strong ones beside it, and a single failure is not yet stable
where failing supports were.
-/
namespace EpistemicCompiler.AddedCounterevidence
open Verdicts VerdictRules VerdictCoverage FallibleRuns List

variable {record:EvidenceRecord} {front back:List EvidenceRecord}

variable (admissible:List EvidenceRecord) (leftOut:String) (order:List ProofObligation)

def rank : Verdict → ℕ
 | .rejected => 0
 | .inconclusive => 1
 | .accepted => 2

structure Refutation (record:EvidenceRecord) : Prop where
 refutes : record.relation=.refutes
 candidate : record.subject.isCandidate=true
 failing : ∀item∈record.observations,item.isFail=true

structure Adds (record:EvidenceRecord) (before after:CompileVerdictInput) : Prop where
 obligations : after.obligations=before.obligations
 flags : after.flags=before.flags
 admissible : ∃front back,
  admissibleRecords before.evidence before.assessments=front++back ∧
   admissibleRecords after.evidence after.assessments=front++record::back

/-- The refutations among the records confirm a failure once the record is among them. -/
structure RefutedWith (record:EvidenceRecord) (records:List EvidenceRecord) : Prop where
 addedStrong : isWeak record=false
 strong : ∀other∈candidateRefuting records,isWeak other=false
 unpassed : passCount ((candidateRefuting records).flatMap (·.observations))=0
 enough : 3 ≤ failCount ((candidateRefuting records).flatMap (·.observations)) +
  record.observations.length
 baseline : baselineRuns records=[] ∨ classifyFlake (baselineRuns records)=.stablePass

lemma related_insert_of_ne {id:String} (h:record.obligationId≠id) :
  related (front++record::back) id=related (front++back) id := by
 simp [related,h]

lemma related_insert_self :
  related (front++record::back) record.obligationId =
   related front record.obligationId++record::related back record.obligationId := by
 simp [related]

lemma refuting_insert_ne_nil (h:Refutation record) : refuting (front++record::back)≠[] := by
 apply ne_nil_of_mem (a := record)
 simp [refuting,h.refutes]

lemma candidateRefuting_append (left right:List EvidenceRecord) :
  candidateRefuting (left++right)=candidateRefuting left++candidateRefuting right := by
 simp [candidateRefuting,refuting]

lemma candidateRefuting_insert (h:Refutation record) :
  candidateRefuting (front++record::back) =
   candidateRefuting front++record::candidateRefuting back := by
 simp [candidateRefuting,refuting,h.refutes,h.candidate]

lemma baselineRuns_insert (h:Refutation record) :
  baselineRuns (front++record::back)=baselineRuns (front++back) := by
 have hbaseline:record.subject.isBaseline=false := by
  have hcandidate:=h.candidate
  cases hsubject : record.subject with
  | baseline => simp [hsubject,EvidenceSubject.isCandidate] at hcandidate
  | candidate => rfl
 simp [baselineRuns,hbaseline]

lemma refuted_insert_iff (h:Refutation record) :
  Refuted (front++record::back) ↔ RefutedWith record (front++back) := by
 have hpass:passCount record.observations=0 :=
  passCount_eq_zero_iff.mpr fun item hitem=>not_isPass_of_isFail (h.failing item hitem)
 have hfail:failCount record.observations=record.observations.length := by
  rw [failCount,filter_eq_self.mpr h.failing]
 have hstr:(∀other∈candidateRefuting (front++record::back),isWeak other=false) ↔
   isWeak record=false ∧ ∀other∈candidateRefuting (front++back),isWeak other=false := by
  rw [candidateRefuting_insert h,candidateRefuting_append,forall_mem_append,forall_mem_append,
   forall_mem_cons]
  exact and_left_comm
 have hstable:classifyFlake ((candidateRefuting (front++record::back)).flatMap
    (·.observations))=.stableFail ↔
   passCount ((candidateRefuting (front++back)).flatMap (·.observations))=0 ∧
    3 ≤ failCount ((candidateRefuting (front++back)).flatMap (·.observations)) +
      record.observations.length := by
  rw [stableFail_iff,candidateRefuting_insert h,candidateRefuting_append]
  simp only [passCount,failCount,flatMap_append,flatMap_cons,filter_append,length_append]
   at hpass hfail ⊢
  omega
 constructor
 · intro hrefuted
   obtain ⟨hadded,hother⟩:=hstr.mp hrefuted.strong
   obtain ⟨hunpaired,henough⟩:=hstable.mp hrefuted.stable
   exact ⟨hadded,hother,hunpaired,henough,baselineRuns_insert h ▸ hrefuted.baseline⟩
 · intro hwith
   refine ⟨hstr.mpr ⟨hwith.addedStrong,hwith.strong⟩,
    hstable.mpr ⟨hwith.unpassed,hwith.enough⟩,?_⟩
   rw [baselineRuns_insert h]
   exact hwith.baseline

def dischargedWithout : Set String :=
 order.foldl (fun discharged obligation=>{ id | if id=obligation.id then
  obligation.id≠leftOut ∧ (∀pre∈obligation.prerequisites,pre∈discharged) ∧
   Discharging obligation (related admissible obligation.id) else id∈discharged }) ∅

def KeepsFailing (record:EvidenceRecord) (admissible:List EvidenceRecord)
    (earlier:List ProofObligation) (obligation:ProofObligation) : Prop :=
 if obligation.id=record.obligationId then
  RefutedWith record (related admissible obligation.id)
 else
  Refuted (related admissible obligation.id) ∨
   (∀pre∈obligation.prerequisites,
    pre∈dischargedWithout admissible record.obligationId earlier) ∧
   FailingSupports obligation (related admissible obligation.id)

lemma mem_dischargedWithout_concat (earlier:List ProofObligation) (obligation:ProofObligation)
  (id:String) :
  id∈dischargedWithout admissible leftOut (earlier++[obligation]) ↔
   if id=obligation.id then
    obligation.id≠leftOut ∧
     (∀pre∈obligation.prerequisites,pre∈dischargedWithout admissible leftOut earlier) ∧
      Discharging obligation (related admissible obligation.id)
   else id∈dischargedWithout admissible leftOut earlier := by
 rw [dischargedWithout,foldl_append]
 rfl

lemma dischargedWithout_subset :
  dischargedWithout admissible leftOut order ⊆ dischargedIds admissible order := by
 induction order using reverseRecOn with
 | nil => exact fun _ h=>h
 | append_singleton earlier obligation ih =>
   intro id h
   rw [mem_dischargedWithout_concat] at h
   rw [mem_dischargedIds_concat]
   split_ifs at h ⊢ with hid
   · exact ⟨fun pre hpre=>ih (h.2.1 pre hpre), h.2.2⟩
   · exact ih h

lemma discharging_insert_iff (h:Refutation record) (obligation:ProofObligation) :
  Discharging obligation (related (front++record::back) obligation.id) ↔
   obligation.id≠record.obligationId ∧
    Discharging obligation (related (front++back) obligation.id) := by
 by_cases hid : obligation.id=record.obligationId
 · refine iff_of_false (fun hdischarged=>?_) fun hboth=>hboth.1 hid
   rw [hid,related_insert_self] at hdischarged
   exact refuting_insert_ne_nil h hdischarged.unrefuted
 · rw [related_insert_of_ne (Ne.symm hid),and_iff_right hid]

lemma dischargedIds_insert (h:Refutation record) (order:List ProofObligation) :
  dischargedIds (front++record::back) order =
   dischargedWithout (front++back) record.obligationId order := by
 induction order using reverseRecOn with
 | nil => rfl
 | append_singleton earlier obligation ih =>
   ext id
   rw [mem_dischargedIds_concat,mem_dischargedWithout_concat,DischargedAfter,ih,
    discharging_insert_iff h,and_left_comm]

lemma failsAfter_insert_iff (h:Refutation record) (earlier:List ProofObligation)
  (obligation:ProofObligation) :
  FailsAfter (front++record::back) earlier obligation ↔
   KeepsFailing record (front++back) earlier obligation := by
 rw [FailsAfter,KeepsFailing,dischargedIds_insert h]
 by_cases hid : obligation.id=record.obligationId
 · have hrelated:related (front++back) record.obligationId =
     related front record.obligationId++related back record.obligationId := by
    simp [related]
   rw [if_pos hid,hid,related_insert_self,refuted_insert_iff h,hrelated]
   refine or_iff_left fun hfailing=>?_
   exact refuting_insert_ne_nil h hfailing.2.unrefuted
 · rw [if_neg hid,related_insert_of_ne (Ne.symm hid)]

section

variable {hashes:ReportHashes} {before after:CompileVerdictInput}
 {report report':VerdictReport}

lemma accepted_of_adds (hadds:Adds record before after) (hrecord:Refutation record)
  (hbefore:compileVerdictReport hashes before=.ok report)
  (hafter:compileVerdictReport hashes after=.ok report')
  (haccept:report'.verdict=.accepted) : report.verdict=.accepted := by
 obtain ⟨front,back,hwithout,hwith⟩:=hadds.admissible
 rw [(compileVerdictReport_ok hafter).1,verdict_accepted_iff,hadds.obligations,hadds.flags,
  hwith] at haccept
 rw [(compileVerdictReport_ok hbefore).1,verdict_accepted_iff,hwithout]
 obtain ⟨hintegrity,hseals,hblocking,hsome,hall⟩:=haccept
 refine ⟨hintegrity,hseals,hblocking,hsome,fun earlier obligation later hsplit hmandatory=>?_⟩
 obtain ⟨hneeds,hdischarged⟩:=hall earlier obligation later hsplit hmandatory
 rw [dischargedIds_insert hrecord] at hneeds
 exact ⟨fun pre hpre=>dischargedWithout_subset _ _ _ (hneeds pre hpre),
  ((discharging_insert_iff hrecord obligation).mp hdischarged).2⟩

lemma rank_le_iff {verdict verdict':Verdict} (h:verdict'=.accepted → verdict=.accepted) :
  rank verdict' ≤ rank verdict ↔ verdict'=.rejected ∨ verdict≠.rejected := by
 cases verdict <;> cases verdict' <;> simp [rank] at h ⊢

/-- One more failing record against the candidate does not raise the verdict exactly when tampering
decides it, nothing mandatory fails without the record, or something mandatory keeps failing. -/
theorem added_refutation_iff (hashes:ReportHashes) (before after:CompileVerdictInput)
  (record:EvidenceRecord) (report report':VerdictReport) (hadds:Adds record before after)
  (hrecord:Refutation record) (hbefore:compileVerdictReport hashes before=.ok report)
  (hafter:compileVerdictReport hashes after=.ok report') :
  rank report'.verdict ≤ rank report.verdict ↔
   before.flags.integrityViolation=true ∨
   (∀earlier obligation later,
    topologicalObligations before.obligations=earlier++obligation::later →
    obligation.mandatory=true →
    ¬FailsAfter (admissibleRecords before.evidence before.assessments) earlier obligation) ∨
   ∃earlier obligation later,
     topologicalObligations before.obligations=earlier++obligation::later ∧
     obligation.mandatory=true ∧
     KeepsFailing record (admissibleRecords before.evidence before.assessments) earlier
      obligation := by
 have haccepted:=accepted_of_adds hadds hrecord hbefore hafter
 obtain ⟨front,back,hwithout,hwith⟩:=hadds.admissible
 rw [rank_le_iff haccepted,ne_eq,(compileVerdictReport_ok hbefore).1,
  (compileVerdictReport_ok hafter).1,verdict_rejected_iff,verdict_rejected_iff,hadds.obligations,
  hadds.flags,hwith,hwithout]
 simp only [failsAfter_insert_iff hrecord]
 constructor
 · rintro ((hintegrity | hkeeps) | hnone)
   · exact .inl hintegrity
   · exact .inr (.inr hkeeps)
   · refine .inr (.inl fun earlier obligation later hsplit hmandatory hfails=>hnone (.inr ?_))
     exact ⟨earlier,obligation,later,hsplit,hmandatory,hfails⟩
 · rintro (hintegrity | hnone | hkeeps)
   · exact .inl (.inl hintegrity)
   · by_cases hintegrity : before.flags.integrityViolation=true
     · exact .inl (.inl hintegrity)
     · refine .inr (not_or.mpr ⟨hintegrity,?_⟩)
       rintro ⟨earlier,obligation,later,hsplit,hmandatory,hfails⟩
       exact hnone earlier obligation later hsplit hmandatory hfails
   · exact .inl (.inr hkeeps)

def sampleFailed : RunObservation := ⟨1,.failed,none,none,none,none⟩

def sampleRefutation (id:String) (origin:EvidenceOrigin) : EvidenceRecord :=
 ⟨id,"a",.refutes,origin,"",.explicitExpectation,"",.candidate "","generic-process","","",
  [sampleFailed,sampleFailed,sampleFailed],[]⟩

def sampleRejected (evidence:List EvidenceRecord) : CompileVerdictInput :=
 { sampleInput [sampleObligation "a" []] with
   evidence
   assessments:=[⟨"1",.admissible,""⟩,⟨"2",.admissible,""⟩] }

lemma adds_sample (origin:EvidenceOrigin) :
  Adds (sampleRefutation "2" origin) (sampleRejected [sampleRefutation "1" .verifier])
    (sampleRejected [sampleRefutation "1" .verifier,sampleRefutation "2" origin]) ∧
   Refutation (sampleRefutation "2" origin) := by
 refine ⟨⟨rfl,rfl,[sampleRefutation "1" .verifier],[],?_,?_⟩,rfl,rfl,?_⟩
 · decide +kernel
 · cases origin <;> decide +kernel
 · intro item hitem
   simp [sampleRefutation] at hitem
   rw [hitem]
   rfl

theorem added_refutation_iff_sample :
  ∃report report',
    compileVerdictReport sampleHashes (sampleRejected [sampleRefutation "1" .verifier]) =
     .ok report ∧
    compileVerdictReport sampleHashes (sampleRejected
     [sampleRefutation "1" .verifier,sampleRefutation "2" .verifier])=.ok report' ∧
    rank report'.verdict ≤ rank report.verdict := by
 obtain ⟨report,hreport⟩:=exists_ok_of_isOk (show (compileVerdictReport sampleHashes
  (sampleRejected [sampleRefutation "1" .verifier])).isOk=true by decide +kernel)
 obtain ⟨report',hreport'⟩:=exists_ok_of_isOk (show (compileVerdictReport sampleHashes
  (sampleRejected [sampleRefutation "1" .verifier,sampleRefutation "2" .verifier])).isOk=true
   by decide +kernel)
 refine ⟨report,report',hreport,hreport',(added_refutation_iff _ _ _ _ report report'
  (adds_sample .verifier).1 (adds_sample .verifier).2 hreport hreport').mpr
   (.inr (.inr ⟨[],sampleObligation "a" [],[],by decide +kernel,rfl,?_⟩))⟩
 exact ⟨by decide,by decide +kernel,by decide +kernel,by decide +kernel,.inl rfl⟩

/-- A failing test by the author of the candidate takes the rejection back. -/
theorem rejection_taken_back :
  ∃report report',
    Adds (sampleRefutation "2" .candidateTest) (sampleRejected [sampleRefutation "1" .verifier])
     (sampleRejected [sampleRefutation "1" .verifier,sampleRefutation "2" .candidateTest]) ∧
    Refutation (sampleRefutation "2" .candidateTest) ∧
    compileVerdictReport sampleHashes (sampleRejected [sampleRefutation "1" .verifier]) =
     .ok report ∧ report.verdict=.rejected ∧
    compileVerdictReport sampleHashes (sampleRejected
     [sampleRefutation "1" .verifier,sampleRefutation "2" .candidateTest])=.ok report' ∧
    report'.verdict=.inconclusive := by
 obtain ⟨report,hreport,hrejected⟩:=exists_ok_of_any (show (compileVerdictReport sampleHashes
  (sampleRejected [sampleRefutation "1" .verifier])).toOption.any
   (·.verdict=.rejected)=true by decide +kernel)
 obtain ⟨report',hreport',hinconclusive⟩:=exists_ok_of_any (show (compileVerdictReport
  sampleHashes (sampleRejected [sampleRefutation "1" .verifier,
   sampleRefutation "2" .candidateTest])).toOption.any (·.verdict=.inconclusive)=true by
    decide +kernel)
 exact ⟨report,report',(adds_sample .candidateTest).1,(adds_sample .candidateTest).2,hreport,
  of_decide_eq_true hrejected,hreport',of_decide_eq_true hinconclusive⟩

end

end EpistemicCompiler.AddedCounterevidence
