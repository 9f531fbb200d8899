import EpistemicCompiler.VerdictRules
import EpistemicCompiler.VerificationRuns

set_option autoImplicit false

/-!
# What an accepted verdict covers

An accepted verdict speaks for the mandatory obligations that come out of the queue; what the queue
drops, or a later obligation of the same id replaces, it does not mention.
-/
namespace EpistemicCompiler.VerdictCoverage
open QueueOrder Verdicts VerificationRuns VerdictRules FallibleRuns List Bool

variable (obligations:List ProofObligation) {hashes:ReportHashes} {input:CompileVerdictInput}
 {report:VerdictReport}

section Order

variable {obligations:List ProofObligation}

lemma id_of_obligationById {id:String} {obligation:ProofObligation}
  (h:obligationById obligations id=some obligation) : obligation.id=id := by
 simpa using find?_some h

lemma exists_obligationById {obligation:ProofObligation} (h:obligation∈obligations) :
  ∃last,obligationById obligations obligation.id=some last := by
 rw [← Option.isSome_iff_exists,obligationById,find?_isSome]
 exact ⟨obligation,mem_reverse.mpr h,by simp⟩

lemma mem_topologicalObligations_iff (obligation:ProofObligation) :
  obligation∈topologicalObligations obligations ↔
   Released (obligationNodes obligations) obligation.id ∧
    obligationById obligations obligation.id=some obligation := by
 rw [topologicalObligations,mem_filterMap]
 constructor
 · rintro ⟨id,hid,hlast⟩
   rw [id_of_obligationById hlast]
   exact ⟨(mem_order_iff _).mp hid,hlast⟩
 · rintro ⟨hreleased,hlast⟩
   exact ⟨obligation.id,(mem_order_iff _).mpr hreleased,hlast⟩

end Order

def Covered (report:VerdictReport) (obligation:ProofObligation) : Prop :=
 (∃result∈report.obligationResults,result.obligationId=obligation.id) ∧
  ∀result∈report.obligationResults,result.obligationId=obligation.id →
    result.status=.pass

/-- No later obligation makes the id optional, or else that one is discharged by its records. -/
def Kept (input:CompileVerdictInput) (obligation:ProofObligation) : Prop :=
 ∀last,obligationById input.obligations obligation.id=some last → last.mandatory=true ∨
   ∀earlier later,topologicalObligations input.obligations=earlier++last::later →
     DischargedAfter (admissibleRecords input.evidence input.assessments) earlier last

lemma mem_obligationResults_iff (h:compileVerdictReport hashes input=.ok report) (id:String)
  (status:ObligationStatus) :
  (∃result∈report.obligationResults,result.obligationId=id ∧ result.status=status) ↔
   ∃earlier last later,
     topologicalObligations input.obligations=earlier++last::later ∧ last.id=id ∧
     (evaluateObligation last
      (statusesAfter (admissibleRecords input.evidence input.assessments) earlier)
      (admissibleRecords input.evidence input.assessments)).status=status := by
 rw [(compileVerdictReport_ok h).2.1]
 simp only [mem_map,exists_exists_and_eq_and]
 simp only [exists_evaluations_iff,evaluate_fields]

lemma covered_iff (h:compileVerdictReport hashes input=.ok report)
  (haccept:report.verdict=.accepted) {obligation:ProofObligation}
  (hmem:obligation∈input.obligations) :
  Covered report obligation ↔
   Released (obligationNodes input.obligations) obligation.id ∧ Kept input obligation := by
 have hresult:=mem_obligationResults_iff h obligation.id
 have hsplitMem:∀{earlier later:List ProofObligation} {last:ProofObligation},
   topologicalObligations input.obligations=earlier++last::later →
   last∈topologicalObligations input.obligations := by
  intro earlier later last hsplit
  rw [hsplit]
  simp
 constructor
 · rintro ⟨⟨result,hlisted,hid⟩,hall⟩
   obtain ⟨earlier,last,later,hsplit,hlast,-⟩ :=
    (hresult result.status).mp ⟨result,hlisted,hid,rfl⟩
   obtain ⟨hreleased,-⟩:=(mem_topologicalObligations_iff last).mp (hsplitMem hsplit)
   refine ⟨hlast ▸ hreleased,fun last' hlast'=>.inr fun earlier' later' hsplit'=>?_⟩
   have hid':=id_of_obligationById hlast'
   obtain ⟨result',hlisted',hid'',hstatus⟩:=(hresult _).mpr
    ⟨earlier',last',later',hsplit',hid',rfl⟩
   rw [hall result' hlisted' hid''] at hstatus
   exact status_pass_iff.mp hstatus.symm
 · rintro ⟨hreleased,hkept⟩
   obtain ⟨last,hlast⟩:=exists_obligationById hmem
   have hid:=id_of_obligationById hlast
   have htop:last∈topologicalObligations input.obligations :=
    (mem_topologicalObligations_iff last).mpr ⟨hid ▸ hreleased,hid ▸ hlast⟩
   obtain ⟨earlier,later,hsplit⟩:=append_of_mem htop
   constructor
   · obtain ⟨result,hlisted,hresultId,-⟩:=(hresult _).mpr ⟨earlier,last,later,hsplit,hid,rfl⟩
     exact ⟨result,hlisted,hresultId⟩
   · intro result hlisted hresultId
     obtain ⟨earlier',last',later',hsplit',hid',hstatus⟩ :=
      (hresult result.status).mp ⟨result,hlisted,hresultId,rfl⟩
     obtain ⟨-,hlast'⟩:=(mem_topologicalObligations_iff last').mp (hsplitMem hsplit')
     rw [hid',hlast] at hlast'
     cases hlast'
     rw [(compileVerdictReport_ok h).1,verdict_accepted_iff] at haccept
     rw [← hstatus,status_pass_iff]
     rcases hkept last hlast with hmandatory | hdischarged
     · exact haccept.2.2.2.2 earlier' last later' hsplit' hmandatory
     · exact hdischarged earlier' later' hsplit'

/-- An accepted report covers the mandatory obligations exactly when the sort releases each of them
and no later obligation of the same id makes it optional without being discharged. -/
theorem accepted_covers_iff (hashes:ReportHashes) (input:CompileVerdictInput)
  (report:VerdictReport) (h:compileVerdictReport hashes input=.ok report)
  (haccepted:report.verdict=.accepted) :
  (∀obligation∈input.obligations,obligation.mandatory=true →
    Covered report obligation) ↔
   ∀obligation∈input.obligations,obligation.mandatory=true →
     Released (obligationNodes input.obligations) obligation.id ∧ Kept input obligation :=
 forall₂_congr fun _ hmem=>imp_congr_right fun _=>covered_iff h haccepted hmem

def sampleHashes : ReportHashes := ⟨fun _=>.ok "", fun _=>.ok ""⟩

def sampleObligation (id:String) (prerequisites:List String) : ProofObligation :=
 ⟨id,.universal,true,prerequisites⟩

def samplePassed : RunObservation := ⟨1,.passed,none,none,none,none⟩

def sampleSupport (id:String) : EvidenceRecord :=
 ⟨id,id,.supports,.verifier,"",.explicitExpectation,"",.candidate "","generic-process","",
  "",[samplePassed,samplePassed,samplePassed],[]⟩

def sampleInput : CompileVerdictInput where
 obligations
 baselineSealObjectDigest := ""
 planObjectDigest := ""
 evidence := [sampleSupport "a"]
 assessments := [⟨"a",.admissible,""⟩]
 subject := .changeset ""
 flags := ⟨false,true,false⟩

theorem accepted_covers_iff_sample :
  ∃report,compileVerdictReport sampleHashes (sampleInput [sampleObligation "a" []]) =
    .ok report ∧ report.verdict=.accepted ∧
    ∀obligation∈[sampleObligation "a" []],obligation.mandatory=true →
      Covered report obligation := by
 obtain ⟨report,hreport,haccepted⟩:=exists_ok_of_any (show (compileVerdictReport sampleHashes
  (sampleInput [sampleObligation "a" []])).toOption.any (·.verdict=.accepted)=true by
   decide +kernel)
 refine ⟨report,hreport,of_decide_eq_true haccepted,
  (accepted_covers_iff _ _ report hreport (of_decide_eq_true haccepted)).mpr ?_⟩
 intro obligation hmem _
 obtain rfl:=mem_singleton.mp hmem
 refine ⟨(mem_order_iff _).mp (by decide +kernel),fun last hlast=>.inl ?_⟩
 have hmemLast:=mem_reverse.mp (mem_of_find?_eq_some hlast)
 rw [mem_singleton.mp hmemLast]
 rfl

/-- The obligation `b` waits for itself, and the verdict is accepted without it. -/
theorem accepted_without_cycle :
  ∃report,compileVerdictReport sampleHashes
    (sampleInput [sampleObligation "a" [],sampleObligation "b" ["b"]])=.ok report ∧
    report.verdict=.accepted ∧ ¬Covered report (sampleObligation "b" ["b"]) := by
 obtain ⟨report,hreport,hboth⟩:=exists_ok_of_any (show (compileVerdictReport sampleHashes
  (sampleInput [sampleObligation "a" [],sampleObligation "b" ["b"]])).toOption.any
   (fun report=>report.verdict=.accepted &&
    !report.obligationResults.any (·.obligationId = "b"))=true by decide +kernel)
 rw [and_eq_true,decide_eq_true_eq,not_eq_true'] at hboth
 refine ⟨report,hreport,hboth.1,?_⟩
 rintro ⟨⟨result,hresult,hid⟩,-⟩
 exact any_eq_false.mp hboth.2 result hresult (decide_eq_true hid)

section Evidence

variable (admissible:List EvidenceRecord)

def Supported (obligation:ProofObligation) : Prop :=
 ∃record∈admissible,record.obligationId=obligation.id ∧ record.relation=.supports ∧
   record.subject.isCandidate=true ∧ ∃item∈record.observations,item.state=.passed

/-- Some supporting record is about the candidate and more than a red-green result without runs. -/
def AboutCandidate (obligation:ProofObligation) : Prop :=
 ∃record∈admissible,record.obligationId=obligation.id ∧ record.relation=.supports ∧
   record.subject.isCandidate=true ∧
    (record.oracle≠.redGreen ∨ ∃item∈record.observations,item.state=.passed)

def Evaluated (obligation:ProofObligation) : Prop :=
 Released (obligationNodes obligations) obligation.id ∧
  ∀last,obligationById obligations obligation.id=some last → last.mandatory=true

lemma exists_passed {observations:List RunObservation} (h:0<passCount observations) :
  ∃item∈observations,item.state=.passed := by
 obtain ⟨item,hitem⟩:=exists_mem_of_length_pos h
 obtain ⟨hmem,hpass⟩:=mem_filter.mp hitem
 exact ⟨item,hmem,of_decide_eq_true hpass⟩

variable {obligation:ProofObligation} {record:EvidenceRecord}

lemma supports_of_scored {records:List EvidenceRecord}
  (h:Discharging obligation records) (hmem:record∈records)
  (hscored:record.relation≠.neutral) : record.relation=.supports := by
 have href:record.relation≠.refutes:=fun heq=>
  filter_eq_nil_iff.mp h.unrefuted record hmem (decide_eq_true heq)
 cases hrelation : record.relation with
 | supports => rfl
 | refutes => exact absurd hrelation href
 | neutral => exact absurd hrelation hscored

lemma exists_passed_run {records:List EvidenceRecord} (h:Discharging obligation records)
  (hmem:record∈records) (hsupports:record.relation=.supports)
  (hcandidate:record.subject.isCandidate=true) (horacle:record.oracle≠.redGreen) :
  ∃other∈records,other.relation=.supports ∧ other.subject.isCandidate=true ∧
    ∃item∈other.observations,item.state=.passed := by
 have hstable:=h.stable
 simp only [flakeStatus] at hstable
 have hscored:record∈records.filter fun item=>
   item.oracle≠.redGreen && item.relation≠.neutral := by
  rw [mem_filter]
  exact ⟨hmem,by simp [horacle,hsupports]⟩
 split_ifs at hstable with hpair hunstable hfail
 · -- Both sides ran: the passes are spread over the records about the candidate.
   obtain ⟨hpassed,-⟩:=(pairedFlake_eq_iff _ _ (by decide)).mp hstable
   obtain ⟨-,hpassed⟩:=(stablePass_iff _).mp hpassed
   obtain ⟨item,hitem,hran⟩:=exists_passed (Nat.lt_of_lt_of_le (by omega) hpassed)
   obtain ⟨other,hother,hitem⟩:=mem_flatMap.mp hitem
   obtain ⟨hother,hotherCandidate⟩:=mem_filter.mp hother
   obtain ⟨hotherMem,hotherScored⟩:=mem_filter.mp hother
   rw [and_eq_true,decide_eq_true_eq,decide_eq_true_eq] at hotherScored
   exact ⟨other,hotherMem,supports_of_scored h hotherMem hotherScored.2,hotherCandidate,item,
    hitem,hran⟩
 · -- One side did not run: the record is a stable pass by itself.
   have hclass:=mem_map_of_mem (f:=fun item : EvidenceRecord=>
    classifyFlake item.observations) hscored
   have hpass:classifyFlake record.observations=.stablePass := by
    cases hflake : classifyFlake record.observations with
    | stablePass => rfl
    | stableFail => exact absurd (hflake ▸ hclass) hfail
    | unknownInstability => exact absurd (hflake ▸ hclass) hunstable
   obtain ⟨-,hpassed⟩:=(stablePass_iff _).mp hpass
   obtain ⟨item,hitem,hran⟩:=exists_passed (Nat.lt_of_lt_of_le (by omega) hpassed)
   exact ⟨record,hmem,hsupports,hcandidate,item,hitem,hran⟩

lemma mem_related_iff {admissible:List EvidenceRecord} {id:String} :
  record∈related admissible id ↔ record∈admissible ∧ record.obligationId=id := by
 rw [related,mem_filter,decide_eq_true_eq]

lemma supported_iff_aboutCandidate {admissible:List EvidenceRecord} {last:ProofObligation}
  (hid:last.id=obligation.id) (h:Discharging last (related admissible last.id)) :
  Supported admissible obligation ↔ AboutCandidate admissible obligation := by
 constructor
 · rintro ⟨record,hmem,hrecordId,hsupports,hcandidate,hran⟩
   exact ⟨record,hmem,hrecordId,hsupports,hcandidate,.inr hran⟩
 · rintro ⟨record,hmem,hrecordId,hsupports,hcandidate,horacle | hran⟩
   · obtain ⟨other,hother,hrest⟩:=exists_passed_run h
      (mem_related_iff.mpr ⟨hmem,hrecordId.trans hid.symm⟩) hsupports hcandidate horacle
     obtain ⟨hotherMem,hotherId⟩:=mem_related_iff.mp hother
     exact ⟨other,hotherMem,hotherId.trans hid,hrest⟩
   · exact ⟨record,hmem,hrecordId,hsupports,hcandidate,hran⟩

/-- Every mandatory obligation has a record that shows a passed run of the candidate. -/
def RestsOnRuns : Prop :=
 ∀obligation∈obligations,obligation.mandatory=true → Supported admissible obligation

/-- Every mandatory obligation that is evaluated has a supporting record about the candidate that is
no red-green result without a passed run. What is not evaluated must show its run by itself. -/
def BringsRuns : Prop :=
 ∀obligation∈obligations,obligation.mandatory=true →
   (Evaluated obligations obligation → AboutCandidate admissible obligation) ∧
   (¬Evaluated obligations obligation → Supported admissible obligation)

lemma restsOnRuns_iff (h:compileVerdictReport hashes input=.ok report)
  (haccept:report.verdict=.accepted) :
  RestsOnRuns input.obligations (admissibleRecords input.evidence input.assessments) ↔
   BringsRuns input.obligations (admissibleRecords input.evidence input.assessments) := by
 rw [(compileVerdictReport_ok h).1,verdict_accepted_iff] at haccept
 refine forall₂_congr fun obligation hmem=>imp_congr_right fun _=>?_
 by_cases heval : Evaluated input.obligations obligation
 · obtain ⟨last,hlast⟩:=exists_obligationById hmem
   have hid:=id_of_obligationById hlast
   have htop:last∈topologicalObligations input.obligations :=
    (mem_topologicalObligations_iff last).mpr ⟨hid ▸ heval.1,hid ▸ hlast⟩
   obtain ⟨earlier,later,hsplit⟩:=append_of_mem htop
   have hdischarged:=haccept.2.2.2.2 earlier last later hsplit (heval.2 last hlast)
   rw [supported_iff_aboutCandidate hid hdischarged.2]
   exact ⟨fun hsupports=>⟨fun _=>hsupports, fun hnot=>absurd heval hnot⟩,
    fun hboth=>hboth.1 heval⟩
 · exact ⟨fun hsupports=>⟨fun hnow=>absurd hnow heval, fun _=>hsupports⟩,
    fun hboth=>hboth.2 heval⟩

/-- An accepted verdict, of a compiled report or of a whole run, rests on runs of the candidate
exactly when the evidence brings them. -/
theorem accepted_restsOnRuns_iff (services:EvidenceServices) (hashes:ReportHashes) :
  (∀input report,compileVerdictReport hashes input=.ok report → report.verdict=.accepted →
   (RestsOnRuns input.obligations (admissibleRecords input.evidence input.assessments) ↔
    BringsRuns input.obligations (admissibleRecords input.evidence input.assessments))) ∧
  ∀run result,runVerification services hashes run=.ok result →
    result.report.verdict=.accepted →
    (RestsOnRuns run.obligations (admissibleRecords result.evidence
      (assessAll services (assessContext run) result.evidence)) ↔
     BringsRuns run.obligations (admissibleRecords result.evidence
      (assessAll services (assessContext run) result.evidence))) := by
 constructor
 · intro input report h haccepted
   exact restsOnRuns_iff h haccepted
 · intro run result h haccepted
   obtain ⟨gaming,-,h⟩:=bind_eq_ok h
   obtain ⟨redGreen,-,h⟩:=bind_eq_ok h
   obtain ⟨report,hreport,h⟩:=bind_eq_ok h
   cases h
   exact restsOnRuns_iff hreport haccepted

def sampleServices : EvidenceServices where
 policyRevisionDigest := ""
 observationSignature _ := ""
 objectDigestFromText _ := ""
 mintGeneralId name _ := name
 verifyArtifactEnvelope _ _ := true

theorem accepted_restsOnRuns_iff_sample :
  ∃report,compileVerdictReport sampleHashes (sampleInput [sampleObligation "a" []]) =
    .ok report ∧ report.verdict=.accepted ∧
    RestsOnRuns [sampleObligation "a" []] (admissibleRecords [sampleSupport "a"]
     [⟨"a",.admissible,""⟩]) := by
 obtain ⟨report,hreport,haccepted⟩:=exists_ok_of_any (show (compileVerdictReport sampleHashes
  (sampleInput [sampleObligation "a" []])).toOption.any (·.verdict=.accepted)=true by
   decide +kernel)
 refine ⟨report,hreport,of_decide_eq_true haccepted,
  ((accepted_restsOnRuns_iff sampleServices sampleHashes).1 _ report hreport
    (of_decide_eq_true haccepted)).mpr ?_⟩
 intro obligation hmem _
 obtain rfl:=mem_singleton.mp hmem
 have hrecord:sampleSupport "a"∈admissibleRecords [sampleSupport "a"]
   [⟨"a",.admissible,""⟩] := by decide +kernel
 exact ⟨fun _=>⟨_,hrecord,rfl,rfl,rfl,.inl (by decide)⟩,
  fun _=>⟨_,hrecord,rfl,rfl,rfl,samplePassed,by simp [sampleSupport],rfl⟩⟩

def sampleRun : RunVerificationInput where
 obligations := [sampleObligation "a" []]
 planBaselineSealObjectDigest := ""
 planObjectDigest := ""
 evidenceRecords := []
 checkRecords := []
 firstCheck := none
 bindings := ⟨"","","","",""⟩
 subject := .changeset ""
 flags := ⟨false,true,false⟩
 producerIds := ["generic-process"]
 mutatedEvidenceIds := []
 artifacts _ := none
 gaming := none
 redGreen := some [⟨"","",[⟨1,.failed,none,none,none,none⟩],[],true,false,false⟩]
 evidenceEnvelopes _ := none
 envelopePublicKey := none

/-- A test that failed on the baseline and never ran on the candidate is enough to accept it. -/
theorem accepted_without_run :
  ∃result,runVerification sampleServices sampleHashes sampleRun=.ok result ∧
    result.report.verdict=.accepted ∧
    ¬RestsOnRuns sampleRun.obligations (admissibleRecords result.evidence
     (assessAll sampleServices (assessContext sampleRun) result.evidence)) := by
 obtain ⟨result,hresult,hboth⟩:=exists_ok_of_any (show (runVerification sampleServices
  sampleHashes sampleRun).toOption.any (fun result=>result.report.verdict=.accepted &&
   result.evidence.all (·.observations=[]))=true by decide +kernel)
 rw [and_eq_true,decide_eq_true_eq] at hboth
 refine ⟨result,hresult,hboth.1,fun hrests=>?_⟩
 obtain ⟨record,hrecord,-,-,-,item,hitem,-⟩ :=
  hrests (sampleObligation "a" []) (mem_singleton_self _) rfl
 have hempty:=all_eq_true.mp hboth.2 record (mem_filter.mp hrecord).1
 rw [of_decide_eq_true hempty] at hitem
 cases hitem

end Evidence

end EpistemicCompiler.VerdictCoverage
