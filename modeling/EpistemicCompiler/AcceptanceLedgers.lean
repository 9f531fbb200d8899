import Mathlib.Data.List.Basic

set_option autoImplicit false

/-!
# Acceptance ledgers

A criterion of the contract names the kinds of evidence that it requires. The ledger takes a command
that passed at any commit, finds nothing blocking in an empty list of reviews, and does not look for
inspections or reproductions.
-/
namespace EpistemicCompiler.AcceptanceLedgers
open List

inductive EvidenceKind where
 | command | diff | review | inspection | reproduction
 deriving DecidableEq

structure AcceptanceCriterion where
 id : String
 requiredEvidence : List EvidenceKind

structure CommandEvidence where
 evidenceId : String
 commitSha : String
 exitCode : Int
 stdoutDigest : String

structure CriterionEvidenceInput where
 acceptanceCriteria : List AcceptanceCriterion
 contractRevision : ℕ
 integrationCommit : String
 commandEvidence : List CommandEvidence
 reviewFindings : List Bool
 diffPaths : List String
 specUpdateSatisfied : Bool
 blockingFindings : Bool
 preExistingFailures : List String

inductive EvidenceRef where
 | cmd (evidenceId stdoutDigest:String)
 | diff (integrationCommit path:String)
 | review

def EvidenceRef.text : EvidenceRef → String
 | .cmd evidenceId stdoutDigest => "cmd:"++evidenceId ++ ":"++stdoutDigest
 | .diff integrationCommit path => "diff:"++integrationCommit ++ ":"++path
 | .review => "review:correctness:resolved"

def EvidenceRef.kind : EvidenceRef → EvidenceKind
 | .cmd _ _ => .command
 | .diff _ _ => .diff
 | .review => .review

inductive CriterionStatus where
 | proven | unproven
 deriving DecidableEq

structure LedgerCriterion where
 id : String
 status : CriterionStatus
 evidence : List String

structure AcceptanceLedger where
 schemaVersion : ℕ
 contractRevision : ℕ
 integrationCommit : String
 criteria : List LedgerCriterion
 unproven : List String
 preExistingFailures : List String
 closed : Bool

variable (input:CriterionEvidenceInput) (criterion:AcceptanceCriterion)

def evidenceOf : EvidenceKind → Option EvidenceRef
 | .command => (input.commandEvidence.find? (·.exitCode=0)).map fun item=>
   .cmd item.evidenceId item.stdoutDigest
 | .diff => input.diffPaths.head?.map (.diff input.integrationCommit)
 | .review => if input.reviewFindings.all (!·) then some .review else none
 | .inspection | .reproduction => none

def evidenceFor : List EvidenceRef :=
 [.command,.diff,.review].filterMap fun kind=>
  if kind∈criterion.requiredEvidence then evidenceOf input kind else none

def proven : Bool :=
 ([.command,.diff,.review].all fun kind=>
   kind ∉ criterion.requiredEvidence || (evidenceFor input criterion).any (·.kind=kind)) &&
  !input.blockingFindings

def ledgerCriterion : LedgerCriterion :=
 ⟨criterion.id,if proven input criterion then .proven else .unproven,
  (evidenceFor input criterion).map (·.text)⟩

def compileAcceptanceLedger : AcceptanceLedger :=
 let criteria:=input.acceptanceCriteria.map (ledgerCriterion input)
 let unproven:=(criteria.filter (·.status≠.proven)).map (·.id)
 ⟨1,input.contractRevision,input.integrationCommit,criteria,unproven,input.preExistingFailures,
  unproven.length=0 && !input.blockingFindings && input.specUpdateSatisfied &&
   input.integrationCommit ≠ ""⟩

def Requires (kind:EvidenceKind) : Prop :=
 ∃criterion∈input.acceptanceCriteria,kind∈criterion.requiredEvidence

structure Closing : Prop where
 commands : Requires input .command → ∃item∈input.commandEvidence,item.exitCode=0
 paths : Requires input .diff → input.diffPaths≠[]
 reviews : Requires input .review → ∀blocking∈input.reviewFindings,blocking=false
 done : input.blockingFindings=false ∧ input.specUpdateSatisfied=true ∧
  input.integrationCommit ≠ ""

def Witnessed : EvidenceKind → Prop
 | .command =>
   ∃item∈input.commandEvidence,item.exitCode=0 ∧ item.commitSha=input.integrationCommit
 | .review => input.reviewFindings≠[] ∧ ∀blocking∈input.reviewFindings,blocking=false
 | kind => ∃item∈evidenceFor input criterion,item.kind=kind

/-- Where commands are required one passed at the integration commit, where reviews are required
there are some, and otherwise only changed paths are required. -/
structure Answered : Prop where
 commands : Requires input .command →
  ∃item∈input.commandEvidence,item.exitCode=0 ∧ item.commitSha=input.integrationCommit
 reviews : Requires input .review → input.reviewFindings≠[]
 inspections : ¬ Requires input .inspection
 reproductions : ¬ Requires input .reproduction

variable {input criterion} {kind:EvidenceKind}

lemma evidence_isSome_iff : (evidenceOf input kind).isSome ↔
  match kind with
  | .command => ∃item∈input.commandEvidence,item.exitCode=0
  | .diff => input.diffPaths≠[]
  | .review => ∀blocking∈input.reviewFindings,blocking=false
  | .inspection | .reproduction => False := by
 cases kind <;> simp [evidenceOf]

lemma kind_of_evidence {item:EvidenceRef} (h:evidenceOf input kind=some item) :
  item.kind=kind := by
 cases kind with
 | command | diff =>
   obtain ⟨found,-,rfl⟩:=Option.map_eq_some_iff.mp h
   rfl
 | review =>
   obtain ⟨-,h⟩:=Option.ite_none_right_eq_some.mp h
   cases h
   rfl
 | inspection | reproduction => cases h

lemma exists_evidence_iff : (∃item∈evidenceFor input criterion,item.kind=kind) ↔
  kind∈criterion.requiredEvidence ∧ (evidenceOf input kind).isSome := by
 constructor
 · rintro ⟨item,hitem,rfl⟩
   obtain ⟨kind,-,hitem⟩:=mem_filterMap.mp hitem
   split_ifs at hitem with hkind
   rw [kind_of_evidence hitem]
   exact ⟨hkind,by simp [hitem]⟩
 · rintro ⟨hkind,hsome⟩
   obtain ⟨item,hitem⟩:=Option.isSome_iff_exists.mp hsome
   refine ⟨item,mem_filterMap.mpr ⟨kind,?_,(if_pos hkind).trans hitem⟩,kind_of_evidence hitem⟩
   cases kind with
   | command | diff | review => decide
   | inspection | reproduction => cases hitem

lemma proven_iff : proven input criterion=true ↔
  (∀kind∈[EvidenceKind.command,.diff,.review],kind∈criterion.requiredEvidence →
    (evidenceOf input kind).isSome) ∧ input.blockingFindings=false := by
 simp only [proven,Bool.and_eq_true,all_eq_true,Bool.or_eq_true,decide_eq_true_eq,any_eq_true,
  exists_evidence_iff,Bool.not_eq_true']
 refine and_congr_left' (forall₂_congr fun kind _=>?_)
 by_cases hkind : kind∈criterion.requiredEvidence <;> simp [hkind]

lemma closed_iff : (compileAcceptanceLedger input).closed=true ↔ Closing input := by
 have hclosed:(compileAcceptanceLedger input).closed=true ↔
   (∀criterion∈input.acceptanceCriteria,proven input criterion=true) ∧
    input.blockingFindings=false ∧ input.specUpdateSatisfied=true ∧
     input.integrationCommit ≠ "" := by
  simp [compileAcceptanceLedger,ledgerCriterion,and_assoc]
 rw [hclosed]
 constructor
 · rintro ⟨hproven,hrest⟩
   have hfound:∀kind∈[EvidenceKind.command,.diff,.review],Requires input kind →
     (evidenceOf input kind).isSome := by
    rintro kind hkind ⟨criterion,hcriterion,hrequired⟩
    exact (proven_iff.mp (hproven criterion hcriterion)).1 kind hkind hrequired
   simp only [forall_mem_cons,not_mem_nil,evidence_isSome_iff] at hfound
   exact ⟨hfound.1,hfound.2.1,hfound.2.2.1,hrest⟩
 · rintro ⟨hcomm,hpaths,hreviews,hrest⟩
   refine ⟨fun criterion hcriterion=>proven_iff.mpr ⟨?_,hrest.1⟩,hrest⟩
   simp only [forall_mem_cons,evidence_isSome_iff]
   refine ⟨fun h=>hcomm ⟨_,hcriterion,h⟩,fun h=>hpaths ⟨_,hcriterion,h⟩,
    fun h=>hreviews ⟨_,hcriterion,h⟩,fun _ h=>absurd h not_mem_nil⟩

theorem ledger_witnessed_iff : ((compileAcceptanceLedger input).closed=true →
   ∀criterion∈input.acceptanceCriteria,∀kind∈criterion.requiredEvidence,
    Witnessed input criterion kind) ↔ (Closing input → Answered input) := by
 rw [closed_iff]
 refine imp_congr_right fun hclosing=>?_
 constructor
 · intro h
   refine ⟨?_,?_,?_,?_⟩ <;> rintro ⟨criterion,hcriterion,hkind⟩
   · exact h criterion hcriterion _ hkind
   · exact (h criterion hcriterion _ hkind).1
   -- Nothing is kept for the last two kinds.
   all_goals
    have hfound:=exists_evidence_iff.mp (h criterion hcriterion _ hkind)
    exact evidence_isSome_iff.mp hfound.2
 · rintro h criterion hcriterion kind hkind
   have hrequires:Requires input kind:=⟨criterion,hcriterion,hkind⟩
   cases kind with
   | command => exact h.commands hrequires
   | diff =>
     have hpaths:=hclosing.paths hrequires
     exact exists_evidence_iff.mpr ⟨hkind,evidence_isSome_iff.mpr hpaths⟩
   | review => exact ⟨h.reviews hrequires,hclosing.reviews hrequires⟩
   | inspection => exact absurd hrequires h.inspections
   | reproduction => exact absurd hrequires h.reproductions

def unreviewed : CriterionEvidenceInput :=
 ⟨[⟨"AC-1",[.review]⟩],1,"abc",[],[],[],true,false,[]⟩

theorem unreviewed_closes : (compileAcceptanceLedger unreviewed).closed=true ∧
  ¬ ∀criterion∈unreviewed.acceptanceCriteria,∀kind∈criterion.requiredEvidence,
    Witnessed unreviewed criterion kind :=
 ⟨by decide,fun h=>(h _ mem_cons_self .review mem_cons_self).1 rfl⟩

end EpistemicCompiler.AcceptanceLedgers
