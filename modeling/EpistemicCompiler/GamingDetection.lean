import Mathlib.Data.List.Perm.Subperm

set_option autoImplicit false

/-!
# Comparing test discoveries

The tests that a candidate collects are compared with those of the sealed tree. Names and filters
are compared as sets, skips and focused tests by their number.
-/
namespace EpistemicCompiler.GamingDetection
open List

structure TestDiscovery where
 names : List String
 skipped : List String
 focused : List String
 filters : List String
 assertionCount : Int
 runnerConfigDigest : String
 fixtureDigests : List (String×String)
 exitCode : Int
 parsedFailed : Int
 parsedPassed : Int
 visualGoldensUpdatedByCandidate : Bool

inductive GamingCode where
 | testSkipAdded
 | gamingTestFilter
 | testWeakened
 | testRunnerTamper
 | gamingOutputForgery
 | testNotCollected
 | testSnapshotSelfApproved

structure GamingFinding where
 code : GamingCode
 summary : String

variable (sealed candidate:TestDiscovery)

def finding (found:Bool) (code:GamingCode) (summary:String) : List GamingFinding :=
 if found then [⟨code,summary⟩] else []

def detectGaming : List GamingFinding :=
 finding (candidate.names.length<sealed.names.length ||
   sealed.names.any (· ∉ candidate.names))
  .gamingTestFilter "candidate dropped sealed test names" ++
 finding (candidate.skipped.length > sealed.skipped.length)
  .testSkipAdded "candidate added skips or xfail" ++
 finding (candidate.focused.length > 0 && candidate.focused.length<candidate.names.length)
  .gamingTestFilter "candidate used focus/only selection" ++
 finding (candidate.filters.any (· ∉ sealed.filters))
  .gamingTestFilter "candidate introduced a test filter" ++
 finding (candidate.assertionCount<sealed.assertionCount)
  .testWeakened "candidate reduced assertion count" ++
 finding (candidate.runnerConfigDigest≠sealed.runnerConfigDigest)
  .testRunnerTamper "candidate changed runner or config" ++
 sealed.fixtureDigests.flatMap (fun fixture=>
  finding (candidate.fixtureDigests.lookup fixture.1≠some fixture.2)
   .testRunnerTamper ("fixture "++fixture.1 ++ " changed")) ++
 finding (candidate.exitCode=0 && candidate.parsedFailed > 0)
  .gamingOutputForgery "exit code 0 disagrees with parsed failures" ++
 finding (candidate.parsedPassed+candidate.parsedFailed+candidate.skipped.length=0 &&
   candidate.exitCode=0)
  .testNotCollected "exit code 0 with zero collected tests" ++
 finding candidate.visualGoldensUpdatedByCandidate
  .testSnapshotSelfApproved "visual golden updated by the candidate cannot confirm itself"

def Runs (discovery:TestDiscovery) (name:String) : Prop :=
 name∈discovery.names ∧ name ∉ discovery.skipped

structure Faithful : Prop where
 runs : ∀name,Runs sealed name → Runs candidate name
 focused : candidate.focused≠[] → ∀name,Runs sealed name → name∈candidate.focused
 filters : candidate.filters ⊆ sealed.filters

variable {sealed candidate}

lemma finding_eq_nil_iff {found:Bool} {code:GamingCode} {summary:String} :
  finding found code summary=[] ↔ found=false := by
 cases found <;> simp [finding]

lemma compared_of_no_finding (h:detectGaming sealed candidate=[]) :
  sealed.names ⊆ candidate.names ∧ candidate.skipped.length ≤ sealed.skipped.length ∧
   (candidate.focused≠[] → candidate.names.length ≤ candidate.focused.length) ∧
   candidate.filters ⊆ sealed.filters := by
 simp only [detectGaming,append_eq_nil_iff,finding_eq_nil_iff,Bool.or_eq_false_iff,
  Bool.and_eq_false_iff,any_eq_false,decide_eq_true_eq,decide_eq_false_iff_not,not_not,
  gt_iff_lt,Nat.not_lt] at h
 obtain ⟨⟨⟨⟨⟨⟨⟨⟨⟨hnames,hskipped⟩,hfocused⟩,hfilters⟩,-⟩,-⟩,-⟩,-⟩,-⟩,-⟩:=h
 refine ⟨hnames.2,hskipped,fun hsome=>hfocused.resolve_left ?_,hfilters⟩
 exact Nat.not_le.mpr (length_pos_of_ne_nil hsome)

/-- A list without repetitions that is as long as one it is contained in has all of its members. -/
lemma subset_of_length_le {part whole:List String} (hnodup:part.Nodup) (hpart:part ⊆ whole)
  (hlength:whole.length ≤ part.length) : whole ⊆ part :=
 ((hnodup.subperm hpart).perm_of_length_le hlength).symm.subset

/-- Without a finding nothing is lost where the sealed skips are listed once and are all skipped
again, and the focused tests are listed once and are tests of the candidate. Where as many tests are
skipped, each listed once and collected in the sealed tree, nothing is lost only if the sealed skips
are all skipped again. -/
theorem faithful_of_no_finding (h:detectGaming sealed candidate=[])
  (hsealed:sealed.skipped.Nodup) (hfocused:candidate.focused.Nodup)
  (hwithin:candidate.focused ⊆ candidate.names) :
  (sealed.skipped ⊆ candidate.skipped → Faithful sealed candidate) ∧
  (candidate.skipped.Nodup → candidate.skipped ⊆ sealed.names →
   sealed.skipped.length ≤ candidate.skipped.length → Faithful sealed candidate →
    sealed.skipped ⊆ candidate.skipped) := by
 obtain ⟨hnames,hskipped,hfocus,hfilters⟩:=compared_of_no_finding h
 constructor
 · intro hkept
   have hskips:candidate.skipped ⊆ sealed.skipped:=subset_of_length_le hsealed hkept hskipped
   refine ⟨fun name hrun=>⟨hnames hrun.1,fun hskip=>hrun.2 (hskips hskip)⟩,
    fun hsome name hrun=>?_,hfilters⟩
   exact subset_of_length_le hfocused hwithin (hfocus hsome) (hnames hrun.1)
 · intro hnodup hcollected hlength hfaithful
   refine subset_of_length_le hnodup (fun name hskip=>?_) hlength
   by_contra hrun
   exact (hfaithful.runs name ⟨hcollected hskip,hrun⟩).2 hskip

def sampleDiscovery (skipped focused:List String) : TestDiscovery where
 names := ["alpha","beta"]
 skipped
 focused
 filters := []
 assertionCount := 4
 runnerConfigDigest := "runner"
 fixtureDigests := [("a.json","fixture")]
 exitCode := 0
 parsedFailed := 0
 parsedPassed := 1
 visualGoldensUpdatedByCandidate := false

theorem faithful_of_no_finding_sample :
  detectGaming (sampleDiscovery ["beta"] []) (sampleDiscovery ["beta"] ["beta","alpha"])=[] ∧
   Faithful (sampleDiscovery ["beta"] []) (sampleDiscovery ["beta"] ["beta","alpha"]) :=
 ⟨by decide,(faithful_of_no_finding (by decide) (by decide) (by decide) (by decide)).1 (by decide)⟩

/-- A skip moves from one test to another, the sealed skips name one test twice, the focused tests
name one twice, or they are none of the collected ones. -/
theorem skip_moved_undetected :
  Forall (fun pair=>detectGaming pair.1 pair.2=[] ∧ ¬ Faithful pair.1 pair.2)
   [(sampleDiscovery ["beta"] [],sampleDiscovery ["alpha"] []),
    (sampleDiscovery ["beta","beta"] [],sampleDiscovery ["beta","alpha"] []),
    (sampleDiscovery [] [],sampleDiscovery [] ["alpha","alpha"]),
    (sampleDiscovery [] [],sampleDiscovery [] ["gamma","delta"])] := by
 refine ⟨⟨by decide,fun h=>?_⟩,⟨by decide,fun h=>?_⟩,⟨by decide,fun h=>?_⟩,by decide,fun h=>?_⟩
 · exact (h.runs "alpha" ⟨by decide,by decide⟩).2 (by decide)
 · exact (h.runs "alpha" ⟨by decide,by decide⟩).2 (by decide)
 · exact absurd (h.focused (by decide) "beta" ⟨by decide,by decide⟩) (by decide)
 · exact absurd (h.focused (by decide) "beta" ⟨by decide,by decide⟩) (by decide)

end EpistemicCompiler.GamingDetection
