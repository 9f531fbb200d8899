import Mathlib.Data.List.Perm.Subperm

set_option autoImplicit false

/-!
# Workflow nodes and the catalog of profiles

A profile is a list of nodes with their dependencies. The keys of the catalog and of the
compiler form an enumeration; the node type itself is generic in its keys. Retry policies are
the same constant everywhere and are left out.
-/
namespace EpistemicCompiler.ProfileCatalog

inductive AgentRole where
 | analyst | investigator | planner | implementer | reviewer | specReviewer | securityReviewer
 | architectureReviewer | testReviewer | performanceReviewer | conflictResolver
 | finalSynthesizer
 deriving DecidableEq

inductive TaskKind where
 | feature | bugfix | research | spec | refactor
 deriving DecidableEq

inductive WorkflowProfileId where
 | fast | standard | highRisk | research | specOnly | feature | bugfix | refactor

inductive ConcurrencyGroup where
 | read | write | review
 deriving DecidableEq

inductive ControllerOperation where
 | deterministicIntegration | verification | regressionVerification | baselineCharacterization
 | behavioralEquivalence | specConsistency | evidenceCompleteness | consistencyGate | acceptance
 | migrationDryRun | rollbackEvidence
 deriving DecidableEq

inductive ArtifactType where
 | taskContract | investigationReport | implementationPlan | changeShards | changeManifest
 | changeset | reviewFindings | commandEvidence | verdictReport | acceptanceLedger
 | reproductionUnavailable | specUpdateNotRequired
 deriving DecidableEq

structure WorkflowNode (κ:Type) where
 id : κ
 role : Option AgentRole
 operation : Option ControllerOperation
 dependsOn : List κ
 when : Option String
 invalidates : List κ
 concurrencyGroup : Option ConcurrencyGroup

inductive NodeKey where
 | analyst | codeInvestigator | specInvestigator | planner | planCritic | implementer
 | integration | verification | reviewer | repairImplementer | freshReviewer | specConsistency
 | acceptance | reproductionInvestigator | rootCauseInvestigator | secondHypothesis
 | regressionVerification | investigator | securityReviewer | architectureReviewer
 | testReviewer | historyInvestigator | externalInvestigator | contradictionFinder
 | synthesizer | evidenceCompleteness | behaviorInvestigator | constraintInvestigator
 | specAuthor | specReviewer | consistencyGate | dependencyInvestigator | characterization
 | equivalence | blastRadiusInvestigator | performanceReviewer | inventoryInvestigator
 | phaseInvestigator | migrationDryRun | confirmationInvestigator | similarPatternInvestigator
 | impactInvestigator | recoveryVerification | postmortemSynthesizer | consumerInvestigator
 | docsInvestigator | toolingInvestigator | architectureInvestigator | rollbackEvidence
 | generatorInvestigator
 deriving DecidableEq

def nodeKeys : List NodeKey := [
 .analyst,.codeInvestigator,.specInvestigator,.planner,.planCritic,.implementer,
 .integration,.verification,.reviewer,.repairImplementer,.freshReviewer,.specConsistency,
 .acceptance,.reproductionInvestigator,.rootCauseInvestigator,.secondHypothesis,
 .regressionVerification,.investigator,.securityReviewer,.architectureReviewer,
 .testReviewer,.historyInvestigator,.externalInvestigator,.contradictionFinder,
 .synthesizer,.evidenceCompleteness,.behaviorInvestigator,.constraintInvestigator,
 .specAuthor,.specReviewer,.consistencyGate,.dependencyInvestigator,.characterization,
 .equivalence,.blastRadiusInvestigator,.performanceReviewer,.inventoryInvestigator,
 .phaseInvestigator,.migrationDryRun,.confirmationInvestigator,.similarPatternInvestigator,
 .impactInvestigator,.recoveryVerification,.postmortemSynthesizer,.consumerInvestigator,
 .docsInvestigator,.toolingInvestigator,.architectureInvestigator,.rollbackEvidence,
 .generatorInvestigator]

lemma mem_nodeKeys (k:NodeKey) : k∈nodeKeys := by
 cases k <;> decide

lemma length_le_nodeKeys {ids:List NodeKey} (h:ids.Nodup) : ids.length ≤ 50 :=
 (List.subperm_of_subset h fun k _=>mem_nodeKeys k).length_le

abbrev ProfileNode := WorkflowNode NodeKey

def agentNode (id:NodeKey) (role:AgentRole) (group:ConcurrencyGroup)
    (dependsOn:List NodeKey) : ProfileNode :=
 ⟨id,some role,none,dependsOn,none,[],some group⟩

def controllerNode (id:NodeKey) (operation:ControllerOperation) (dependsOn:List NodeKey) :
    ProfileNode :=
 ⟨id,none,some operation,dependsOn,none,[],none⟩

def agentNodeWhen (predicate:String) (invalidates:List NodeKey) (id:NodeKey)
    (role:AgentRole) (group:ConcurrencyGroup) (dependsOn:List NodeKey) : ProfileNode :=
 ⟨id,some role,none,dependsOn,some predicate,invalidates,some group⟩

structure AcceptancePolicy where
 requireReviewer : Bool
 requireCommandEvidence : Bool
 requireFreshReviewAfterRepair : Bool
 allowResearchWithoutWrite : Bool

structure WorkflowProfile where
 id : WorkflowProfileId
 appliesTo : List TaskKind
 nodes : List ProfileNode
 requiredArtifacts : List ArtifactType
 acceptancePolicy : AcceptancePolicy

def featureStandardAccept : AcceptancePolicy :=
 ⟨true,true,true,false⟩

def featureProfile : WorkflowProfile where
 id := .feature
 appliesTo := [.feature]
 nodes := [
  agentNode .analyst .analyst .read [],
  agentNode .codeInvestigator .investigator .read [.analyst],
  agentNode .specInvestigator .investigator .read [.analyst],
  agentNode .planner .planner .read [.codeInvestigator,.specInvestigator],
  agentNodeWhen "HIGH_RISK" [] .planCritic .architectureReviewer .review [.planner],
  agentNode .implementer .implementer .write [.planner],
  controllerNode .integration .deterministicIntegration [.implementer],
  controllerNode .verification .verification [.integration],
  agentNode .reviewer .reviewer .review [.verification],
  agentNodeWhen "HAS_BLOCKING_FINDINGS" [.verification,.reviewer] .repairImplementer
   .implementer .write [.reviewer],
  agentNodeWhen "HAS_BLOCKING_FINDINGS" [] .freshReviewer .reviewer .review
   [.repairImplementer],
  controllerNode .specConsistency .specConsistency [.reviewer],
  controllerNode .acceptance .acceptance [.specConsistency]]
 requiredArtifacts :=
  [.taskContract,.implementationPlan,.changeManifest,.reviewFindings,.acceptanceLedger]
 acceptancePolicy := featureStandardAccept

def bugfixProfile : WorkflowProfile where
 id := .bugfix
 appliesTo := [.bugfix]
 nodes := [
  agentNode .analyst .analyst .read [],
  agentNode .reproductionInvestigator .investigator .read [.analyst],
  agentNode .rootCauseInvestigator .investigator .read [.reproductionInvestigator],
  agentNodeWhen "UNSTABLE_BUG" [] .secondHypothesis .investigator .read
   [.reproductionInvestigator],
  agentNode .planner .planner .read [.rootCauseInvestigator],
  agentNode .implementer .implementer .write [.planner],
  controllerNode .regressionVerification .regressionVerification [.implementer],
  agentNode .reviewer .reviewer .review [.regressionVerification],
  agentNodeWhen "HAS_BLOCKING_FINDINGS" [.regressionVerification,.reviewer] .repairImplementer
   .implementer .write [.reviewer],
  agentNodeWhen "HAS_BLOCKING_FINDINGS" [] .freshReviewer .reviewer .review
   [.repairImplementer],
  controllerNode .acceptance .acceptance [.reviewer]]
 requiredArtifacts :=
  [.taskContract,.investigationReport,.implementationPlan,.changeManifest,.reviewFindings,
   .acceptanceLedger]
 acceptancePolicy := featureStandardAccept

def fastProfile : WorkflowProfile where
 id := .fast
 appliesTo := [.feature,.bugfix]
 nodes := [
  agentNode .analyst .analyst .read [],
  agentNode .investigator .investigator .read [.analyst],
  agentNode .implementer .implementer .write [.investigator],
  controllerNode .verification .verification [.implementer],
  agentNode .reviewer .reviewer .review [.verification],
  agentNodeWhen "HAS_BLOCKING_FINDINGS" [.verification,.reviewer] .repairImplementer
   .implementer .write [.reviewer],
  agentNodeWhen "HAS_BLOCKING_FINDINGS" [] .freshReviewer .reviewer .review
   [.repairImplementer],
  controllerNode .acceptance .acceptance [.reviewer]]
 requiredArtifacts := [.taskContract,.changeManifest,.reviewFindings,.acceptanceLedger]
 acceptancePolicy := featureStandardAccept

def highRiskProfile : WorkflowProfile where
 id := .highRisk
 appliesTo := [.feature,.bugfix,.refactor]
 nodes := featureProfile.nodes.filter (·.id≠.acceptance)++[
  agentNode .securityReviewer .securityReviewer .review [.reviewer],
  agentNode .architectureReviewer .architectureReviewer .review [.reviewer],
  agentNode .testReviewer .testReviewer .review [.reviewer],
  controllerNode .acceptance .acceptance
   [.securityReviewer,.architectureReviewer,.testReviewer,.specConsistency]]
 requiredArtifacts :=
  [.taskContract,.implementationPlan,.changeManifest,.reviewFindings,.acceptanceLedger]
 acceptancePolicy := featureStandardAccept

def researchProfile : WorkflowProfile where
 id := .research
 appliesTo := [.research]
 nodes := [
  agentNode .analyst .analyst .read [],
  agentNode .codeInvestigator .investigator .read [.analyst],
  agentNode .specInvestigator .investigator .read [.analyst],
  agentNode .historyInvestigator .investigator .read [.analyst],
  agentNodeWhen "EXTERNAL_RESEARCH" [] .externalInvestigator .investigator .read [.analyst],
  agentNode .contradictionFinder .conflictResolver .review
   [.codeInvestigator,.specInvestigator,.historyInvestigator],
  agentNode .synthesizer .finalSynthesizer .review [.contradictionFinder],
  controllerNode .evidenceCompleteness .evidenceCompleteness [.synthesizer],
  controllerNode .acceptance .acceptance [.evidenceCompleteness]]
 requiredArtifacts := [.taskContract,.investigationReport,.acceptanceLedger]
 acceptancePolicy := ⟨false,false,false,true⟩

def specOnlyProfile : WorkflowProfile where
 id := .specOnly
 appliesTo := [.spec]
 nodes := [
  agentNode .analyst .analyst .read [],
  agentNode .behaviorInvestigator .investigator .read [.analyst],
  agentNode .constraintInvestigator .investigator .read [.analyst],
  agentNode .specAuthor .implementer .write [.behaviorInvestigator,.constraintInvestigator],
  agentNode .specReviewer .specReviewer .review [.specAuthor],
  controllerNode .consistencyGate .consistencyGate [.specReviewer],
  controllerNode .acceptance .acceptance [.consistencyGate]]
 requiredArtifacts := [.taskContract,.changeManifest,.reviewFindings,.acceptanceLedger]
 acceptancePolicy := featureStandardAccept

def refactorProfile : WorkflowProfile where
 id := .refactor
 appliesTo := [.refactor]
 nodes := [
  agentNode .analyst .analyst .read [],
  agentNode .dependencyInvestigator .investigator .read [.analyst],
  controllerNode .characterization .baselineCharacterization [.dependencyInvestigator],
  agentNode .planner .planner .read [.characterization],
  agentNode .implementer .implementer .write [.planner],
  controllerNode .equivalence .behavioralEquivalence [.implementer],
  agentNode .architectureReviewer .architectureReviewer .review [.equivalence],
  controllerNode .acceptance .acceptance [.architectureReviewer]]
 requiredArtifacts :=
  [.taskContract,.implementationPlan,.changeManifest,.reviewFindings,.acceptanceLedger]
 acceptancePolicy := featureStandardAccept

end EpistemicCompiler.ProfileCatalog
