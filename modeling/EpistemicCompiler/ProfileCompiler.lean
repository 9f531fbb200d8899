import EpistemicCompiler.DependencySearch
import EpistemicCompiler.ProfileComposition

set_option autoImplicit false

/-!
# The profile compiler

A composition is compiled by loading the nodes of its intent into a graph and by letting secondary
intents, overlays, packs, delivery and budget add, rewire and remove nodes.
-/
namespace EpistemicCompiler.ProfileCompiler
open ProfileCatalog ProfileComposition

inductive NodeProvenance where
 | intent (id:PrimaryIntent)
 | secondary (id:PrimaryIntent)
 | overlay (id:RiskOverlay)
 | pack (id:VerificationPackId)
 | delivery (id:DeliveryMode)
 | budget (id:ExecutionBudget)

structure GraphState where
 nodes : List ProfileNode
 provenance : List (NodeKey×NodeProvenance)
 deferredGates : List ControllerOperation
 forbiddenActions : List String

variable (graph:GraphState) (composition:RunComposition) (id:NodeKey) (node:ProfileNode)

def emptyGraph : GraphState :=
 ⟨[],[],[],[]⟩

def GraphState.nodeById : Option ProfileNode :=
 graph.nodes.find? (·.id=id)

def modifyNode (id:NodeKey) (change:ProfileNode → ProfileNode) :
    List ProfileNode → List ProfileNode
 | [] => []
 | node::nodes =>
   if node.id=id then change node::nodes else node::modifyNode id change nodes

def setProvenance (record:List (NodeKey×NodeProvenance)) (id:NodeKey)
    (provenance:NodeProvenance) : List (NodeKey×NodeProvenance) :=
 if id∈record.map (·.1) then
  record.map fun entry=>if entry.1=id then (id,provenance) else entry
 else record++[(id,provenance)]

def mergeNode (existing:ProfileNode) : ProfileNode :=
 { existing with
   dependsOn:=unique (existing.dependsOn++node.dependsOn)
   invalidates:=unique (existing.invalidates++node.invalidates)
   when:=existing.when.or node.when }

def addNode (provenance:NodeProvenance) : GraphState :=
 match graph.nodeById node.id with
 | some _ => { graph with nodes:=modifyNode node.id (mergeNode node) graph.nodes }
 | none =>
   { graph with
     nodes:=graph.nodes++[node]
     provenance:=setProvenance graph.provenance node.id provenance }

def dropReference : ProfileNode :=
 { node with
   dependsOn:=node.dependsOn.filter (·≠id)
   invalidates:=node.invalidates.filter (·≠id) }

def removeNode : GraphState :=
 { graph with
   nodes:=(graph.nodes.filter (·.id≠id)).map (dropReference id)
   provenance:=graph.provenance.filter (·.1≠id) }

def forbid (actions:List String) : GraphState :=
 { graph with forbiddenActions:=unique (graph.forbiddenActions++actions) }

def deferSpecConsistency : GraphState :=
 if .specConsistency∈graph.deferredGates then graph
 else { graph with deferredGates:=graph.deferredGates++[.specConsistency] }

def attachedNode : ProfileNode :=
 match graph.nodeById .acceptance with
 | some acceptance =>
   if acceptance.dependsOn.length > 0 then
    { node with dependsOn:=acceptance.dependsOn.filter (·≠node.id) }
   else node
 | none => node

def dependOn (acceptance:ProfileNode) : ProfileNode :=
 if id∈acceptance.dependsOn then acceptance
 else { acceptance with dependsOn:=unique (acceptance.dependsOn++[id]) }

def attachBeforeAcceptance (provenance:NodeProvenance) : GraphState :=
 let graph:=addNode graph (attachedNode graph node) provenance
 { graph with nodes:=modifyNode .acceptance (dependOn node.id) graph.nodes }

def writeRepairTail (verificationId reviewId:NodeKey) : List ProfileNode := [
 agentNodeWhen "HAS_BLOCKING_FINDINGS" [verificationId,reviewId] .repairImplementer .implementer
  .write [reviewId],
 agentNodeWhen "HAS_BLOCKING_FINDINGS" [] .freshReviewer .reviewer .review [.repairImplementer]]

def loadFragment : PrimaryIntent → List ProfileNode
 | .feature => featureProfile.nodes.filter (·.id≠.planCritic)
 | .bugfix => bugfixProfile.nodes.filter (·.id≠.secondHypothesis)
 | .research => researchProfile.nodes
 | .specification | .requirements => specOnlyProfile.nodes
 | .refactor => refactorProfile.nodes
 | .diagnosis => [
   agentNode .analyst .analyst .read [],
   agentNode .reproductionInvestigator .investigator .read [.analyst],
   agentNode .rootCauseInvestigator .investigator .read [.reproductionInvestigator],
   agentNode .blastRadiusInvestigator .investigator .read [.rootCauseInvestigator],
   agentNode .synthesizer .finalSynthesizer .review [.blastRadiusInvestigator],
   controllerNode .evidenceCompleteness .evidenceCompleteness [.synthesizer],
   controllerNode .acceptance .acceptance [.evidenceCompleteness]]
 | .optimization => [
   agentNode .analyst .analyst .read [],
   agentNode .codeInvestigator .investigator .read [.analyst],
   controllerNode .characterization .baselineCharacterization [.codeInvestigator],
   agentNode .planner .planner .read [.characterization],
   agentNode .implementer .implementer .write [.planner],
   controllerNode .verification .verification [.implementer],
   agentNode .performanceReviewer .performanceReviewer .review [.verification],
   controllerNode .acceptance .acceptance [.performanceReviewer]]
 | .dependencyUpgrade => [
   agentNode .analyst .analyst .read [],
   agentNode .inventoryInvestigator .investigator .read [.analyst],
   agentNode .planner .planner .read [.inventoryInvestigator],
   agentNode .implementer .implementer .write [.planner],
   controllerNode .verification .verification [.implementer],
   agentNode .reviewer .reviewer .review [.verification]] ++
   writeRepairTail .verification .reviewer++[
   controllerNode .acceptance .acceptance [.reviewer]]
 | .migration => [
   agentNode .analyst .analyst .read [],
   agentNode .phaseInvestigator .investigator .read [.analyst],
   agentNode .planner .planner .read [.phaseInvestigator],
   agentNode .implementer .implementer .write [.planner],
   controllerNode .migrationDryRun .migrationDryRun [.implementer],
   controllerNode .verification .verification [.migrationDryRun],
   agentNode .reviewer .reviewer .review [.verification]] ++
   writeRepairTail .verification .reviewer++[
   controllerNode .acceptance .acceptance [.reviewer]]
 | .securityRemediation => [
   agentNode .analyst .analyst .read [],
   agentNode .confirmationInvestigator .investigator .read [.analyst],
   agentNode .similarPatternInvestigator .investigator .read [.confirmationInvestigator],
   agentNode .planner .planner .read [.similarPatternInvestigator],
   agentNode .implementer .implementer .write [.planner],
   controllerNode .verification .verification [.implementer],
   agentNode .securityReviewer .securityReviewer .review [.verification]] ++
   writeRepairTail .verification .securityReviewer++[
   controllerNode .acceptance .acceptance [.securityReviewer]]
 | .incidentResponse => [
   agentNode .analyst .analyst .read [],
   agentNode .impactInvestigator .investigator .read [.analyst],
   agentNode .implementer .implementer .write [.impactInvestigator],
   controllerNode .recoveryVerification .regressionVerification [.implementer],
   agentNode .postmortemSynthesizer .finalSynthesizer .review [.recoveryVerification],
   controllerNode .acceptance .acceptance [.postmortemSynthesizer]]
 | .deprecationRetirement => [
   agentNode .analyst .analyst .read [],
   agentNode .consumerInvestigator .investigator .read [.analyst],
   agentNode .planner .planner .read [.consumerInvestigator],
   agentNode .implementer .implementer .write [.planner],
   controllerNode .verification .verification [.implementer],
   agentNode .architectureReviewer .architectureReviewer .review [.verification],
   controllerNode .acceptance .acceptance [.architectureReviewer]]
 | .testEngineering => [
   agentNode .analyst .analyst .read [],
   controllerNode .characterization .baselineCharacterization [.analyst],
   agentNode .implementer .implementer .write [.characterization],
   controllerNode .verification .verification [.implementer],
   agentNode .testReviewer .testReviewer .review [.verification]] ++
   writeRepairTail .verification .testReviewer++[
   controllerNode .acceptance .acceptance [.testReviewer]]
 | .documentation => [
   agentNode .analyst .analyst .read [],
   agentNode .docsInvestigator .investigator .read [.analyst],
   agentNode .specAuthor .implementer .write [.docsInvestigator],
   agentNode .specReviewer .specReviewer .review [.specAuthor],
   controllerNode .acceptance .acceptance [.specReviewer]]
 | .buildTooling => [
   agentNode .analyst .analyst .read [],
   agentNode .toolingInvestigator .investigator .read [.analyst],
   agentNode .implementer .implementer .write [.toolingInvestigator],
   controllerNode .verification .verification [.implementer],
   agentNode .reviewer .reviewer .review [.verification]] ++
   writeRepairTail .verification .reviewer++[
   controllerNode .acceptance .acceptance [.reviewer]]
 | .architectureDesign => [
   agentNode .analyst .analyst .read [],
   agentNode .architectureInvestigator .investigator .read [.analyst],
   agentNode .specAuthor .implementer .write [.architectureInvestigator],
   agentNode .architectureReviewer .architectureReviewer .review [.specAuthor],
   controllerNode .acceptance .acceptance [.architectureReviewer]]

def secondaryNodes : PrimaryIntent → List ProfileNode
 | .specification | .requirements => [
   agentNode .specInvestigator .investigator .read [.analyst]]
 | .documentation => [
   agentNode .docsInvestigator .investigator .read [.analyst]]
 | .testEngineering => [
   controllerNode .characterization .baselineCharacterization [.analyst]]
 | .refactor => [
   controllerNode .characterization .baselineCharacterization [.analyst]]
 | .securityRemediation => [
   agentNode .similarPatternInvestigator .investigator .read [.analyst]]
 | .research | .diagnosis | .architectureDesign | .feature | .bugfix | .optimization
 | .dependencyUpgrade | .migration | .buildTooling | .incidentResponse
 | .deprecationRetirement => []

def skipOperation (operation:ControllerOperation) : GraphState :=
 match graph.nodes.find? (·.operation=some operation) with
 | some found =>
   let graph:=removeNode graph found.id
   { graph with deferredGates:=graph.deferredGates++[operation] }
 | none => graph

def applyOverlay (overlay:RiskOverlay) : GraphState :=
 match overlay with
 | .securitySensitive =>
   attachBeforeAcceptance graph
    (agentNode .securityReviewer .securityReviewer .review [.reviewer]) (.overlay overlay)
 | .authentication => graph
 | .publicApi =>
   let graph:=addNode graph
    (agentNode .consumerInvestigator .investigator .read [.analyst]) (.overlay overlay)
   attachBeforeAcceptance graph
    (agentNode .architectureReviewer .architectureReviewer .review [.reviewer])
    (.overlay overlay)
 | .dataMutation | .migration =>
   attachBeforeAcceptance graph
    (controllerNode .migrationDryRun .migrationDryRun [.implementer]) (.overlay overlay)
 | .concurrency =>
   addNode graph
    (agentNode .secondHypothesis .investigator .read
     (if (graph.nodeById .reproductionInvestigator).isSome then [.reproductionInvestigator]
      else [.analyst])) (.overlay overlay)
 | .crossCutting =>
   attachBeforeAcceptance graph
    (agentNode .architectureReviewer .architectureReviewer .review [.reviewer])
    (.overlay overlay)
 | .uiVisible | .externalContract => graph
 | .productionImpact =>
   attachBeforeAcceptance graph
    (controllerNode .rollbackEvidence .rollbackEvidence [.verification]) (.overlay overlay)
 | .destructive => forbid graph ["apply-without-authorization"]
 | .noTests =>
   addNode graph (controllerNode .characterization .baselineCharacterization [.analyst])
    (.overlay overlay)
 | .emergency =>
   deferSpecConsistency
    ([ControllerOperation.specConsistency,.behavioralEquivalence].foldl skipOperation graph)
 | .generatedCode =>
   addNode graph (agentNode .generatorInvestigator .investigator .read [.analyst])
    (.overlay overlay)

def attachPackNodes (packs:List VerificationPackId) (adapter:ProjectAdapter) : GraphState :=
 match packs.filter fun id=>id.text∈adapter.packs.getD [] with
 | [] => graph
 | first::_ =>
   if graph.nodeById .verification=none ∧ graph.nodeById .implementer≠none then
    addNode graph (controllerNode .verification .verification [.implementer]) (.pack first)
   else graph

def removeWhere (unwanted:ProfileNode → Bool) : GraphState :=
 ((graph.nodes.filter unwanted).map (·.id)).foldl removeNode graph

def applyDelivery (mode:DeliveryMode) : GraphState :=
 match mode with
 | .analysisOnly =>
   forbid
    (removeWhere graph fun node=>
     node.role=some .implementer ∨ node.concurrencyGroup=some .write)
    ["write-lease","apply","implementer"]
 | .specArtifact => forbid graph ["apply-to-user-tree"]
 | .integrationBranch | .patch | .pullRequestReady => graph
 | .mitigationPatch =>
   let graph:=deferSpecConsistency (forbid graph ["apply-to-user-tree"])
   attachBeforeAcceptance graph
    (controllerNode .rollbackEvidence .rollbackEvidence
     ([NodeKey.recoveryVerification,.verification].filter
       fun id=>(graph.nodeById id).isSome)) (.delivery mode)
 | .migrationSeries => graph
 | .runbook =>
   forbid (removeWhere graph fun node=>node.role=some .implementer) ["apply","write-lease"]
 | .applyToWorktree => graph

def fastRemovals : List NodeKey := [
 .planner,.planCritic,.specInvestigator,.specConsistency,.rootCauseInvestigator,
 .reproductionInvestigator]

def removeIfPresent : GraphState :=
 if (graph.nodeById id).isSome then removeNode graph id else graph

def fastSource : Option ProfileNode :=
 ((graph.nodeById .codeInvestigator).or (graph.nodeById .investigator)).or
   (graph.nodes.find? (·.role=some .investigator))

def keepInvestigator : GraphState :=
 let addDefault :=
  if graph.nodeById .investigator=none ∧ graph.nodeById .analyst≠none then
   addNode graph (agentNode .investigator .investigator .read [.analyst]) (.budget .fast)
  else graph
 match fastSource graph with
 | some source =>
   if source.id≠.investigator then
    addNode (removeNode graph source.id)
     { source with id:=.investigator, dependsOn:=[.analyst] } (.budget .fast)
   else addDefault
 | none => addDefault

def applyBudget (budget:ExecutionBudget) : GraphState :=
 match budget with
 | .fast =>
   let graph:=keepInvestigator (fastRemovals.foldl removeIfPresent graph)
   let graph:=removeWhere graph fun node=>
    node.role=some .investigator ∧ node.id≠.investigator
   { graph with
     nodes:=modifyNode .implementer (fun node=>{ node with dependsOn:=[.investigator] })
      graph.nodes }
 | .standard => graph
 | .thorough =>
   if graph.nodeById .planner≠none ∧ graph.nodeById .planCritic=none then
    addNode graph (agentNode .planCritic .architectureReviewer .review [.planner])
     (.budget .thorough)
   else graph

def byId {κ:Type} [DecidableEq κ] (nodes:List (WorkflowNode κ)) (id:κ) : List κ :=
 ((nodes.reverse.find? (·.id=id)).map (·.dependsOn)).getD []

def hasCycle {κ:Type} [DecidableEq κ] (nodes:List (WorkflowNode κ)) : Bool :=
 (DependencySearch.search (byId nodes) (nodes.length+1) (nodes.map (·.id))).isNone

def nodeIdsOf (nodes:List ProfileNode) : List NodeKey :=
 nodes.map (·.id)

def legacyProfiles : List WorkflowProfile := [
 fastProfile,featureProfile,bugfixProfile,researchProfile,specOnlyProfile,refactorProfile,
 highRiskProfile]

def legacyLabel : WorkflowProfileId :=
 match legacyProfiles.find? fun profile=>nodeIdsOf graph.nodes=nodeIdsOf profile.nodes with
 | some profile => profile.id
 | none =>
   if composition.executionBudget=.fast then .fast
   else match kindFromIntent composition.primaryIntent with
    | .bugfix => .bugfix
    | .research => .research
    | .spec => .specOnly
    | .refactor => .refactor
    | .feature => .feature

def requiredArtifactsFor : List ArtifactType :=
 let hasRole (role:AgentRole) : Bool:=graph.nodes.any (·.role=some role)
 [.taskContract,.acceptanceLedger] ++
  (if hasRole .investigator then [.investigationReport] else []) ++
  (if hasRole .planner then [.implementationPlan] else []) ++
  (if hasRole .implementer ∧ composition.primaryIntent∈writeIntents then [.changeManifest]
   else []) ++
  (if hasRole .reviewer ∨ hasRole .securityReviewer then [.reviewFindings] else [])

def acceptancePolicyFor : AcceptancePolicy :=
 let analysis : Bool:=composition.deliveryMode=.analysisOnly
 ⟨!analysis,!analysis,!analysis,analysis⟩

structure CompiledProfile where
 id : WorkflowProfileId
 appliesTo : List TaskKind
 nodes : List ProfileNode
 requiredArtifacts : List ArtifactType
 acceptancePolicy : AcceptancePolicy
 composition : RunComposition
 nodeProvenance : List (NodeKey×NodeProvenance)
 deferredGates : List ControllerOperation
 forbiddenActions : List String

structure CompileSignals where
 unstableBug : Bool
 externalResearch : Bool
 noTests : Bool

structure CompiledProfileResult where
 compiled : CompiledProfile
 predicates : List String
 blocked : Bool

inductive CompileError where
 | cycle
 | nodeBudget

def CompileError.message : CompileError → String
 | .cycle => "compiled profile contains a cycle"
 | .nodeBudget => "compiled profile exceeds node budget"

def maxNodes : ℕ := 96

def loadNodes (nodes:List ProfileNode) (provenance:NodeProvenance) : GraphState :=
 nodes.foldl (fun graph node=>addNode graph node provenance) graph

def buildGraph (adapter:ProjectAdapter) : GraphState :=
 let graph:=loadNodes emptyGraph (loadFragment composition.primaryIntent)
  (.intent composition.primaryIntent)
 let graph:=composition.secondaryIntents.foldl (fun graph secondary=>
  loadNodes graph (secondaryNodes secondary) (.secondary secondary)) graph
 let graph:=composition.overlays.foldl applyOverlay graph
 let graph:=attachPackNodes graph composition.verificationPacks adapter
 let graph:=applyDelivery graph composition.deliveryMode
 applyBudget graph composition.executionBudget

def dropMissing : GraphState :=
 { graph with
   nodes:=graph.nodes.map fun node=>
    { node with dependsOn:=node.dependsOn.filter fun dep=>(graph.nodeById dep).isSome } }

def compilePredicates (signals:CompileSignals) : List String :=
 (if signals.unstableBug ∨ .concurrency∈composition.overlays then ["UNSTABLE_BUG"] else []) ++
 (if signals.externalResearch then ["EXTERNAL_RESEARCH"] else []) ++
 (if composition.executionBudget=.thorough then ["HIGH_RISK"] else []) ++
 (if composition.blockedReason≠none then ["COMPOSITION_BLOCKED"] else []) ++
 (if composition.blockedReason=some "destructive change requires explicit authorization" then
  ["NEED_DESTRUCTIVE_AUTH"] else [])

def compileRunComposition (adapter:ProjectAdapter) (signals:CompileSignals) :
    Except CompileError CompiledProfileResult :=
 let graph:=buildGraph composition adapter
 if hasCycle graph.nodes then .error .cycle
 else if graph.nodes.length > maxNodes then .error .nodeBudget
 else
  let graph:=dropMissing graph
  .ok {
   compiled :=
    { id:=legacyLabel graph composition
      appliesTo:=[kindFromIntent composition.primaryIntent]
      nodes:=graph.nodes
      requiredArtifacts:=requiredArtifactsFor graph composition
      acceptancePolicy:=acceptancePolicyFor composition
      composition:=composition
      nodeProvenance:=graph.provenance
      deferredGates:=unique graph.deferredGates
      forbiddenActions:=unique graph.forbiddenActions }
   predicates:=compilePredicates composition signals
   blocked:=composition.blockedReason≠none }

def compileProfileFromContract (contract:TaskContract) (adapter:ProjectAdapter) :
    Except CompileError CompiledProfileResult :=
 compileRunComposition (composeFromContract contract adapter).composition adapter
  { unstableBug:=.unstableBug∈contract.riskFlags
    externalResearch:=false
    noTests:=.noTests∈contract.riskFlags }

end EpistemicCompiler.ProfileCompiler
