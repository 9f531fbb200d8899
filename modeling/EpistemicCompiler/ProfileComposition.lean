import Mathlib.Data.List.Infix
import EpistemicCompiler.ProfileCatalog

set_option autoImplicit false

/-!
# From a task contract to a run composition

The intent of a contract, its risk flags and its texts decide which overlays, verification packs,
delivery mode and budget a run is composed of. Of a project adapter only the keys of its packs are
read.
-/
namespace EpistemicCompiler.ProfileComposition
open ProfileCatalog

inductive PrimaryIntent where
 | research | diagnosis | requirements | specification | architectureDesign | feature | bugfix
 | refactor | optimization | dependencyUpgrade | migration | securityRemediation
 | testEngineering | documentation | buildTooling | incidentResponse | deprecationRetirement
 deriving DecidableEq

inductive RiskFlag where
 | publicApi | auth | secrets | crypto | payment | migration | concurrency | behaviorChange
 | noTests | unstableBug | multiSubsystem | destructive | generatedCode | emergency
 | productionImpact | uiVisible | dataMutation | externalContract
 deriving DecidableEq

inductive RiskOverlay where
 | securitySensitive | authentication | publicApi | dataMutation | migration | concurrency
 | crossCutting | uiVisible | productionImpact | destructive | externalContract | noTests
 | emergency | generatedCode
 deriving DecidableEq

inductive VerificationPackId where
 | frontend | webUi | backendApi | database | library | cli | buildSystem | security
 | documentation | performance
 deriving DecidableEq

def VerificationPackId.text : VerificationPackId → String
 | .frontend => "frontend"
 | .webUi => "web-ui"
 | .backendApi => "backend-api"
 | .database => "database"
 | .library => "library"
 | .cli => "cli"
 | .buildSystem => "build-system"
 | .security => "security"
 | .documentation => "documentation"
 | .performance => "performance"

inductive DeliveryMode where
 | analysisOnly | specArtifact | integrationBranch | patch | pullRequestReady | mitigationPatch
 | migrationSeries | runbook | applyToWorktree
 deriving DecidableEq

inductive ExecutionBudget where
 | fast | standard | thorough
 deriving DecidableEq

inductive ChangeClass where
 | none | corrective | adaptive | perfective | preventive | additive

inductive UrgencyLevel where
 | normal | urgent | incident
 deriving DecidableEq

inductive RelatedRunRelation where
 | permanentFix | implementation | architectureFollowOn | migrationPhase | researchFollowOn

inductive VerificationMethod where
 | test | inspection | runtime | review | reproduction
 deriving DecidableEq

structure ContractAssumption where
 text : String
 reversible : Bool

structure AcceptanceCriterion where
 statement : String
 verification : List VerificationMethod

inductive ContractVersion where
 | v1
 | v2 (primaryIntent:PrimaryIntent) (secondaryIntents:List PrimaryIntent)
   (urgency:Option UrgencyLevel)

structure TaskContract where
 version : ContractVersion
 kind : TaskKind
 objective : String
 inScope : List String
 constraints : List String
 assumptions : List ContractAssumption
 acceptanceCriteria : List AcceptanceCriterion
 riskFlags : List RiskFlag
 behaviorChanges : Bool
 blockingQuestions : List String

structure ProjectAdapter where
 packs : Option (List String)

structure RelatedRunPlan where
 relation : RelatedRunRelation
 primaryIntent : PrimaryIntent
 overlays : List RiskOverlay
 deliveryMode : DeliveryMode
 objective : String
 deferred : Bool
 blocksParent : Bool

structure RunComposition where
 primaryIntent : PrimaryIntent
 secondaryIntents : List PrimaryIntent
 overlays : List RiskOverlay
 verificationPacks : List VerificationPackId
 deliveryMode : DeliveryMode
 urgency : UrgencyLevel
 executionBudget : ExecutionBudget
 changeClass : ChangeClass
 splitIntoRelatedRuns : List RelatedRunPlan
 blockedReason : Option String

variable (contract:TaskContract)

variable (overlays:List RiskOverlay)

def highOverlays : List RiskOverlay := [
 .securitySensitive,.authentication,.publicApi,.dataMutation,.migration,.concurrency,
 .crossCutting,.productionImpact,.destructive,.emergency,.externalContract,.generatedCode]

def flagOverlays : RiskFlag → List RiskOverlay
 | .auth => [.securitySensitive,.authentication]
 | .secrets => [.securitySensitive]
 | .crypto => [.securitySensitive]
 | .payment => [.securitySensitive]
 | .publicApi => [.publicApi]
 | .migration => [.migration]
 | .concurrency => [.concurrency]
 | .unstableBug => [.concurrency]
 | .multiSubsystem => [.crossCutting]
 | .noTests => [.noTests]
 | .destructive => [.destructive]
 | .generatedCode => [.generatedCode]
 | .emergency => [.emergency]
 | .productionImpact => [.productionImpact]
 | .uiVisible => [.uiVisible]
 | .dataMutation => [.dataMutation]
 | .externalContract => [.externalContract]
 | .behaviorChange => []

def writeIntents : List PrimaryIntent := [
 .feature,.bugfix,.refactor,.optimization,.dependencyUpgrade,.migration,
 .securityRemediation,.testEngineering,.documentation,.buildTooling,.incidentResponse,
 .deprecationRetirement,.requirements,.specification,.architectureDesign]

def intentFromKind : TaskKind → PrimaryIntent
 | .feature => .feature
 | .bugfix => .bugfix
 | .research => .research
 | .spec => .specification
 | .refactor => .refactor

def kindFromIntent : PrimaryIntent → TaskKind
 | .research | .diagnosis => .research
 | .requirements | .specification | .architectureDesign | .documentation => .spec
 | .feature | .optimization | .testEngineering | .buildTooling | .dependencyUpgrade
 | .migration => .feature
 | .bugfix | .securityRemediation | .incidentResponse => .bugfix
 | .refactor | .deprecationRetirement => .refactor

def changeClassFor : PrimaryIntent → ChangeClass
 | .research | .diagnosis | .requirements | .specification | .architectureDesign => .none
 | .feature => .additive
 | .bugfix | .incidentResponse => .corrective
 | .securityRemediation => .corrective
 | .refactor | .optimization | .documentation | .deprecationRetirement => .perfective
 | .testEngineering => .preventive
 | .dependencyUpgrade | .migration | .buildTooling => .adaptive

def defaultDeliveryFor (intent:PrimaryIntent) (urgency:UrgencyLevel) : DeliveryMode :=
 if urgency=.incident then .mitigationPatch
 else match intent with
  | .research | .diagnosis => .analysisOnly
  | .requirements | .specification | .architectureDesign | .documentation => .specArtifact
  | .migration => .integrationBranch
  | .incidentResponse => .mitigationPatch
  | .deprecationRetirement => .integrationBranch
  | .feature | .bugfix | .refactor | .optimization | .dependencyUpgrade
  | .securityRemediation | .testEngineering | .buildTooling => .integrationBranch

/-- Besides the ASCII letters only the dotted capital I and the Kelvin sign have an ASCII letter
in their lower case. All other letters keep their case: no text is searched for them. -/
def lowerChar (c:Char) : List Char :=
 if c=Char.ofNat 0x130 then ['i',Char.ofNat 0x307]
 else if c=Char.ofNat 0x212A then ['k']
 else [c.toLower]

def toLowerCase (text:String) : List Char :=
 text.toList.flatMap lowerChar

def includes (text:List Char) (part:String) : Bool :=
 part.toList <:+: text

def unique {α:Type} [DecidableEq α] (items:List α) : List α :=
 items.eraseDups

def overlaysFromFlags (flags:List RiskFlag) : List RiskOverlay :=
 unique (flags.flatMap flagOverlays)

def contractPrimaryIntent : PrimaryIntent :=
 match contract.version with
 | .v2 primaryIntent _ _ => primaryIntent
 | .v1 => intentFromKind contract.kind

def contractSecondaryIntents : List PrimaryIntent :=
 match contract.version with
 | .v2 _ secondaryIntents _ => secondaryIntents
 | .v1 => []

def contractUrgency : Option UrgencyLevel :=
 match contract.version with
 | .v2 _ _ urgency => urgency
 | .v1 => none

def measurableAcceptance : Bool :=
 contract.acceptanceCriteria.any fun criterion=>
  let text:=toLowerCase criterion.statement
  criterion.verification.contains .runtime || criterion.verification.contains .test ||
   includes text "ms" || includes text "baseline" || includes text "p95" ||
   includes text "throughput" || includes text "latency"

def consumerEvidence : Bool :=
 contract.assumptions.any (fun item=>includes (toLowerCase item.text) "consumer") ||
  contract.acceptanceCriteria.any (fun item=>includes (toLowerCase item.statement) "consumer")

def rollbackEvidence : Bool :=
 contract.assumptions.any (fun item=>includes (toLowerCase item.text) "rollback") ||
  contract.constraints.any (fun item=>includes (toLowerCase item) "rollback")

def destructiveAuthorized : Bool :=
 contract.blockingQuestions.length=0 &&
  (contract.assumptions.any (fun item=>includes (toLowerCase item.text) "authorized") ||
   contract.constraints.any (fun item=>includes (toLowerCase item) "authorized"))

def packRules : List (Bool×List VerificationPackId) :=
 let haystack:=toLowerCase (" ".intercalate (contract.inScope++[contract.objective]))
 [(includes haystack "ui" || includes haystack ".tsx" || includes haystack "css",
   [.frontend,.webUi]),
   (includes haystack "api" || includes haystack "server" || includes haystack "route",
    [.backendApi]),
   (includes haystack "sql" || includes haystack "schema" || includes haystack "migration",
    [.database]),
   (includes haystack "cli",[.cli]),
   (includes haystack "docs" || includes haystack "documentation",[.documentation]),
   (overlays.contains .securitySensitive || overlays.contains .authentication,[.security]),
   (overlays.contains .uiVisible,[.webUi,.frontend]),
   (contractPrimaryIntent contract=.optimization,[.performance]),
   (includes haystack "lib" || includes haystack "package",[.library]),
   (includes haystack "ci" || includes haystack "build",[.buildSystem])]

def packsForContract (adapter:ProjectAdapter) (overlays:List RiskOverlay) :
    List VerificationPackId :=
 let available:=adapter.packs.getD []
 let wanted:=unique (((packRules contract overlays).filter (·.1)).flatMap (·.2))
 wanted.filter fun id=>id.text∈available ∨ available.length=0

def executionBudgetFor (primary:PrimaryIntent) (overlays:List RiskOverlay)
    (localScope reversible behaviorChange:Bool) : ExecutionBudget :=
 if localScope ∧ reversible ∧ ¬ behaviorChange ∧ overlays.length=0 ∧
   (primary=.feature ∨ primary=.bugfix) then .fast
 else if overlays.any (highOverlays.contains ·) then .thorough
 else .standard

def contractOverlays : List RiskOverlay :=
 let overlays:=overlaysFromFlags contract.riskFlags
 if contractUrgency contract=some .incident ∧ .emergency ∉ overlays then
  overlays++[.emergency]
 else overlays

def composedUrgency : UrgencyLevel :=
 match contractUrgency contract with
 | some urgency => urgency
 | none => if .emergency∈overlays then .incident else .normal

/-- The variables that the rewriting rules of `composeFromContract` assign to. -/
structure Rewriting where
 primary : PrimaryIntent
 secondary : List PrimaryIntent
 related : List RelatedRunPlan
 rewritten : Bool

variable (r:Rewriting)

def rewriteRefactor : Rewriting :=
 if r.primary=.refactor ∧ contract.behaviorChanges then
  { r with
    secondary:=unique (.refactor::r.secondary.filter (·≠.refactor))
    primary:=.feature
    rewritten:=true }
 else r

def rewriteEmergency : Rewriting :=
 if r.primary=.bugfix ∧ (.emergency∈overlays ∨ .emergency∈contract.riskFlags) then
  { r with
    related:=r.related++[⟨.permanentFix,.bugfix,overlays.filter (·≠.emergency),
     .integrationBranch,contract.objective,false,true⟩]
    primary:=.incidentResponse
    rewritten:=true }
 else r

def rewriteResearch : Rewriting :=
 if r.primary=.research ∧ contract.behaviorChanges then
  { r with
    related:=r.related++[⟨.implementation,.feature,overlays,.integrationBranch,
     contract.objective,false,false⟩]
    rewritten:=true }
 else r

def rewriteDocumentation : Rewriting :=
 if r.primary=.documentation ∧ contract.behaviorChanges then
  { r with
    secondary:=unique (.documentation::r.secondary.filter (·≠.documentation))
    primary:=intentFromKind (if contract.kind=.spec then .feature else contract.kind)
    rewritten:=true }
 else r

def rewriteMigration : Rewriting :=
 if r.primary=.feature ∧ .destructive∈overlays ∧ .migration∈overlays then
  { r with
    related:=r.related++[⟨.migrationPhase,.migration,overlays,.migrationSeries,
     contract.objective,false,true⟩]
    rewritten:=true }
 else r

def rewriteContract : Rewriting :=
 let r : Rewriting :=
  ⟨contractPrimaryIntent contract,contractSecondaryIntents contract,[],false⟩
 let r:=rewriteRefactor contract r
 let r:=rewriteEmergency contract overlays r
 let r:=rewriteResearch contract overlays r
 let r:=rewriteDocumentation contract r
 rewriteMigration contract overlays r

def blockedReason (primary:PrimaryIntent) : Option String :=
 if .destructive∈overlays ∧ ¬ destructiveAuthorized contract then
  some "destructive change requires explicit authorization"
 else if .emergency∈overlays ∧ ¬ rollbackEvidence contract then
  some "hotfix requires rollback evidence"
 else if primary=.deprecationRetirement ∧ ¬ consumerEvidence contract then
  some "deprecation requires consumer evidence"
 else if primary=.optimization ∧ ¬ measurableAcceptance contract then
  some "optimization requires measurable acceptance criteria"
 else none

structure CompositionDecision where
 composition : RunComposition
 rewritten : Bool

def composeFromContract (adapter:ProjectAdapter) : CompositionDecision :=
 let overlays:=contractOverlays contract
 let r:=rewriteContract contract overlays
 let localScope:=contract.inScope.length ≤ 3 ∧ ¬ contract.behaviorChanges
 let reversible:=contract.assumptions.all (·.reversible)
 let urgency:=composedUrgency contract overlays
 { composition :=
    { primaryIntent:=r.primary
      secondaryIntents:=r.secondary.filter (·≠r.primary)
      overlays:=unique overlays
      verificationPacks:=packsForContract contract adapter overlays
      deliveryMode:=defaultDeliveryFor r.primary urgency
      urgency:=urgency
      executionBudget :=
       executionBudgetFor r.primary overlays localScope reversible contract.behaviorChanges
      changeClass:=changeClassFor r.primary
      splitIntoRelatedRuns:=r.related
      blockedReason:=blockedReason contract overlays r.primary }
   rewritten:=r.rewritten }

end EpistemicCompiler.ProfileComposition
