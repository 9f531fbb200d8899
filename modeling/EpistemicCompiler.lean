import EpistemicCompiler.IdempotentRequests
import EpistemicCompiler.RunStoreHistory
import EpistemicCompiler.RunInvariants
import EpistemicCompiler.ProfileReordering
import EpistemicCompiler.DagWriters
import EpistemicCompiler.AgentSpawns
import EpistemicCompiler.PromotionSpending
import EpistemicCompiler.OutboundDelivery
import EpistemicCompiler.ChangeSetOrder
import EpistemicCompiler.MaterializedTrees
import EpistemicCompiler.AddedCounterevidence
import EpistemicCompiler.RequestBinding
import EpistemicCompiler.AttachHistories
import EpistemicCompiler.CapabilityTokens
import EpistemicCompiler.EgressManifests
import EpistemicCompiler.WireDispatch
import EpistemicCompiler.DigestOrders
import EpistemicCompiler.ObjectCollection
import EpistemicCompiler.SandboxJobs
import EpistemicCompiler.CapabilityPolicies
import EpistemicCompiler.PlanGraphs
import EpistemicCompiler.GamingDetection
import EpistemicCompiler.SecretRedaction
import EpistemicCompiler.AcceptanceLedgers
import EpistemicCompiler.DagProgress
import EpistemicCompiler.IntegrationGates
import EpistemicCompiler.ProjectSlugs
import EpistemicCompiler.EnvelopeSignatures
import EpistemicCompiler.TimedIdentifiers
import EpistemicCompiler.WindowsNames
import EpistemicCompiler.ChangeSetLocality
