import BuilderCore.Transition
import BuilderCore.Batch
import BuilderCore.Polling
import BuilderCore.Spawning
import BuilderCore.Collections.AssocList
import BuilderCore.Collections.HashMap
import BuilderCore.Collections.BTreeMap
import BuilderCore.Collections.LruCache
import BuilderCore.Collections.FlatMap
import BuilderCore.Collections.Slots
import BuilderCore.Shared.Block
import BuilderCore.Shared.RotatingSet
import BuilderCore.Shared.RotatingSetRuns
import BuilderCore.Shared.TransactionQueue
import BuilderCore.Shared.State
import BuilderCore.Shared.Forest
import BuilderCore.Shared.ForestLemmas
import BuilderCore.Shared.ForestQueue
import BuilderCore.Shared.ForestLineage
import BuilderCore.Shared.ForestFork
import BuilderCore.Shared.ForestConservation
import BuilderCore.Shared.Coordinator.TieredViewMap
import BuilderCore.Shared.Coordinator.Flattening
import BuilderCore.Parents
import BuilderCore.ProposalChain
import BuilderCore.Shared.Coordinator.BuilderStateMap
import BuilderCore.Shared.Coordinator.FindParents
import BuilderCore.Shared.Coordinator.TxStatus
import BuilderCore.Shared.Coordinator.Coordinator
import BuilderCore.Shared.Coordinator.Lemmas
import BuilderCore.Shared.Coordinator.Interleaving
import BuilderCore.Shared.Coordinator.Pruning
import BuilderCore.Shared.Coordinator.Decided
import BuilderCore.Shared.Coordinator.HighestView
import BuilderCore.Shared.Coordinator.StoredNodes
import BuilderCore.Shared.Coordinator.Deliveries
import BuilderCore.Shared.Coordinator.Chain
import BuilderCore.Shared.Coordinator.Conservation
import BuilderCore.Shared.Coordinator.Progress
import BuilderCore.Api
import BuilderCore.BlockSizeLimits
import BuilderCore.BlockSizeRange
import BuilderCore.BlockSizeRecovery
import BuilderCore.LegacyRefactored.GlobalState
import BuilderCore.LegacyRefactored.BlockStore
import BuilderCore.LegacyRefactored.BuildBlock
import BuilderCore.LegacyRefactored.ConcurrentBuilds
import BuilderCore.LegacyRefactored.Service
import BuilderCore.LegacyRefactored.Offers
import BuilderCore.LegacyRefactored.HeaderInputs
import BuilderCore.LegacyRefactored.Answers
import BuilderCore.Legacy.BestBuilderStates
import BuilderCore.Legacy.Matching
import BuilderCore.Legacy.BuilderState
import BuilderCore.Legacy.Tasks
import BuilderCore.Legacy.Spawning
import BuilderCore.Legacy.Forking
import BuilderCore.Legacy.Drained
import BuilderCore.Legacy.GlobalState
import BuilderCore.Legacy.Fallback
import BuilderCore.Legacy.Lifecycle
import BuilderCore.Legacy.Requests
import BuilderCore.Legacy.GarbageCollection
import BuilderCore.Legacy.Runtime
import BuilderCore.Legacy.Registration
import BuilderCore.Legacy.BuildBlock
import BuilderCore.Legacy.TxQueue
import BuilderCore.Legacy.Service
import BuilderCore.Legacy.DecidedRequests
import BuilderCore.Legacy.VidWaits
import BuilderCore.Legacy.ServiceSteps
import BuilderCore.Legacy.VidTriggers
import BuilderCore.Legacy.HeaderInputs
import BuilderCore.Selection
import BuilderCore.LegacyRefactored.Truncation
import BuilderCore.Submissions
import BuilderCore.Legacy.Submissions
import BuilderCore.Legacy.ReceivedBatch
import BuilderCore.Legacy.EventLoop
import BuilderCore.Legacy.EventLoopRuns
import BuilderCore.CaptureLoop
import BuilderCore.Reinclusion
import BuilderCore.Finalization
import BuilderCore.Unauthenticated
import BuilderCore.VidCommitments
import BuilderCore.Pairing
import BuilderCore.Lineages
import BuilderCore.EventLoops
import BuilderCore.LegacyRefactored.EventLoop
import BuilderCore.Marketplace.Bundle
import BuilderCore.Marketplace.BundleCalls
import BuilderCore.Marketplace.Lookups
import BuilderCore.Marketplace.Progress
