import FiberEffects.Binary64
import FiberEffects.Json.Basic
import FiberEffects.Json.Read
import FiberEffects.Time.Basic
import FiberEffects.Fiber.Id
import FiberEffects.Flags
import FiberEffects.Cause.Basic
import FiberEffects.Cause.Equiv
import FiberEffects.Cause.Render
import FiberEffects.Cause.Erasure
import FiberEffects.Script.Expr
import FiberEffects.Script.CauseJson
import FiberEffects.Error
import FiberEffects.Stack
import FiberEffects.Text.Escaped
import FiberEffects.Text.Quoted
import FiberEffects.Text.Blank
import FiberEffects.Config.TimeSource
import FiberEffects.Protocol.Decode
import FiberEffects.Protocol.Basics
import FiberEffects.Protocol.CauseOp
import FiberEffects.Protocol.Answer
import FiberEffects.Effect.Prog
import FiberEffects.Time.Schedule
import FiberEffects.Time.Timeline
import FiberEffects.Time.TimerQueue
import FiberEffects.Effect.Value
import FiberEffects.Heap.Data
import FiberEffects.Heap.Debug
import FiberEffects.Effect.Basic
import FiberEffects.Effect.Combinators
import FiberEffects.Effect.Coroutine
import FiberEffects.Sync.Future
import FiberEffects.Fiber.Scope
import FiberEffects.Fiber.Machine
import FiberEffects.Fiber.Store
import FiberEffects.Time.Scheduler
import FiberEffects.Fiber.Fork
import FiberEffects.Resource.Scope
import FiberEffects.Script.Values
import FiberEffects.Config.Runtime
import FiberEffects.Host.Runtime
import FiberEffects.Script.Effects
import FiberEffects.Host.Run
import FiberEffects.Protocol.Session
import FiberEffects.Config.Toml
import FiberEffects.Config.Error
import FiberEffects.Config.FileTree
import FiberEffects.Config.File
import FiberEffects.Config.Env
import FiberEffects.Config.Builder
import FiberEffects.Protocol.ConfigOp
import FiberEffects.Protocol.RuntimeCtor
import FiberEffects.Protocol.Misc
import FiberEffects.Protocol.Timing
import FiberEffects.Protocol.Timers
import FiberEffects.Protocol.DisposableOp
import FiberEffects.Proofs.Primitives
import FiberEffects.Proofs.Requests
import FiberEffects.Proofs.LoopSteps
import FiberEffects.Proofs.LoopInvariant
import FiberEffects.Proofs.FiberSteps
import FiberEffects.Proofs.InertDisposal
import FiberEffects.Proofs.LoopContracts
import FiberEffects.Proofs.Contracts
import FiberEffects.Proofs.Reachable
import FiberEffects.Proofs.Interruption
import FiberEffects.Proofs.CauseMonoid
import FiberEffects.Proofs.Subscriptions
import FiberEffects.Proofs.TiedContracts
import FiberEffects.Proofs.Resumption
import FiberEffects.Proofs.PublishedExit
import FiberEffects.Proofs.CauseEquivalence
import FiberEffects.Proofs.Preservation
import FiberEffects.Proofs.FutureResolution
import FiberEffects.Proofs.DisposalOnce
import FiberEffects.Proofs.TimelineEntries
import FiberEffects.Proofs.TimelineRefinement
import FiberEffects.Proofs.TimerFiring
import FiberEffects.Proofs.CmdContract
import FiberEffects.Proofs.SchedulerTimer
import FiberEffects.Proofs.SchedulerSession
import FiberEffects.Proofs.ConcurrentCauses
import FiberEffects.Proofs.ScopeClosing
import FiberEffects.Proofs.CauseQueries
import FiberEffects.Proofs.CauseMap
import FiberEffects.Proofs.CoroutineRefinement
import FiberEffects.Proofs.ScheduleRepetition
import FiberEffects.Proofs.HandlerFrames
import FiberEffects.Proofs.StorePolicies
import FiberEffects.Proofs.FiberJoin
import FiberEffects.Proofs.ExitObservers
import FiberEffects.Proofs.LocalRefs
import FiberEffects.Proofs.StoreCoverage
import FiberEffects.Proofs.ConfigPrecedence
import FiberEffects.Proofs.TimerQueueRefinement
import FiberEffects.Proofs.TimerProgress
import FiberEffects.Proofs.GeneratorIds
import FiberEffects.Proofs.CauseErasure
import FiberEffects.Proofs.Evaluation
import FiberEffects.Proofs.FrameMachine
import FiberEffects.Proofs.LoopSimulation
import FiberEffects.Proofs.LoopTurns
import FiberEffects.Proofs.LoopRefinement
import FiberEffects.Proofs.InterruptRegions
