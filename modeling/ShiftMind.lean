import ShiftMind.Library.Transaction
import ShiftMind.Library.Relation
import ShiftMind.Library.Dict
import ShiftMind.Library.Rounding
import ShiftMind.Library.Transition
import ShiftMind.Contracts.Scenario
import ShiftMind.Contracts.ScheduleVersion
import ShiftMind.Contracts.Workflow
import ShiftMind.Contracts.Approval
import ShiftMind.Store.Schema
import ShiftMind.Scheduling.HardConstraints
import ShiftMind.Scheduling.CandidateMetrics
import ShiftMind.Store.ScheduleRun
import ShiftMind.UseCases.FinalizeScheduleRun
import ShiftMind.UseCases.LeaseAndExecute
import ShiftMind.UseCases.CancelScheduleRun
import ShiftMind.Store.Proposal
import ShiftMind.UseCases.EnqueueCompute
import ShiftMind.Runs.Lifecycle
import ShiftMind.Runs.Effects
import ShiftMind.Runs.Writing
import ShiftMind.Runs.System
import ShiftMind.Runs.Safety
import ShiftMind.Runs.Fencing
import ShiftMind.Runs.CancelRace
import ShiftMind.Store.Approval
import ShiftMind.Store.Conversation
import ShiftMind.UseCases.RequestApproval
import ShiftMind.UseCases.PromoteBaseline
import ShiftMind.UseCases.DecideApproval
import ShiftMind.Approvals.Effects
import ShiftMind.Approvals.System
import ShiftMind.Approvals.Promotion
import ShiftMind.Approvals.Atomicity
import ShiftMind.Approvals.Steps
import ShiftMind.Approvals.Agreement
import ShiftMind.Library.LinearModel
import ShiftMind.Domain.Problem
import ShiftMind.Engine.Shifts
import ShiftMind.Engine.Builder
import ShiftMind.Engine.Coverage
import ShiftMind.Engine.Roster
import ShiftMind.Engine.CountedDemand
import ShiftMind.Engine.FreeWindows
import ShiftMind.Engine.RosterFill
import ShiftMind.Engine.Overrides
import ShiftMind.Engine.GovernedAdapter
import ShiftMind.Engine.Finalisation
import ShiftMind.Engine.PoisonJob
import ShiftMind.Library.Binary64
import ShiftMind.Library.Scanner
import ShiftMind.Grounding.ClaimTags
import ShiftMind.Grounding.Placeholders
import ShiftMind.Contracts.Grounding
import ShiftMind.Grounding.Gate
import ShiftMind.Grounding.Integrity
import ShiftMind.Grounding.Rendering
import ShiftMind.UseCases.ExecuteTurn
import ShiftMind.UseCases.FinalizeAgentRun
import ShiftMind.UseCases.ManageProposal
import ShiftMind.UseCases.FinishTurn
import ShiftMind.Turns.System
import ShiftMind.Turns.Drafts
import ShiftMind.Turns.Beside
import ShiftMind.Turns.DraftCommands
import ShiftMind.Turns.Lifecycle
import ShiftMind.Turns.NoLostEdit
import ShiftMind.Turns.Runs
import ShiftMind.Turns.RunCommands
import ShiftMind.Turns.RunAgreement
import ShiftMind.Turns.Settling
import ShiftMind.Turns.Stranding
import ShiftMind.Library.Log
import ShiftMind.Streaming.EventStream
import ShiftMind.Streaming.ConversationStream
import ShiftMind.Streaming.MergedWindow
import ShiftMind.Contracts.Canonical
import ShiftMind.Drafting.Resolve
import ShiftMind.Drafting.Translation
import ShiftMind.Runs.Regime
import ShiftMind.Library.KeyedLock
import ShiftMind.Runs.SiteCap
import ShiftMind.Streaming.Appending
import ShiftMind.Streaming.Gapless
import ShiftMind.Runs.Closing
import ShiftMind.Runs.Coherence
import ShiftMind.Library.Codec
import ShiftMind.Library.Intervals
import ShiftMind.Scheduling.HardLaws
import ShiftMind.Scheduling.CoverageTotals
import ShiftMind.Streaming.Finished
import ShiftMind.Grounding.TagGrammar
import ShiftMind.Grounding.TagLeaks
import ShiftMind.Grounding.TagMarkup
import ShiftMind.Grounding.TagRoundTrip
import ShiftMind.Engine.Headcount
import ShiftMind.Library.Cutting
import ShiftMind.Engine.Breaks
import ShiftMind.Contracts.Activity
import ShiftMind.Store.ActivityPayload
import ShiftMind.Library.Url
import ShiftMind.Telemetry.SpanPolicy
import ShiftMind.Telemetry.Spans
import ShiftMind.Telemetry.Noninterference
import ShiftMind.Engine.Volume
import ShiftMind.Streaming.CursorText
import ShiftMind.Engine.Starts
import ShiftMind.Engine.Lexicographic
import ShiftMind.Grounding.ResultId
import ShiftMind.Drafting.Clarification
import ShiftMind.Library.Paging
import ShiftMind.Grounding.Projection
import ShiftMind.Grounding.Pagination
import ShiftMind.Grounding.Calculators
import ShiftMind.Grounding.ComputedClaims
import ShiftMind.Approvals.Provenance
import ShiftMind.Grounding.ComputeTurn
import ShiftMind.Contracts.RunSnapshot
import ShiftMind.Store.SnapshotPayload
import ShiftMind.Grounding.EvidenceRegistry
import ShiftMind.Commands.Sparing
import ShiftMind.Commands.System
import ShiftMind.Commands.Receipts
import ShiftMind.Commands.Cancelling
import ShiftMind.Commands.Invariant
import ShiftMind.Commands.Idempotency
import ShiftMind.Engine.Minutes
import ShiftMind.Engine.HardRules
import ShiftMind.Auth.Endpoints
import ShiftMind.Auth.System
import ShiftMind.Auth.Steps
import ShiftMind.Auth.Sessions
import ShiftMind.Auth.Authenticity
import ShiftMind.Fixtures.System
import ShiftMind.Fixtures.Invariant
import ShiftMind.Fixtures.FirstWriter
import ShiftMind.Ingest.ScenarioTime
import ShiftMind.Ingest.Fixture
import ShiftMind.Ingest.InputAdapter
import ShiftMind.Ingest.Normalisation
import ShiftMind.Scheduling.Comparison
import ShiftMind.Scheduling.Recalculation
import ShiftMind.Scheduling.MetricNumbers
import ShiftMind.Ingest.SameDemand
import ShiftMind.Ingest.SameWorkers
import ShiftMind.Ingest.Integrity
