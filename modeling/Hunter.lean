import Hunter.Automation.Locking
import Hunter.Automation.Outcomes
import Hunter.Automation.Polls
import Hunter.Automation.Schedule
import Hunter.Cutover.Handover
import Hunter.Data.Bins
import Hunter.Data.Choice
import Hunter.Data.DepthFirst
import Hunter.Data.Dict
import Hunter.Data.Edits
import Hunter.Data.Firsts
import Hunter.Data.Lineage
import Hunter.Data.Projection
import Hunter.Data.Sorting
import Hunter.Data.Supersession
import Hunter.Data.Tiling
import Hunter.Data.Upserts
import Hunter.Digest.Sha256
import Hunter.EvidenceAssembly.Assembly
import Hunter.EvidenceAssembly.AssemblyLine
import Hunter.EvidenceAssembly.Competing
import Hunter.EvidenceAssembly.Exact
import Hunter.EvidenceAssembly.Registry
import Hunter.EvidenceAssembly.RegistryChain
import Hunter.EvidenceAssembly.Resubmission
import Hunter.EvidenceIntelligence.ClaimRows
import Hunter.EvidenceIntelligence.Claims
import Hunter.EvidenceIntelligence.Lifecycle
import Hunter.EvidenceIntelligence.Relationships
import Hunter.Execution.Canonical
import Hunter.IssueAgent.Admission
import Hunter.IssueAgent.Advance
import Hunter.IssueAgent.Canary
import Hunter.IssueAgent.ClosedSchema
import Hunter.IssueAgent.Evidence
import Hunter.IssueAgent.Ledger
import Hunter.IssueAgent.Lifecycle
import Hunter.IssueAgent.Patterns
import Hunter.IssueAgent.Record
import Hunter.IssueAgent.Resume
import Hunter.IssueAgent.Store
import Hunter.IssueAgent.Vocabulary
import Hunter.IssueAgent.Writing
import Hunter.Issuer.Ownership
import Hunter.Json.Grammar
import Hunter.Json.RoundTrip
import Hunter.Json.Size
import Hunter.Json.Text
import Hunter.Json.Value
import Hunter.Knowledge.Admission
import Hunter.Knowledge.Append
import Hunter.Knowledge.Batching
import Hunter.Knowledge.Consistency
import Hunter.Knowledge.Encoding
import Hunter.Knowledge.Ingestion
import Hunter.Knowledge.Interruption
import Hunter.Knowledge.Minting
import Hunter.Knowledge.Observation
import Hunter.Knowledge.Promotion
import Hunter.Knowledge.Remediation
import Hunter.Knowledge.Writing
import Hunter.Machine.Run
import Hunter.MarketValidation.Anchor
import Hunter.MarketValidation.Authority
import Hunter.MarketValidation.Replay
import Hunter.MarketValidation.Universe
import Hunter.Mispricing.Assessment
import Hunter.Mispricing.Times
import Hunter.ModelAdapter.Captures
import Hunter.Persistence.Analytical
import Hunter.Plugins.Loading
import Hunter.Plugins.Manager
import Hunter.PredictionEvaluation.Aggregates
import Hunter.PredictionEvaluation.Deadline
import Hunter.PredictionEvaluation.Lifecycle
import Hunter.PredictionEvaluation.Models
import Hunter.PredictionEvaluation.Recomputation
import Hunter.PredictionEvaluation.Retiming
import Hunter.PredictionEvaluation.Service
import Hunter.PredictionEvaluation.Verdict
import Hunter.ResponseValidator.Comparisons
import Hunter.ResponseValidator.Content
import Hunter.ResponseValidator.Contract
import Hunter.ResponseValidator.ContractText
import Hunter.ResponseValidator.Corrections
import Hunter.ResponseValidator.ForbiddenKeys
import Hunter.ResponseValidator.Nesting
import Hunter.ResponseValidator.Outcomes
import Hunter.ResponseValidator.Persistable
import Hunter.ResponseValidator.Profiles
import Hunter.ResponseValidator.Reading
import Hunter.ResponseValidator.References
import Hunter.ResponseValidator.Replay
import Hunter.ResponseValidator.Validator
import Hunter.ResponseValidator.Vocabulary
import Hunter.SourceHandling.Head
import Hunter.SourceHandling.Payload
import Hunter.SourceHandling.Values
import Hunter.Sufficiency.Evaluator
import Hunter.Text.Calendar
import Hunter.Text.Decimal
import Hunter.Text.DecimalContext
import Hunter.Text.DecimalText
import Hunter.Text.Joined
import Hunter.Text.Timestamp
import Hunter.Valuation.Lockstep
import Hunter.Valuation.Records
import Hunter.ValueCapture.Ingestion
import Hunter.ValueCapture.Models
import Hunter.ValueCapture.Retries
import Hunter.ValueCapture.Snapshots
