import HrPipeline.Api.Service
import HrPipeline.Broker.Cluster
import HrPipeline.Main
import HrPipeline.Proofs.Api.Atomicity
import HrPipeline.Proofs.Api.Correlation
import HrPipeline.Proofs.Broker.AppendOnly
import HrPipeline.Proofs.Consumer.Offsets
import HrPipeline.Proofs.Consumer.Succession
import HrPipeline.Proofs.Database.Regeneration
import HrPipeline.Proofs.Outbox.ClaimedRows
import HrPipeline.Proofs.Outbox.Interleavings
import HrPipeline.Proofs.Outbox.LeaseExclusion
import HrPipeline.Proofs.Outbox.Lifecycle
import HrPipeline.Proofs.Outbox.Parking
import HrPipeline.Proofs.Outbox.Refinement
import HrPipeline.Proofs.Outbox.SentIdentifiers
import HrPipeline.Proofs.Publisher.Accounting
import HrPipeline.Proofs.Publisher.CommitOrder
import HrPipeline.Proofs.Publisher.Leases
import HrPipeline.Proofs.Publisher.Recovery
import HrPipeline.Proofs.Publisher.RetrySchedule
import HrPipeline.Proofs.Scenario.Consumption
import HrPipeline.Proofs.Scenario.Tenancy
import HrPipeline.Proofs.Scenario.Visibility
import HrPipeline.Scenario.Calling
import HrPipeline.Scenario.Consuming
import HrPipeline.Scenario.Enlisting
import HrPipeline.Scenario.Listing
import HrPipeline.Scenario.Publishing
import HrPipeline.Scenario.Statements
import HrPipeline.Proofs.Outbox.Selection
import HrPipeline.Proofs.Publisher.Batch
import HrPipeline.Proofs.Consumer.Shutdown
import HrPipeline.Proofs.Text.Utf16
import HrPipeline.Proofs.Json.Grammar
import HrPipeline.Proofs.Json.Passing
import HrPipeline.Proofs.Json.SpelledText
import HrPipeline.Proofs.Json.SpelledRecord
import HrPipeline.Proofs.Event.Acceptance
