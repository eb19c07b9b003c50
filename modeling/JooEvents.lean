import JooEvents.Access.Approval
import JooEvents.Access.Reconciliation
import JooEvents.Access.Reduction
import JooEvents.Airtable.Paging
import JooEvents.Airtable.Ready
import JooEvents.Airtable.Reconciliation
import JooEvents.Airtable.Traced
import JooEvents.Communications.Attempts
import JooEvents.Communications.Composite
import JooEvents.Decision.Bulk
import JooEvents.Engagement.Runs
import JooEvents.FieldRegistry.Choices
import JooEvents.Intake.Materialization
import JooEvents.Intake.Parity
import JooEvents.Intake.Pins
import JooEvents.Intake.Readable
import JooEvents.Kernel.CanonicalFrame
import JooEvents.Program.Acceptance
import JooEvents.Program.Selection
import JooEvents.ProgramExport.Ready
import JooEvents.ProgramExport.Zip
import JooEvents.PublicApplication.Submission
import JooEvents.Reliability.Budget
import JooEvents.Reliability.Fanout
import JooEvents.Reliability.Inbox
import JooEvents.Review.Arrivals
import JooEvents.Review.Standings
import JooEvents.Roster.Pairing
import JooEvents.Roster.Validation
import JooEvents.Schedule.Readback
import JooEvents.Session.Edits
import JooEvents.Triage.Migration
import JooEvents.Triage.SearchLaws
import JooEvents.Communications.Suppression
import JooEvents.Communications.Verification
import JooEvents.Access.Mailboxes
import JooEvents.Communications.MarkedCopy
import JooEvents.Schedule.Starts
import JooEvents.Communications.Rendered
