import MeteringAlarms.Deployment
import MeteringAlarms.Main
import MeteringAlarms.Proofs.Adapter.Runs
import MeteringAlarms.Proofs.Payload.Threshold
import MeteringAlarms.Proofs.Adapter.Revision
import MeteringAlarms.Proofs.Rule.Book
import MeteringAlarms.Proofs.Adapter.Ownership
import MeteringAlarms.Proofs.Storage.Folder
import MeteringAlarms.Proofs.Rule.Sessions
import MeteringAlarms.Proofs.Alarm.Document
import MeteringAlarms.Proofs.Remote.Server
import MeteringAlarms.Proofs.Http.Target
import MeteringAlarms.Proofs.Remote.Client
import MeteringAlarms.Proofs.Remote.Mirror
import MeteringAlarms.Proofs.Rule.Undated
import MeteringAlarms.Proofs.Payload.Nested
import MeteringAlarms.Proofs.Remote.Agreement
import MeteringAlarms.Proofs.Rule.Keeping
import MeteringAlarms.Proofs.Adapter.Creation
import MeteringAlarms.Proofs.Adapter.Removal
import MeteringAlarms.Proofs.Adapter.Sharing
import MeteringAlarms.Proofs.Template.Schema
import MeteringAlarms.Proofs.Payload.Combination
import MeteringAlarms.Proofs.Remote.Revision
import MeteringAlarms.Proofs.Payload.Actions
import MeteringAlarms.Proofs.Outcome
import MeteringAlarms.Proofs.Data.Digits
import MeteringAlarms.Proofs.Json.Depth
import MeteringAlarms.Proofs.Payload.Fitting
import MeteringAlarms.Proofs.Payload.SentRules
import MeteringAlarms.Proofs.Rule.Outage
import MeteringAlarms.Proofs.Rule.Recovery
import MeteringAlarms.Proofs.Rule.Reopening
import MeteringAlarms.Proofs.Remote.Combination
import MeteringAlarms.Proofs.Adapter.Confinement
import MeteringAlarms.Proofs.Adapter.Misnamed
import MeteringAlarms.Proofs.Remote.Conversation
import MeteringAlarms.Proofs.Adapter.Failing
import MeteringAlarms.Proofs.Adapter.Renaming
import MeteringAlarms.Proofs.Adapter.Interleaving
import MeteringAlarms.Proofs.Adapter.Suspension
import MeteringAlarms.Proofs.CommandLine.Rendering
import MeteringAlarms.Proofs.CommandLine.Processes
import MeteringAlarms.Proofs.Remote.Dialogue
import MeteringAlarms.Proofs.Remote.Race
import MeteringAlarms.Proofs.Data.Text
import MeteringAlarms.Proofs.Payload.Metadata
import MeteringAlarms.Proofs.Payload.Targets
import MeteringAlarms.Proofs.Alarm.Flattening
import MeteringAlarms.Proofs.Remote.Rewriting
import MeteringAlarms.Proofs.Payload.Gathering
import MeteringAlarms.Proofs.Adapter.Resumption
import MeteringAlarms.Proofs.Remote.FlatForm
import MeteringAlarms.Proofs.Remote.Identity
import MeteringAlarms.Proofs.Alarm.Journal
import MeteringAlarms.Proofs.Rule.Overlap
import MeteringAlarms.Proofs.Remote.Addresses
