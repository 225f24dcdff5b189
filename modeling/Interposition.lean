import Interposition.Argument
import Interposition.Audit
import Interposition.Bindings
import Interposition.Checked
import Interposition.Client
import Interposition.CommandLine.Programs
import Interposition.CommandLine.Reading
import Interposition.CommandLine.Usage
import Interposition.Config
import Interposition.Demo.Cage
import Interposition.Demo.Catalog
import Interposition.Demo.Grate
import Interposition.Diagnostic
import Interposition.Dispatch
import Interposition.Documents
import Interposition.Duration
import Interposition.Errno
import Interposition.Handler
import Interposition.Host.Files
import Interposition.Host.Program
import Interposition.Id
import Interposition.InterceptionTable
import Interposition.IoError
import Interposition.Journal.Error
import Interposition.Journal.File
import Interposition.Journal.Record
import Interposition.Json.Binary64
import Interposition.Json.Decode
import Interposition.Json.Document
import Interposition.Json.Numeral
import Interposition.Json.Reading
import Interposition.Json.Value
import Interposition.Loopback
import Interposition.Main
import Interposition.Native
import Interposition.Path
import Interposition.Process.Batch
import Interposition.Process.Chain
import Interposition.Process.Error
import Interposition.Process.Executor
import Interposition.Process.Launch
import Interposition.Process.Plan
import Interposition.Process.Record
import Interposition.Process.Session
import Interposition.Programs
import Interposition.Proofs.Bindings
import Interposition.Proofs.Chain.Cages
import Interposition.Proofs.Chain.Depth
import Interposition.Proofs.Chain.Failures
import Interposition.Proofs.Chain.Order
import Interposition.Proofs.Chain.Refusals
import Interposition.Proofs.Chain.Service
import Interposition.Proofs.Chain.Site
import Interposition.Proofs.Chain.Stranding
import Interposition.Proofs.Chain.Trials
import Interposition.Proofs.CommandLine.Names
import Interposition.Proofs.CommandLine.Places
import Interposition.Proofs.Config
import Interposition.Proofs.Config.Inheritance
import Interposition.Proofs.Demo.Announcing
import Interposition.Proofs.Dispatch
import Interposition.Proofs.Host.Alone
import Interposition.Proofs.Host.Confinement
import Interposition.Proofs.Host.Contract
import Interposition.Proofs.Host.Execution
import Interposition.Proofs.Host.Playing
import Interposition.Proofs.Host.SharedFiles
import Interposition.Proofs.Host.Writing
import Interposition.Proofs.Journal.Agreement
import Interposition.Proofs.Journal.Bytes
import Interposition.Proofs.Journal.Codec
import Interposition.Proofs.Journal.Commutation
import Interposition.Proofs.Journal.File
import Interposition.Proofs.Journal.Reading
import Interposition.Proofs.Json.Documents
import Interposition.Proofs.Json.Encodings
import Interposition.Proofs.Json.Handover
import Interposition.Proofs.Json.RoundTrip
import Interposition.Proofs.Json.Scalars
import Interposition.Proofs.Json.Tagged
import Interposition.Proofs.Json.Variation
import Interposition.Proofs.Json.Written
import Interposition.Proofs.Loopback.Following
import Interposition.Proofs.Loopback.Isolation
import Interposition.Proofs.Loopback.Registering
import Interposition.Proofs.Loopback.Routing
import Interposition.Proofs.Loopback.Unreadable
import Interposition.Proofs.Process.Batches
import Interposition.Proofs.Process.Collecting
import Interposition.Proofs.Process.History
import Interposition.Proofs.Process.Ledger
import Interposition.Proofs.Process.ProcessTable
import Interposition.Proofs.Process.Starting
import Interposition.Proofs.Process.Statuses
import Interposition.Proofs.Process.Supervision
import Interposition.Proofs.Process.Sweeps
import Interposition.Proofs.Provenance
import Interposition.Proofs.Registration
import Interposition.Proofs.Rendezvous.Acknowledging
import Interposition.Proofs.Rendezvous.Names
import Interposition.Proofs.Rendezvous.Publishing
import Interposition.Proofs.Rendezvous.Separation
import Interposition.Proofs.Rendezvous.Waiting
import Interposition.Proofs.Session.Cage
import Interposition.Proofs.Session.Calls
import Interposition.Proofs.Session.Exits
import Interposition.Proofs.Session.Frames
import Interposition.Proofs.Session.Gate
import Interposition.Proofs.Session.Grate
import Interposition.Proofs.Session.Leftovers
import Interposition.Proofs.Session.Loader
import Interposition.Proofs.Session.Names
import Interposition.Proofs.Session.Protocol
import Interposition.Proofs.Session.Release
import Interposition.Proofs.Session.Requests
import Interposition.Proofs.Session.Safety
import Interposition.Proofs.Session.Scenes
import Interposition.Proofs.Session.Supervision
import Interposition.Proofs.Session.Teardown
import Interposition.Proofs.Session.World
import Interposition.Proofs.Table.AuditTrail
import Interposition.Proofs.Table.Exits
import Interposition.Proofs.Table.Operations
import Interposition.Proofs.Table.Sequences
import Interposition.Proofs.Table.Service
import Interposition.Proofs.Table.Snapshot
import Interposition.Proofs.Table.Trace
import Interposition.Proofs.Table.Verdicts
import Interposition.Proofs.Text.Decimal
import Interposition.Proofs.Text.Utf8
import Interposition.Registration
import Interposition.Rendezvous.Directory
import Interposition.Rendezvous.Error
import Interposition.Rendezvous.Gate
import Interposition.Rendezvous.Marker
import Interposition.Rendezvous.Poll
import Interposition.Signal
import Interposition.Simulation.Answer
import Interposition.Simulation.Executables
import Interposition.Simulation.FileSystem
import Interposition.Simulation.Image
import Interposition.Simulation.Installation
import Interposition.Simulation.Machine
import Interposition.Simulation.Schedule
import Interposition.Simulation.Shell.Arithmetic
import Interposition.Simulation.Shell.Builtin
import Interposition.Simulation.Shell.Command
import Interposition.Simulation.Shell.Condition
import Interposition.Simulation.Shell.Expansion
import Interposition.Simulation.Shell.Format
import Interposition.Simulation.Shell.Pattern
import Interposition.Simulation.Shell.Run
import Interposition.Simulation.Shell.State
import Interposition.Simulation.Shell.Token
import Interposition.Simulation.Shell.Utility
import Interposition.Simulation.Transcript
import Interposition.Syscall
import Interposition.Text.Blank
import Interposition.Text.Case
import Interposition.Text.Hex
import Interposition.Text.Number
import Interposition.Text.Quoted
import Interposition.Text.Substitution
import Interposition.Text.Utf8
