import TraceReconciler.Actor.Basic
import TraceReconciler.Actor.Schedule
import TraceReconciler.Actor.Session
import TraceReconciler.CommandLine.Arguments
import TraceReconciler.CommandLine.EnvironmentFile
import TraceReconciler.CommandLine.Run
import TraceReconciler.Configuration.Basic
import TraceReconciler.Configuration.Feature
import TraceReconciler.Configuration.Merge
import TraceReconciler.Configuration.Projection
import TraceReconciler.Configuration.Snapshot
import TraceReconciler.Configuration.Wire
import TraceReconciler.Envelope
import TraceReconciler.Files.Access
import TraceReconciler.Files.Path
import TraceReconciler.Files.Tree
import TraceReconciler.Json.Decoder
import TraceReconciler.Json.Fault
import TraceReconciler.Json.Node
import TraceReconciler.Json.Number
import TraceReconciler.Json.Numeral
import TraceReconciler.Json.Reader
import TraceReconciler.Json.StringToken
import TraceReconciler.Json.Value
import TraceReconciler.Main
import TraceReconciler.Number.Binary64
import TraceReconciler.Number.Shortest
import TraceReconciler.Ordered.Key
import TraceReconciler.Ordered.Map
import TraceReconciler.Ordered.Set
import TraceReconciler.Proofs.Actor.Agreement
import TraceReconciler.Proofs.Actor.Clients
import TraceReconciler.Proofs.Actor.Confirmation
import TraceReconciler.Proofs.Actor.Interleaving
import TraceReconciler.Proofs.Actor.Lifetime
import TraceReconciler.Proofs.Actor.Persistence
import TraceReconciler.Proofs.Actor.Pushes
import TraceReconciler.Proofs.Actor.Refusal
import TraceReconciler.Proofs.Actor.System
import TraceReconciler.Proofs.Actor.Traffic
import TraceReconciler.Proofs.Actor.Turn
import TraceReconciler.Proofs.CommandLine.Invocations
import TraceReconciler.Proofs.CommandLine.Understanding
import TraceReconciler.Proofs.Configuration.Canonical
import TraceReconciler.Proofs.Configuration.Commutation
import TraceReconciler.Proofs.Configuration.Entries
import TraceReconciler.Proofs.Configuration.Merging
import TraceReconciler.Proofs.Configuration.Naming
import TraceReconciler.Proofs.Configuration.Numbers
import TraceReconciler.Proofs.Configuration.Options
import TraceReconciler.Proofs.Configuration.Presentation
import TraceReconciler.Proofs.Configuration.ProbeOrder
import TraceReconciler.Proofs.Configuration.Reswitching
import TraceReconciler.Proofs.Configuration.RoundTrip
import TraceReconciler.Proofs.Configuration.Supersession
import TraceReconciler.Proofs.Configuration.Switched
import TraceReconciler.Proofs.Configuration.Tagged
import TraceReconciler.Proofs.Configuration.Versions
import TraceReconciler.Proofs.Envelope
import TraceReconciler.Proofs.Envelope.Handover
import TraceReconciler.Proofs.Files.Path
import TraceReconciler.Proofs.Files.Tree
import TraceReconciler.Proofs.Json.Decoding
import TraceReconciler.Proofs.Json.Layout
import TraceReconciler.Proofs.Json.Literal
import TraceReconciler.Proofs.Json.MemberOrder
import TraceReconciler.Proofs.Json.Presentation
import TraceReconciler.Proofs.Json.Spelling
import TraceReconciler.Proofs.Json.Token
import TraceReconciler.Proofs.Reconcile.Collapse
import TraceReconciler.Proofs.Reconcile.Journal
import TraceReconciler.Proofs.Reconcile.Sequence
import TraceReconciler.Proofs.Reconcile.Simulation
import TraceReconciler.Proofs.Reconcile.Texts
import TraceReconciler.Proofs.Reconcile.Toggle
import TraceReconciler.Proofs.Remote.Faults
import TraceReconciler.Proofs.Remote.File
import TraceReconciler.Proofs.Remote.Register
import TraceReconciler.Proofs.Settings
import TraceReconciler.Proofs.Text.OctetOrder
import TraceReconciler.Reconcile.Event
import TraceReconciler.Reconcile.Run
import TraceReconciler.Reconcile.Stage
import TraceReconciler.Reconcile.State
import TraceReconciler.Remote.Call
import TraceReconciler.Remote.File
import TraceReconciler.Remote.Memory
import TraceReconciler.Settings
import TraceReconciler.Text.Alphanumeric
import TraceReconciler.Text.Blank
import TraceReconciler.Text.Decimal
import TraceReconciler.Text.Duration
import TraceReconciler.Text.Printable
import TraceReconciler.Text.Quoted
import TraceReconciler.Text.Runs
import TraceReconciler.Text.Utf8
