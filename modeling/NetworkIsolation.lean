import NetworkIsolation.Backend.SimulatedBalancer
import NetworkIsolation.Backend.SimulatedFabric
import NetworkIsolation.Backend.Trace
import NetworkIsolation.Main
import NetworkIsolation.Proofs.Backend.Exchange
import NetworkIsolation.Proofs.Backend.Stretch
import NetworkIsolation.Proofs.Reconcile.Stretches
import NetworkIsolation.Proofs.Reconcile.FailStop
import NetworkIsolation.Proofs.Backend.Resources
import NetworkIsolation.Proofs.Backend.Simulation
import NetworkIsolation.Proofs.Reconcile.Convergence
import NetworkIsolation.Proofs.Json.Doubles
import NetworkIsolation.Proofs.Json.Strings
import NetworkIsolation.Proofs.Json.RoundTrip
import NetworkIsolation.Proofs.Json.Parsed
import NetworkIsolation.Proofs.Document.Reading
import NetworkIsolation.Proofs.Store.Envelope
import NetworkIsolation.Proofs.FileSystem.Following
import NetworkIsolation.Proofs.FileSystem.Paths
import NetworkIsolation.Proofs.FileSystem.Places
import NetworkIsolation.Proofs.FileSystem.Directories
import NetworkIsolation.Proofs.Store.Keys
import NetworkIsolation.Proofs.Store.Contents
import NetworkIsolation.Proofs.Store.Refinement
import NetworkIsolation.Proofs.Reconcile.Importing
import NetworkIsolation.Proofs.FileSystem.OrdinaryPaths
import NetworkIsolation.Proofs.Reconcile.Messages
import NetworkIsolation.Proofs.Backend.Spaces
import NetworkIsolation.Proofs.Reconcile.SpaceConvergence
import NetworkIsolation.Proofs.Reconcile.Order
import NetworkIsolation.Proofs.Document.Values
import NetworkIsolation.Proofs.Reconcile.Writes
import NetworkIsolation.Proofs.Backend.Tracing
import NetworkIsolation.Proofs.Reconcile.DryRun
import NetworkIsolation.Proofs.Reconcile.MasterSwitch
import NetworkIsolation.Proofs.Reconcile.Annotations
import NetworkIsolation.Proofs.FileSystem.Frames
import NetworkIsolation.Proofs.FileSystem.Siblings
import NetworkIsolation.Proofs.Store.Atomicity
import NetworkIsolation.Proofs.Reconcile.PlanTrace
import NetworkIsolation.Proofs.Backend.Recording
import NetworkIsolation.Proofs.Reconcile.WorksThrough
import NetworkIsolation.Proofs.Reconcile.SpaceTrace
import NetworkIsolation.Proofs.Reconcile.PoolTrace
import NetworkIsolation.Proofs.Json.Compact
import NetworkIsolation.Proofs.Store.Tampering
import NetworkIsolation.Proofs.Decimal.Rounding
import NetworkIsolation.Proofs.Decimal.Shortest
import NetworkIsolation.Proofs.Json.NumberTexts
import NetworkIsolation.Proofs.Document.Invariants
import NetworkIsolation.Proofs.Document.Grammar
import NetworkIsolation.Proofs.Configuration.Grammar
import NetworkIsolation.Proofs.Reconcile.ImportGate
import NetworkIsolation.Proofs.Text.Pieces
import NetworkIsolation.Proofs.Reconcile.EmptyPools
import NetworkIsolation.Proofs.Reconcile.HandleLifetime
import NetworkIsolation.Proofs.Configuration.RangeUpdates
import NetworkIsolation.Proofs.Configuration.AddressLists
import NetworkIsolation.Proofs.CommandLine.KeptAnswers
import NetworkIsolation.Proofs.CommandLine.RangeHistories
import NetworkIsolation.Proofs.CommandLine.Tools
import NetworkIsolation.Proofs.CommandLine.Diagnosis
import NetworkIsolation.Proofs.CommandLine.ExitStatus
import NetworkIsolation.Proofs.Json.CompactReading
import NetworkIsolation.Proofs.Backend.Manifests
import NetworkIsolation.Proofs.Reconcile.WireTexts
import NetworkIsolation.Proofs.Store.Listing
import NetworkIsolation.Proofs.Store.Confinement
import NetworkIsolation.Proofs.Configuration.WrittenSpaces
