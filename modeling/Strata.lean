import Strata.Config.Layers
import Strata.Config.Misfit
import Strata.Config.Notation
import Strata.Config.Record
import Strata.Config.Sources
import Strata.Converter
import Strata.Document.Basic
import Strata.Document.Compact
import Strata.Document.Flatten
import Strata.Document.Json
import Strata.Document.Json5
import Strata.Document.Pointer
import Strata.Document.Toml
import Strata.Document.Toml.Moment
import Strata.Document.Toml.Scalar
import Strata.Document.Toml.Section
import Strata.Document.Yaml
import Strata.Document.Yaml.Cursor
import Strata.Document.Yaml.Node
import Strata.Document.Yaml.Scalar
import Strata.Document.Yaml.Schema
import Strata.Document.Yaml.Token
import Strata.Failure
import Strata.Host
import Strata.Host.Files
import Strata.Host.Network
import Strata.Host.Status
import Strata.Number.Binary
import Strata.Number.Digits
import Strata.Number.Integer
import Strata.Number.Literal
import Strata.Number.Shortest
import Strata.Number.Spelling
import Strata.Operation.Binding
import Strata.Operation.Build
import Strata.Operation.Change
import Strata.Operation.Group
import Strata.Operation.Resolve
import Strata.Program
import Strata.Properties
import Strata.Registry.Basic
import Strata.Registry.Cache
import Strata.Registry.Layer
import Strata.Reload.FileWatch
import Strata.Reload.Scheduler
import Strata.Session.Action
import Strata.Session.Basic
import Strata.Session.Command
import Strata.Session.Deed
import Strata.Session.Interleaving
import Strata.Session.Perform
import Strata.Source
import Strata.Source.File
import Strata.Source.Memory
import Strata.Source.Remote
import Strata.Source.System
import Strata.Table
import Strata.Template
import Strata.Text.Blank
import Strata.Text.Identifier
import Strata.Text.Length
import Strata.Text.LowerCase
import Strata.Text.Quoted
import Strata.Text.Range
import Strata.Text.Search
import Strata.Text.Stop
import Strata.Text.Visible
import Strata.Timespan
import Strata.Proofs.Runs
import Strata.Proofs.Tables
import Strata.Proofs.Views
import Strata.Proofs.Caches
import Strata.Proofs.Changing
import Strata.Proofs.Deliveries
import Strata.Proofs.Delivery
import Strata.Proofs.Faithful
import Strata.Proofs.Notification
import Strata.Proofs.Transparency
import Strata.Proofs.Contracts
import Strata.Proofs.Exclusion
import Strata.Proofs.Freshness
import Strata.Proofs.Bytes
import Strata.Proofs.Detection
import Strata.Proofs.Sections
import Strata.Proofs.Generations
import Strata.Proofs.Groups
import Strata.Proofs.Coherence
import Strata.Proofs.Evictions
import Strata.Proofs.Registrations
import Strata.Proofs.Settings
import Strata.Proofs.Origins
import Strata.Proofs.Immutability
import Strata.Proofs.Guards
import Strata.Proofs.Isolation
import Strata.Proofs.Insertions
import Strata.Proofs.Callbacks
import Strata.Proofs.Repetition
import Strata.Proofs.Chronicles
import Strata.Proofs.Successions
import Strata.Proofs.Precedence
import Strata.Proofs.Decodings
import Strata.Proofs.Texts
import Strata.Proofs.Integers
import Strata.Proofs.Lists
import Strata.Proofs.Segments
import Strata.Proofs.Templates
import Strata.Proofs.Conversions
import Strata.Proofs.Decimals
import Strata.Proofs.Lines
import Strata.Proofs.Assignments
import Strata.Proofs.Leaves
import Strata.Proofs.Workers
import Strata.Proofs.Fetches
import Strata.Proofs.Building
import Strata.Proofs.EmptyKeys
import Strata.Proofs.Watches
import Strata.Proofs.LastCalls
import Strata.Proofs.Existence
import Strata.Proofs.Provenance
import Strata.Proofs.Truth
