import CandidatePool.Address.Basic
import CandidatePool.Address.Reader
import CandidatePool.Address.Set
import CandidatePool.Allocator.Basic
import CandidatePool.Allocator.Request
import CandidatePool.Client
import CandidatePool.Error
import CandidatePool.Event
import CandidatePool.File
import CandidatePool.Folder
import CandidatePool.Log
import CandidatePool.Main
import CandidatePool.Numeral
import CandidatePool.Pool
import CandidatePool.Product
import CandidatePool.Program.Arguments
import CandidatePool.Program.Run
import CandidatePool.Proofs.AddressTexts
import CandidatePool.Proofs.Attempts
import CandidatePool.Proofs.Audit
import CandidatePool.Proofs.Binding
import CandidatePool.Proofs.Capacity
import CandidatePool.Proofs.Changes
import CandidatePool.Proofs.Clients
import CandidatePool.Proofs.Conservation
import CandidatePool.Proofs.Counts
import CandidatePool.Proofs.Credentials
import CandidatePool.Proofs.Discards
import CandidatePool.Proofs.Drafts
import CandidatePool.Proofs.DryRun
import CandidatePool.Proofs.Exhaustion
import CandidatePool.Proofs.Handles
import CandidatePool.Proofs.History
import CandidatePool.Proofs.Indifference
import CandidatePool.Proofs.Layout
import CandidatePool.Proofs.LayoutLines
import CandidatePool.Proofs.LayoutReading
import CandidatePool.Proofs.LayoutTables
import CandidatePool.Proofs.Ledger
import CandidatePool.Proofs.Likeness
import CandidatePool.Proofs.Loading
import CandidatePool.Proofs.LogReading
import CandidatePool.Proofs.Numerals
import CandidatePool.Proofs.Order
import CandidatePool.Proofs.PoolUse
import CandidatePool.Proofs.Races
import CandidatePool.Proofs.Reconciliation
import CandidatePool.Proofs.RelayTexts
import CandidatePool.Proofs.Repetition
import CandidatePool.Proofs.Resizing
import CandidatePool.Proofs.Retry
import CandidatePool.Proofs.RoundTrip
import CandidatePool.Proofs.Separation
import CandidatePool.Proofs.Series
import CandidatePool.Proofs.Shortfall
import CandidatePool.Proofs.SizePaths
import CandidatePool.Proofs.Twin
import CandidatePool.Relay
import CandidatePool.Servers
import CandidatePool.Session.Basic
import CandidatePool.Session.Factory
import CandidatePool.Session.Workshop
import CandidatePool.Settings.Basic
import CandidatePool.Settings.Load
import CandidatePool.Settings.Reader
import CandidatePool.Shared
import CandidatePool.Statistics
import CandidatePool.Text.Front
import CandidatePool.Text.Hidden
import CandidatePool.Text.Invisible
import CandidatePool.Text.Json
import CandidatePool.Text.Mark
import CandidatePool.Text.Quoted
import CandidatePool.Text.Terminal
import CandidatePool.Toml.Bare
import CandidatePool.Toml.DateTime
import CandidatePool.Toml.Document
import CandidatePool.Toml.Node
import CandidatePool.Toml.Quoted
import CandidatePool.Toml.Value
