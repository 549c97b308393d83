import BlockText.Text.Case
import BlockText.Text.Literal
import BlockText.Text.CodePoint
import BlockText.Text.CharacterName
import BlockText.Text.Basic
import BlockText.Decimal
import BlockText.Datum.Schema
import BlockText.Datum.Json
import BlockText.Datum.Walk
import BlockText.Datum.Shape
import BlockText.Syntax.Reading
import BlockText.Render.Program
import BlockText.Syntax.Error
import BlockText.Identity
import BlockText.Settings
import BlockText.Source.Lexer
import BlockText.Source.Tree
import BlockText.Source.Reading
import BlockText.Source.Literal
import BlockText.Source.Outline
import BlockText.Block.Builtin
import BlockText.Workspace.Basic
import BlockText.Workspace.Query
import BlockText.Workspace.Declared
import BlockText.Workspace.Edit
import BlockText.Workspace.Snapshot
import BlockText.Workspace.Build
import BlockText.Workspace.Compile
import BlockText.Sync.Machine
import BlockText.Sync.Debouncer
import BlockText.Sync.Emitter
import BlockText.Sync.Event
import BlockText.Sync.Language
import BlockText.Sync.Session
import BlockText.Api.Body
import BlockText.Api.Route
import BlockText.Api.Socket
import BlockText.Proofs.Workspace.Entries
import BlockText.Proofs.Workspace.Links
import BlockText.Proofs.Workspace.Forest
import BlockText.Proofs.Block.Fields
import BlockText.Proofs.Block.Slots
import BlockText.Proofs.Build.Calls
import BlockText.Proofs.Build.Chains
import BlockText.Proofs.Build.Statements
import BlockText.Proofs.Workspace.Deleting
import BlockText.Proofs.Workspace.Operations
import BlockText.Proofs.Workspace.Refusals
import BlockText.Proofs.Workspace.Splicing
import BlockText.Proofs.Workspace.Shaping
import BlockText.Proofs.Workspace.Excising
import BlockText.Proofs.Build.Compounds
import BlockText.Proofs.Build.Programs
import BlockText.Proofs.Build.Showing
import BlockText.Proofs.Build.Upholding
import BlockText.Proofs.Build.Caching
import BlockText.Proofs.Build.Locating
import BlockText.Proofs.Render.Bare
import BlockText.Proofs.Compile.Visible
import BlockText.Proofs.Datum.Preorder
import BlockText.Proofs.Sync.Requests
import BlockText.Proofs.Sync.Runs
import BlockText.Proofs.Sync.Schedules
import BlockText.Proofs.Sync.Ledger
import BlockText.Proofs.Sync.Simulation
import BlockText.Proofs.Sync.Resting
import BlockText.Proofs.Sync.Texts
import BlockText.Proofs.Sync.Edits
import BlockText.Proofs.Sync.Rounds
import BlockText.Proofs.Sync.Echo
import BlockText.Proofs.Sync.Sightings
import BlockText.Proofs.Sync.History
import BlockText.Proofs.Sync.Guarding
import BlockText.Proofs.Sync.Replacing
import BlockText.Proofs.Sync.Hearing
import BlockText.Proofs.Sync.Highlights
import BlockText.Proofs.Compile.Containment
import BlockText.Proofs.Compile.Freshness
import BlockText.Proofs.Compile.Tidying
import BlockText.Proofs.Workspace.Snapshots
import BlockText.Proofs.Source.Identities
import BlockText.Proofs.Layout.Canonical
import BlockText.Proofs.Build.Declared
import BlockText.Proofs.Source.Spelling
import BlockText.Proofs.Source.Lines
import BlockText.Proofs.Source.Spans.Program
