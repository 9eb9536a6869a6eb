import Scaffold.Artifact
import Scaffold.Artifact.Fragment
import Scaffold.Artifact.Output
import Scaffold.Backend.ClassName
import Scaffold.Backend.Controller
import Scaffold.Backend.Factory
import Scaffold.Backend.Migration
import Scaffold.Backend.Model
import Scaffold.Backend.Request
import Scaffold.Cascade
import Scaffold.Code.Identifier
import Scaffold.Code.Layout
import Scaffold.Code.Markup
import Scaffold.Command.Invocation
import Scaffold.Command.Line
import Scaffold.Command.Parameter
import Scaffold.Command.Reach
import Scaffold.Command.Session
import Scaffold.Command.Usage
import Scaffold.Failure
import Scaffold.Inflection
import Scaffold.Inflection.Rules
import Scaffold.Names
import Scaffold.Page.Control
import Scaffold.Page.Declaration
import Scaffold.Page.DependentList
import Scaffold.Page.Detail
import Scaffold.Page.Form
import Scaffold.Page.Listing
import Scaffold.Page.Records
import Scaffold.Page.TypeImport
import Scaffold.Page.View
import Scaffold.Plan.Basic
import Scaffold.Plan.Build
import Scaffold.Plan.Options
import Scaffold.Plan.Rules
import Scaffold.Plan.Selection
import Scaffold.Project.Configuration
import Scaffold.Project.Glob
import Scaffold.Project.Install
import Scaffold.Project.Path
import Scaffold.Project.Tree
import Scaffold.Proofs.Artifact.Absence
import Scaffold.Proofs.Artifact.Arity
import Scaffold.Proofs.Artifact.Cascade
import Scaffold.Proofs.Artifact.Keys
import Scaffold.Proofs.Artifact.Parts
import Scaffold.Proofs.Artifact.Positions
import Scaffold.Proofs.Artifact.Resolved
import Scaffold.Proofs.Artifact.Scope
import Scaffold.Proofs.Backend.Columns
import Scaffold.Proofs.Backend.Endpoints
import Scaffold.Proofs.Backend.Methods
import Scaffold.Proofs.Backend.Requests
import Scaffold.Proofs.Backend.Unmarked
import Scaffold.Proofs.Cascade.Circles
import Scaffold.Proofs.Cascade.Inference
import Scaffold.Proofs.Cascade.Naming
import Scaffold.Proofs.Casing
import Scaffold.Proofs.Code.Mention
import Scaffold.Proofs.Code.Reading
import Scaffold.Proofs.Code.Unmarked
import Scaffold.Proofs.Inflection
import Scaffold.Proofs.Names
import Scaffold.Proofs.Page.Choices
import Scaffold.Proofs.Page.Constants
import Scaffold.Proofs.Page.Control
import Scaffold.Proofs.Page.Exports
import Scaffold.Proofs.Page.Fragment
import Scaffold.Proofs.Page.Imports
import Scaffold.Proofs.Page.Mention
import Scaffold.Proofs.Page.Projections
import Scaffold.Proofs.Page.Props
import Scaffold.Proofs.Page.Records
import Scaffold.Proofs.Page.Unmarked
import Scaffold.Proofs.Plan.Declared
import Scaffold.Proofs.Plan.Requested
import Scaffold.Proofs.Plan.Rules
import Scaffold.Proofs.Plan.Selection
import Scaffold.Proofs.Plan.Unmarked
import Scaffold.Proofs.Project.Account
import Scaffold.Proofs.Project.Batch
import Scaffold.Proofs.Project.Edit
import Scaffold.Proofs.Project.Ending
import Scaffold.Proofs.Project.Footprint
import Scaffold.Proofs.Project.Glob
import Scaffold.Proofs.Project.Grouping
import Scaffold.Proofs.Project.Growth
import Scaffold.Proofs.Project.Migration
import Scaffold.Proofs.Project.Navigation
import Scaffold.Proofs.Project.Placement
import Scaffold.Proofs.Project.Places
import Scaffold.Proofs.Project.Preservation
import Scaffold.Proofs.Project.Rehearsal
import Scaffold.Proofs.Project.Repeating
import Scaffold.Proofs.Project.Resting
import Scaffold.Proofs.Project.Rewriting
import Scaffold.Proofs.Project.Sharing
import Scaffold.Proofs.Project.Splicing
import Scaffold.Proofs.Project.Stopping
import Scaffold.Proofs.Project.Straight
import Scaffold.Proofs.Project.Target
import Scaffold.Proofs.Project.Walk
import Scaffold.Proofs.Project.Writing
import Scaffold.Proofs.Registry.Anchoring
import Scaffold.Proofs.Registry.Apart
import Scaffold.Proofs.Registry.Beside
import Scaffold.Proofs.Registry.Creation
import Scaffold.Proofs.Registry.Gathering
import Scaffold.Proofs.Registry.Icons
import Scaffold.Proofs.Registry.Insertion
import Scaffold.Proofs.Registry.Modules
import Scaffold.Proofs.Registry.Navigation
import Scaffold.Proofs.Registry.Persistence
import Scaffold.Proofs.Registry.Regions
import Scaffold.Proofs.Registry.Reloading
import Scaffold.Proofs.Registry.Repetition
import Scaffold.Proofs.Registry.Saving
import Scaffold.Proofs.Registry.Soundness
import Scaffold.Proofs.Registry.Stripping
import Scaffold.Proofs.Registry.Turns
import Scaffold.Proofs.Registry.Weave
import Scaffold.Proofs.Registry.Wiring
import Scaffold.Proofs.Schema.Acceptance
import Scaffold.Proofs.Schema.Accounting
import Scaffold.Proofs.Schema.Declaration
import Scaffold.Proofs.Schema.Distinct
import Scaffold.Proofs.Schema.Fields
import Scaffold.Proofs.Schema.Reading
import Scaffold.Proofs.Schema.Relations
import Scaffold.Proofs.Schema.RoundTrip
import Scaffold.Proofs.Schema.RuleLists
import Scaffold.Proofs.Schema.Segment
import Scaffold.Proofs.Schema.Spacing
import Scaffold.Proofs.Schema.Unmarked
import Scaffold.Proofs.Stub
import Scaffold.Proofs.Template
import Scaffold.Proofs.Template.Leftover
import Scaffold.Proofs.Template.Pass
import Scaffold.Proofs.Template.Row
import Scaffold.Proofs.Template.Vocabulary
import Scaffold.Proofs.Text.Atom
import Scaffold.Proofs.Text.Least
import Scaffold.Proofs.Text.Linewise
import Scaffold.Proofs.Text.Match
import Scaffold.Proofs.Text.Number
import Scaffold.Proofs.Text.Occurrence
import Scaffold.Proofs.Text.Padded
import Scaffold.Proofs.Text.Piece
import Scaffold.Proofs.Text.Plain
import Scaffold.Proofs.Text.Quoted
import Scaffold.Proofs.Text.Repetition
import Scaffold.Proofs.Text.Row
import Scaffold.Proofs.Text.Span
import Scaffold.Proofs.Text.Tidy
import Scaffold.Proofs.Text.Trim
import Scaffold.Proofs.Text.Unmarked
import Scaffold.Proofs.Text.WholeWord
import Scaffold.Registry
import Scaffold.Registry.Anchor
import Scaffold.Registry.Entry
import Scaffold.Registry.Wiring
import Scaffold.Schema.Diagnostic
import Scaffold.Schema.Field
import Scaffold.Schema.Kind
import Scaffold.Schema.Parser
import Scaffold.Schema.Relationship
import Scaffold.Settings.Basic
import Scaffold.Settings.JsonObject
import Scaffold.Settings.Toml
import Scaffold.Settings.Toml.Quoted
import Scaffold.Settings.Toml.Scalar
import Scaffold.Settings.Toml.Value
import Scaffold.Stub
import Scaffold.Stub.Backend
import Scaffold.Stub.Pages
import Scaffold.Template
import Scaffold.Template.Placeholder
import Scaffold.Text.Basic
import Scaffold.Text.Blank
import Scaffold.Text.Case
import Scaffold.Text.Category
import Scaffold.Text.CharProperty
import Scaffold.Text.CharSet
import Scaffold.Text.CharSet.Named
import Scaffold.Text.Cursor
import Scaffold.Text.Hex
import Scaffold.Text.Line
import Scaffold.Text.Order
import Scaffold.Text.Pattern
import Scaffold.Text.Pattern.Bracket
import Scaffold.Text.Pattern.Escape
import Scaffold.Text.Pattern.Reader
import Scaffold.Text.Quoted
import Scaffold.Text.Script
import Scaffold.Text.Search
import Scaffold.Text.Split
import Scaffold.Text.Words
import Scaffold.Main
