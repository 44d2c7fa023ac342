import TagTree.Arguments
import TagTree.Attribute
import TagTree.Catalogue
import TagTree.Collect
import TagTree.Collection
import TagTree.Decimal.Binary64
import TagTree.Decimal.Rounded
import TagTree.Decimal.Shortest
import TagTree.Display
import TagTree.Edit
import TagTree.Equality
import TagTree.Fault
import TagTree.Files
import TagTree.Guard
import TagTree.Heap
import TagTree.Invoke
import TagTree.Items
import TagTree.Json.Basic
import TagTree.Json.Reader
import TagTree.Json.Writer
import TagTree.Log.Basic
import TagTree.Log.Record
import TagTree.Log.Setup
import TagTree.Log.Template
import TagTree.Log.Time
import TagTree.Matcher.Basic
import TagTree.Matcher.Expression
import TagTree.Nesting
import TagTree.Node.Ability
import TagTree.Node.Document
import TagTree.Node.Link
import TagTree.Node.Make
import TagTree.Number
import TagTree.Pattern.Basic
import TagTree.Pattern.Failure
import TagTree.Pattern.Glob
import TagTree.Pattern.Reader
import TagTree.Payload
import TagTree.Proofs.Evaluation
import TagTree.Script.Action
import TagTree.Script.Evaluate
import TagTree.Script.Perform
import TagTree.Script.Report
import TagTree.Script.Scripted
import TagTree.Script.Session
import TagTree.Script.Syntax
import TagTree.Sentinel
import TagTree.Settings.Active
import TagTree.Settings.Basic
import TagTree.Settings.Dump
import TagTree.Settings.File
import TagTree.Slots
import TagTree.Table
import TagTree.Text.Blank
import TagTree.Text.Date
import TagTree.Text.Date.Template
import TagTree.Text.Digit
import TagTree.Text.Identifier
import TagTree.Text.Integer
import TagTree.Text.Letter
import TagTree.Text.Line
import TagTree.Text.Name
import TagTree.Text.Name.Alias
import TagTree.Text.Name.Ancient
import TagTree.Text.Name.Asian
import TagTree.Text.Name.Basic
import TagTree.Text.Name.EastAsian
import TagTree.Text.Name.European
import TagTree.Text.Name.Notation
import TagTree.Text.Name.Phonetic
import TagTree.Text.Name.Pictograph
import TagTree.Text.Name.Presentation
import TagTree.Text.Name.Rare
import TagTree.Text.Name.Symbol
import TagTree.Text.Printable
import TagTree.Text.Quoted
import TagTree.Text.Ranges
import TagTree.Text.Upper
import TagTree.Text.Utf8
import TagTree.Text.Word
import TagTree.Value
import TagTree.Walk
import TagTree.World
import TagTree.Proofs.Nodes
import TagTree.Proofs.Children
import TagTree.Proofs.Editing
import TagTree.Proofs.Sentinels
import TagTree.Proofs.Parentage
import TagTree.Proofs.ChildSequence
import TagTree.Proofs.Replay
import TagTree.Proofs.Enclosure
import TagTree.Proofs.Classification
import TagTree.Proofs.TrackedWalk
import TagTree.Proofs.MatcherGrammar
import TagTree.Proofs.Inert
import TagTree.Proofs.Phases
import TagTree.Proofs.Refusals
import TagTree.Proofs.Documents
import TagTree.Proofs.Making
import TagTree.Proofs.Loading
import TagTree.Proofs.Normalisation
import TagTree.Proofs.RoundTrip
import TagTree.Proofs.AcceptedSettings
import TagTree.Proofs.Ambiguity
import TagTree.Proofs.ExpressionText
import TagTree.Proofs.StoredText
import TagTree.Proofs.SettingsFiles
import TagTree.Proofs.Reachability
import TagTree.Proofs.NodeHeaps
import TagTree.Proofs.Ownership
import TagTree.Proofs.Delegation
import TagTree.Proofs.LogSetup
import TagTree.Proofs.ActiveSettings
import TagTree.Proofs.Emptiness
import TagTree.Proofs.Wrapping
import TagTree.Proofs.Fences
import TagTree.Proofs.Matching
import TagTree.Proofs.Preorder
import TagTree.Proofs.Adoption
import TagTree.Proofs.Unfolding
import TagTree.Proofs.Rounds
import TagTree.Proofs.Cancellation
import TagTree.Proofs.Leaves
import TagTree.Proofs.Pruning
import TagTree.Proofs.Flattening
import TagTree.Proofs.Lookups
import TagTree.Proofs.Globs
import TagTree.Proofs.SlashEscapes
import TagTree.Proofs.Acceptance
import TagTree.Proofs.PatternRefusals
import TagTree.Proofs.GlobSets
import TagTree.Proofs.GlobReading
import TagTree.Proofs.MatcherOutcomes
