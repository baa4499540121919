import Phrasebook.Alias
import Phrasebook.Alias.Form
import Phrasebook.AliasFile
import Phrasebook.Arguments
import Phrasebook.Cache
import Phrasebook.Clock
import Phrasebook.Decimal
import Phrasebook.Decimal.Nearest
import Phrasebook.Event
import Phrasebook.Event.Form
import Phrasebook.FileTree
import Phrasebook.Glob
import Phrasebook.Host
import Phrasebook.Issue
import Phrasebook.Journal
import Phrasebook.Json
import Phrasebook.Json.Decoded
import Phrasebook.Json.Printer
import Phrasebook.Json.Reader
import Phrasebook.Keyword
import Phrasebook.Main
import Phrasebook.Names
import Phrasebook.Opener
import Phrasebook.Path
import Phrasebook.Pattern
import Phrasebook.Pattern.Expression
import Phrasebook.Plan
import Phrasebook.Plan.Form
import Phrasebook.Policy
import Phrasebook.Policy.Form
import Phrasebook.Program
import Phrasebook.Relevance
import Phrasebook.Report
import Phrasebook.Report.Style
import Phrasebook.Resolution
import Phrasebook.Resolution.Form
import Phrasebook.Routing
import Phrasebook.Scope
import Phrasebook.Session
import Phrasebook.Settings
import Phrasebook.Settings.Loading
import Phrasebook.Settings.Variable
import Phrasebook.Snapshot
import Phrasebook.Store
import Phrasebook.Substitution
import Phrasebook.Template
import Phrasebook.Template.Cut
import Phrasebook.Text.Alphanumeric
import Phrasebook.Text.Blank
import Phrasebook.Text.CaseRun
import Phrasebook.Text.CodeRange
import Phrasebook.Text.Folding
import Phrasebook.Text.Lowercase
import Phrasebook.Text.Printable
import Phrasebook.Text.Quoted
import Phrasebook.Text.Scan
import Phrasebook.Toml.Datetime
import Phrasebook.Toml.Reader
import Phrasebook.Toml.Scalar
import Phrasebook.Toml.Tree
import Phrasebook.Proofs.Json.Texts
import Phrasebook.Proofs.Text.Case
import Phrasebook.Proofs.Template.Grammar
import Phrasebook.Proofs.Template.Cutting
import Phrasebook.Proofs.Pattern.Captures
import Phrasebook.Proofs.Pattern.Case
import Phrasebook.Proofs.Pattern.Filled
import Phrasebook.Proofs.Substitution.References
import Phrasebook.Proofs.Pattern.Restoring
import Phrasebook.Proofs.Plan.Influence
import Phrasebook.Proofs.Snapshot.Index
import Phrasebook.Proofs.Snapshot.Admission
import Phrasebook.Proofs.Routing.Outcome
import Phrasebook.Proofs.Routing.Precedence
import Phrasebook.Proofs.Routing.Case
import Phrasebook.Proofs.Routing.Isolation
import Phrasebook.Proofs.Routing.Filling
import Phrasebook.Proofs.Session.Freshness
import Phrasebook.Proofs.Session.Recovery
import Phrasebook.Proofs.Snapshot.Accounting
import Phrasebook.Proofs.Snapshot.Addressing
import Phrasebook.Proofs.Snapshot.Listing
import Phrasebook.Proofs.Relevance.Exact
import Phrasebook.Proofs.Routing.Ranking
import Phrasebook.Proofs.Routing.Disabled
import Phrasebook.Proofs.Routing.Winner
import Phrasebook.Proofs.Report.Check
import Phrasebook.Proofs.Session.Bookkeeping
import Phrasebook.Proofs.Text.Blank
import Phrasebook.Proofs.Opener.Longest
import Phrasebook.Proofs.Routing.Openers
import Phrasebook.Proofs.Substitution.Dependence
import Phrasebook.Proofs.Alias.Check
import Phrasebook.Proofs.Double.Rounding
import Phrasebook.Proofs.Double.Packing
import Phrasebook.Proofs.Double.Arithmetic
import Phrasebook.Proofs.Relevance.Doubles
import Phrasebook.Proofs.Routing.Doubles
import Phrasebook.Proofs.Routing.Permutation
import Phrasebook.Proofs.Routing.Widening
import Phrasebook.Proofs.Relevance.Laws
import Phrasebook.Proofs.Plan.Grants
import Phrasebook.Proofs.Json.Normal
import Phrasebook.Proofs.Json.Reading
import Phrasebook.Proofs.Alias.Form
import Phrasebook.Proofs.AliasFile.Shapes
import Phrasebook.Proofs.Routing.Reach
import Phrasebook.Proofs.Json.Reordering
import Phrasebook.Proofs.Json.RoundTrip
import Phrasebook.Proofs.Alias.RoundTrip
import Phrasebook.Proofs.Plan.Form
import Phrasebook.Proofs.Resolution.Form
import Phrasebook.Proofs.Settings.Merging
import Phrasebook.Proofs.Settings.Keys
import Phrasebook.Proofs.Settings.Loading
import Phrasebook.Proofs.Settings.Precedence
import Phrasebook.Proofs.Settings.Sources
import Phrasebook.Proofs.Keyword.Stem
import Phrasebook.Proofs.Keyword.Plural
import Phrasebook.Proofs.Keyword.StopWords
import Phrasebook.Proofs.Text.Pieces
import Phrasebook.Proofs.Text.Small
import Phrasebook.Proofs.Template.Faults
import Phrasebook.Proofs.Json.Printing
import Phrasebook.Proofs.FileTree.Writing
import Phrasebook.Proofs.Journal.Appending
import Phrasebook.Proofs.Text.Barrier
import Phrasebook.Proofs.Keyword.Composition
