import IssueSearch.Main
import IssueSearch.Completion
import IssueSearch.Json.Printer
import IssueSearch.Record.Completion
import IssueSearch.Record.Query
import IssueSearch.Record.Request
import IssueSearch.Record.Schema
import IssueSearch.Proofs.Text.Offset
import IssueSearch.Proofs.Token.Partition
import IssueSearch.Proofs.Token.Ending
import IssueSearch.Proofs.Token.Locality
import IssueSearch.Proofs.Token.Typing
import IssueSearch.Proofs.Text.Integer
import IssueSearch.Proofs.Time.Calendar
import IssueSearch.Proofs.Time.WireForm
import IssueSearch.Proofs.Query.Outcome
import IssueSearch.Proofs.Query.Effect
import IssueSearch.Proofs.Query.Reads
import IssueSearch.Proofs.Filters
import IssueSearch.Proofs.Query.Sound
import IssueSearch.Proofs.Filters.Overlay
import IssueSearch.Proofs.Canonical.Filter
import IssueSearch.Proofs.Canonical.Slots
import IssueSearch.Proofs.Query.Length
import IssueSearch.Proofs.Canonical.FreeText
import IssueSearch.Proofs.Canonical.RoundTrip
import IssueSearch.Proofs.Query.Append
import IssueSearch.Proofs.Token.Removal
import IssueSearch.Proofs.Query.Removal
import IssueSearch.Proofs.Query.Negation
import IssueSearch.Proofs.Query.UnknownField
import IssueSearch.Proofs.Query.WellFormed
import IssueSearch.Proofs.Filters.Range
import IssueSearch.Proofs.Query.Narrowing
import IssueSearch.Proofs.Time.Offset
import IssueSearch.Proofs.Completion.Offers
import IssueSearch.Proofs.Completion.Accepted
import IssueSearch.Proofs.Query.Single
import IssueSearch.Proofs.Token.Renaming
import IssueSearch.Proofs.Query.Renaming
import IssueSearch.Proofs.Canonical.Clock
import IssueSearch.Proofs.Completion.Ranking
import IssueSearch.Proofs.Completion.Agreement
import IssueSearch.Proofs.Score
import IssueSearch.Proofs.Time.Boundary
import IssueSearch.Proofs.Time.Ago
import IssueSearch.Proofs.Time.Invertible
import IssueSearch.Proofs.Completion.Headings
import IssueSearch.Proofs.Filters.Slots
import IssueSearch.Proofs.Filters.Comparison
import IssueSearch.Proofs.Score.Kinds
import IssueSearch.Proofs.Token.Grammar
import IssueSearch.Proofs.Query.Lookup
import IssueSearch.Proofs.Filters.Number
import IssueSearch.Proofs.Completion.Start
import IssueSearch.Proofs.Completion.Distinct
import IssueSearch.Proofs.Text.Boundary
import IssueSearch.Proofs.Query.Places
import IssueSearch.Proofs.Record.Basic
import IssueSearch.Proofs.Record.Query
