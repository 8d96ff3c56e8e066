import CardQuery.Collection.Card
import CardQuery.Collection.Config
import CardQuery.Collection.Deck
import CardQuery.Collection.Fault
import CardQuery.Collection.Fields
import CardQuery.Collection.Loading
import CardQuery.Collection.Note
import CardQuery.Collection.NoteType
import CardQuery.Collection.Store
import CardQuery.Collection.Table
import CardQuery.Digest.Sha256
import CardQuery.Duplicates
import CardQuery.Json.Reader
import CardQuery.Json.Record
import CardQuery.Json.Value
import CardQuery.Markup
import CardQuery.Pattern.CharSet
import CardQuery.Pattern.Class
import CardQuery.Pattern.PropertyTable
import CardQuery.Pattern.Reader
import CardQuery.Pattern.Room
import CardQuery.Pattern.Substitution
import CardQuery.Pattern.Tree
import CardQuery.Predicate.Builder
import CardQuery.Predicate.Extent
import CardQuery.Predicate.Formula
import CardQuery.Proofs.Boolean.Admitted
import CardQuery.Proofs.Boolean.Answer
import CardQuery.Proofs.Boolean.Building
import CardQuery.Proofs.Boolean.Conjunction
import CardQuery.Proofs.Boolean.Continuation
import CardQuery.Proofs.Boolean.Expansion
import CardQuery.Proofs.Boolean.Extent
import CardQuery.Proofs.Boolean.Grammar
import CardQuery.Proofs.Boolean.Marks
import CardQuery.Proofs.Boolean.Moving
import CardQuery.Proofs.Boolean.Nesting
import CardQuery.Proofs.Boolean.Vacuous
import CardQuery.Proofs.Boolean.Written
import CardQuery.Proofs.Collection.Derived
import CardQuery.Proofs.Collection.FieldNames
import CardQuery.Proofs.Collection.Fields
import CardQuery.Proofs.Collection.History
import CardQuery.Proofs.Collection.Stored
import CardQuery.Proofs.Collection.Subtree
import CardQuery.Proofs.Collection.Table
import CardQuery.Proofs.Duplicates.Groups
import CardQuery.Proofs.Duplicates.Repeated
import CardQuery.Proofs.Markup
import CardQuery.Proofs.Pattern.Confirming
import CardQuery.Proofs.Pattern.Globbing
import CardQuery.Proofs.Pattern.Literal
import CardQuery.Proofs.Pattern.Provenance
import CardQuery.Proofs.Query.Asking
import CardQuery.Proofs.Query.BlobPattern
import CardQuery.Proofs.Query.Combinations
import CardQuery.Proofs.Query.Compiled
import CardQuery.Proofs.Query.Condition
import CardQuery.Proofs.Query.Deck
import CardQuery.Proofs.Query.Duplicate
import CardQuery.Proofs.Query.Exact
import CardQuery.Proofs.Query.FieldPattern
import CardQuery.Proofs.Query.FieldProbe
import CardQuery.Proofs.Query.FieldRequest
import CardQuery.Proofs.Query.Generated
import CardQuery.Proofs.Query.Meaningless
import CardQuery.Proofs.Query.Numerals
import CardQuery.Proofs.Query.Parentheses
import CardQuery.Proofs.Query.Places
import CardQuery.Proofs.Query.Prefilter
import CardQuery.Proofs.Query.Property
import CardQuery.Proofs.Query.Rated
import CardQuery.Proofs.Query.Spelling
import CardQuery.Proofs.Query.Template
import CardQuery.Proofs.Query.Values
import CardQuery.Proofs.Replace.Effect
import CardQuery.Proofs.Replace.Literal
import CardQuery.Proofs.Replace.Revision
import CardQuery.Proofs.Search.Everything
import CardQuery.Proofs.Search.FieldTerm
import CardQuery.Proofs.Search.FieldText
import CardQuery.Proofs.Search.Marked
import CardQuery.Proofs.Search.MembershipTest
import CardQuery.Proofs.Search.OneUnit
import CardQuery.Proofs.Search.Polling
import CardQuery.Proofs.Search.Projections
import CardQuery.Proofs.Search.Schema
import CardQuery.Proofs.Search.Scope
import CardQuery.Proofs.Search.Selection
import CardQuery.Proofs.Search.Sorting
import CardQuery.Proofs.Search.Statement
import CardQuery.Proofs.Search.Success
import CardQuery.Proofs.Search.TagTerm
import CardQuery.Proofs.Search.TextTerm
import CardQuery.Proofs.Search.Unreadable
import CardQuery.Proofs.Text.Case
import CardQuery.Proofs.Text.Like
import CardQuery.Proofs.Text.Numeral
import CardQuery.Proofs.Text.Occurrence
import CardQuery.Proofs.Text.Split
import CardQuery.Proofs.Text.Wildcard
import CardQuery.Query.Atom
import CardQuery.Query.Card
import CardQuery.Query.Command
import CardQuery.Query.Compile
import CardQuery.Query.Condition
import CardQuery.Query.Deck
import CardQuery.Query.FieldProbe
import CardQuery.Query.Note
import CardQuery.Query.Token
import CardQuery.Replace
import CardQuery.Search.Column
import CardQuery.Search.Find
import CardQuery.Search.Order
import CardQuery.Search.OrderText
import CardQuery.Search.SortKey
import CardQuery.Search.Statement
import CardQuery.Text.Blank
import CardQuery.Text.Case
import CardQuery.Text.CaseTable
import CardQuery.Text.Compare
import CardQuery.Text.Decimal
import CardQuery.Text.Edit
import CardQuery.Text.Like
import CardQuery.Text.Number
import CardQuery.Text.Split
import CardQuery.Text.Wildcard
