import BudgetNotes.CommandLine
import BudgetNotes.Main
import BudgetNotes.Proofs.Text.Lines
import BudgetNotes.Proofs.Text.Endings
import BudgetNotes.Proofs.Calendar.Text
import BudgetNotes.Proofs.Calendar.Reading
import BudgetNotes.Proofs.Calendar.Stored
import BudgetNotes.Proofs.Decimal.Text
import BudgetNotes.Proofs.Decimal.NormalForm
import BudgetNotes.Proofs.Json.Members
import BudgetNotes.Proofs.Draft.Problems
import BudgetNotes.Proofs.Draft.Checks
import BudgetNotes.Proofs.Draft.Requirements
import BudgetNotes.Proofs.Draft.Readers
import BudgetNotes.Proofs.Draft.Fields
import BudgetNotes.Proofs.Draft.Recompile
import BudgetNotes.Proofs.Draft.WellFormed
import BudgetNotes.Proofs.Draft.Recording
import BudgetNotes.Proofs.Draft.Alignment
import BudgetNotes.Proofs.Note.Layout
import BudgetNotes.Proofs.Note.Positions
import BudgetNotes.Proofs.Note.Rewriting
import BudgetNotes.Proofs.Note.SingleLines
import BudgetNotes.Proofs.Note.Lossless
import BudgetNotes.Proofs.Note.Reading
import BudgetNotes.Proofs.Note.Reread
import BudgetNotes.Proofs.Note.Addressing
import BudgetNotes.Proofs.Note.Claims
import BudgetNotes.Proofs.Note.Planning
import BudgetNotes.Proofs.Note.Finishing
import BudgetNotes.Proofs.Note.Outline
import BudgetNotes.Proofs.Note.Retention
import BudgetNotes.Proofs.Note.Trimming
import BudgetNotes.Proofs.Note.Stepwise
import BudgetNotes.Proofs.Note.LabelEdges
import BudgetNotes.Proofs.Note.Loading
import BudgetNotes.Proofs.Note.Reloading
import BudgetNotes.Proofs.Storage.Values
import BudgetNotes.Proofs.Storage.Templates
import BudgetNotes.Proofs.Storage.Drafts
import BudgetNotes.Proofs.Storage.Entries
import BudgetNotes.Proofs.Note.LabelGaps
import BudgetNotes.Proofs.Note.Repeating
import BudgetNotes.Proofs.Json.KeyOrder
import BudgetNotes.Proofs.Storage.Order
import BudgetNotes.Proofs.Json.ReadBack
import BudgetNotes.Proofs.Draft.NormalForm
import BudgetNotes.Proofs.Json.Progress
import BudgetNotes.Proofs.Storage.Printing
import BudgetNotes.Proofs.Command.FixedPoint
import BudgetNotes.Proofs.Decimal.Value
import BudgetNotes.Proofs.Decimal.Rounding
import BudgetNotes.Proofs.Decimal.Numeral
import BudgetNotes.Proofs.Draft.Exactness
import BudgetNotes.Proofs.Decimal.Canonical
import BudgetNotes.Proofs.Draft.Independence
import BudgetNotes.Proofs.Draft.Relevance
import BudgetNotes.Proofs.Note.Reordering
import BudgetNotes.Proofs.Note.Appending
import BudgetNotes.Proofs.Note.Provenance
import BudgetNotes.Proofs.Calendar.Canonical
import BudgetNotes.Proofs.Note.Cutting
