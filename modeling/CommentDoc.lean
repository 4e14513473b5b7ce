import CommentDoc.Catalog
import CommentDoc.Main
import CommentDoc.Session
import CommentDoc.Proofs.Source.Decoding
import CommentDoc.Proofs.Source.Lines
import CommentDoc.Proofs.Scan.Agreement
import CommentDoc.Proofs.Run.Registration
import CommentDoc.Proofs.Scan.Iteration
import CommentDoc.Proofs.Run.Progress
import CommentDoc.Proofs.Run.Invariant
import CommentDoc.Proofs.Json.Reading
import CommentDoc.Proofs.Value.Reading
import CommentDoc.Proofs.Record.RoundTrip
import CommentDoc.Proofs.Function.RoundTrip
import CommentDoc.Proofs.Function.Extraction
import CommentDoc.Proofs.Run.Entries
import CommentDoc.Proofs.Run.Selection
import CommentDoc.Proofs.Run.Composition
import CommentDoc.Proofs.Run.Drawing
import CommentDoc.Proofs.Run.ReadErrors
import CommentDoc.Proofs.Scan.Placement
import CommentDoc.Proofs.Run.Diagnostics
import CommentDoc.Proofs.Scan.Newlines
import CommentDoc.Proofs.Function.Newlines
import CommentDoc.Proofs.Record.Framing
import CommentDoc.Proofs.Run.Framing
import CommentDoc.Proofs.Validation.Remaking
import CommentDoc.Proofs.Run.Checks
import CommentDoc.Proofs.Scan.Kinds
import CommentDoc.Proofs.Scan.Rendering
import CommentDoc.Proofs.Scan.CarriageReturns
import CommentDoc.Proofs.Function.Grouping
import CommentDoc.Proofs.Json.Grammar
import CommentDoc.Proofs.Scan.Locality
import CommentDoc.Proofs.Record.Strictness
import CommentDoc.Proofs.Delimiter.Tags
import CommentDoc.Proofs.Scan.Markup
import CommentDoc.Proofs.Function.Outcome
import CommentDoc.Proofs.Function.ShortDescription
import CommentDoc.Proofs.Function.Boundaries
import CommentDoc.Proofs.Source.Numbering
import CommentDoc.Proofs.Scan.Indentation
import CommentDoc.Proofs.Disk.Writing
import CommentDoc.Proofs.Command.Stages
import CommentDoc.Proofs.Command.Output
import CommentDoc.Proofs.Command.Messages
import CommentDoc.Proofs.Command.Refusals
import CommentDoc.Proofs.Command.Selectors
import CommentDoc.Proofs.Label.Lookup
import CommentDoc.Proofs.Command.Quiet
import CommentDoc.Proofs.Command.Verbosity
import CommentDoc.Proofs.Delimiter.Filetypes
import CommentDoc.Proofs.Delimiter.Feet
import CommentDoc.Proofs.Delimiter.Separation
