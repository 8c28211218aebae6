import SimilarItems.CandidateSet
import SimilarItems.Command.Session
import SimilarItems.DataDirectory
import SimilarItems.Feedback
import SimilarItems.Log.Line
import SimilarItems.Main
import SimilarItems.Neighbors.Script
import SimilarItems.Recommend.Turns
import SimilarItems.Settings.File
import SimilarItems.Proofs.Ranking
import SimilarItems.Proofs.TopK
import SimilarItems.Proofs.Keyed
import SimilarItems.Proofs.Recommend.Tally
import SimilarItems.Proofs.Recommend.Reference
import SimilarItems.Proofs.Recommend.CompletionOrder
import SimilarItems.Proofs.Failure
import SimilarItems.Proofs.Store.Operations
import SimilarItems.Proofs.Neighbors.Scans
import SimilarItems.Proofs.Decimal.Digits
import SimilarItems.Proofs.Json.RoundTrip
import SimilarItems.Proofs.Binary64.Rounding
import SimilarItems.Proofs.Binary64.Nearest
import SimilarItems.Proofs.Decimal.Shortest
import SimilarItems.Proofs.Json.Real
import SimilarItems.Proofs.Json.Restored
import SimilarItems.Proofs.Json.Documents
import SimilarItems.Proofs.Instant.Calendar
import SimilarItems.Proofs.Instant.Rfc3339
import SimilarItems.Proofs.Instant.Lenient
import SimilarItems.Proofs.Store.Row
import SimilarItems.Proofs.Store.Codec
import SimilarItems.Proofs.Store.History
import SimilarItems.Proofs.Recommend.Cancellation
import SimilarItems.Proofs.Binary64.Bounds
import SimilarItems.Proofs.Cosine
import SimilarItems.Proofs.Recommend.Lookups
import SimilarItems.Proofs.Recommend.Turns
import SimilarItems.Proofs.Store.Batch
import SimilarItems.Proofs.Neighbors.Lines
import SimilarItems.Proofs.Neighbors.Lists
import SimilarItems.Proofs.Store.LastWrite
import SimilarItems.Proofs.Ranker
import SimilarItems.Proofs.Store.Similar
import SimilarItems.Proofs.Neighbors.Bookkeeping
import SimilarItems.Proofs.Neighbors.Unchanged
import SimilarItems.Proofs.Selection
import SimilarItems.Proofs.Store.Dimension
import SimilarItems.Proofs.Store.RowOrder
import SimilarItems.Proofs.Command.Load
import SimilarItems.Proofs.Store.Pages
import SimilarItems.Proofs.Store.Chunks
import SimilarItems.Proofs.Cosine.Symmetry
import SimilarItems.Proofs.Store.Symmetry
import SimilarItems.Proofs.Neighbors.Paging
import SimilarItems.Proofs.Neighbors.Framing
import SimilarItems.Proofs.Neighbors.Interference
import SimilarItems.Proofs.Binary64.Order
import SimilarItems.Proofs.Score
import SimilarItems.Proofs.Binary64.Literal
import SimilarItems.Proofs.Text.Parts
import SimilarItems.Proofs.Components
import SimilarItems.Proofs.Json.Record
