import NotePager.Api.Body
import NotePager.Api.Error
import NotePager.Api.Health
import NotePager.Api.Notes
import NotePager.Api.Route
import NotePager.Api.Server
import NotePager.Encoding.Base64Url
import NotePager.Encoding.Digits
import NotePager.Encoding.Hex
import NotePager.Encoding.Integer
import NotePager.Encoding.Percent
import NotePager.Http.ContentCoding
import NotePager.Http.Header
import NotePager.Http.MediaType
import NotePager.Http.Message
import NotePager.Http.QueryString
import NotePager.Json.Basic
import NotePager.Json.Reader
import NotePager.Json.Scan
import NotePager.Note.Basic
import NotePager.Note.Draft
import NotePager.Note.Id
import NotePager.Note.Json
import NotePager.Paging.Cursor
import NotePager.Paging.Error
import NotePager.Paging.Listing
import NotePager.Paging.Page
import NotePager.Paging.Parameters
import NotePager.Paging.Position
import NotePager.Paging.Request
import NotePager.Paging.Selection
import NotePager.Paging.Sort
import NotePager.Proofs.Api.CaseVariants
import NotePager.Proofs.Api.Effect
import NotePager.Proofs.Api.Endpoint
import NotePager.Proofs.Api.Engine
import NotePager.Proofs.Api.ErrorBody
import NotePager.Proofs.Api.Existence
import NotePager.Proofs.Api.Failure
import NotePager.Proofs.Api.Limits
import NotePager.Proofs.Api.Operation
import NotePager.Proofs.Api.Recency
import NotePager.Proofs.Api.Serving
import NotePager.Proofs.Encoding.Base64Url
import NotePager.Proofs.Encoding.Digits
import NotePager.Proofs.Encoding.Hex
import NotePager.Proofs.Encoding.Integer
import NotePager.Proofs.Http.QueryString
import NotePager.Proofs.Json.RoundTrip
import NotePager.Proofs.Json.Settled
import NotePager.Proofs.Json.Taken
import NotePager.Proofs.Json.Text
import NotePager.Proofs.Note.Identifier
import NotePager.Proofs.Note.Parts
import NotePager.Proofs.Paging.Alike
import NotePager.Proofs.Paging.AnchorWindow
import NotePager.Proofs.Paging.Cancellation
import NotePager.Proofs.Paging.CaseVariants
import NotePager.Proofs.Paging.Cursor
import NotePager.Proofs.Paging.CursorForm
import NotePager.Proofs.Paging.CursorPage
import NotePager.Proofs.Paging.CursorText
import NotePager.Proofs.Paging.CutCursor
import NotePager.Proofs.Paging.Division
import NotePager.Proofs.Paging.FirstPage
import NotePager.Proofs.Paging.Isolation
import NotePager.Proofs.Paging.Listed
import NotePager.Proofs.Paging.ModeChange
import NotePager.Proofs.Paging.OffsetPage
import NotePager.Proofs.Paging.Order
import NotePager.Proofs.Paging.Outcome
import NotePager.Proofs.Paging.PageText
import NotePager.Proofs.Paging.Parameters
import NotePager.Proofs.Paging.Ranking
import NotePager.Proofs.Paging.Rearranged
import NotePager.Proofs.Paging.Request
import NotePager.Proofs.Paging.Seam
import NotePager.Proofs.Paging.Selection
import NotePager.Proofs.Paging.ShortSearch
import NotePager.Proofs.Paging.TitleSearch
import NotePager.Proofs.Paging.Totals
import NotePager.Proofs.Paging.Validation
import NotePager.Proofs.Paging.Walk
import NotePager.Proofs.Paging.WalkBack
import NotePager.Proofs.Paging.WalkUnderWrites
import NotePager.Proofs.Paging.WordSearch
import NotePager.Proofs.Query.Conjunction
import NotePager.Proofs.Query.Engine
import NotePager.Proofs.Query.Order
import NotePager.Proofs.Settings.Document
import NotePager.Proofs.Settings.Keys
import NotePager.Proofs.Settings.Layers
import NotePager.Proofs.Settings.Merge
import NotePager.Proofs.Store.Alike
import NotePager.Proofs.Store.AllOrNothing
import NotePager.Proofs.Store.History
import NotePager.Proofs.Store.Limits
import NotePager.Proofs.Store.Log
import NotePager.Proofs.Store.Owned
import NotePager.Proofs.Store.Queries
import NotePager.Proofs.Store.Quiet
import NotePager.Proofs.Store.Steady
import NotePager.Proofs.Store.Writes
import NotePager.Proofs.Text.CaseFold
import NotePager.Proofs.Text.Search
import NotePager.Proofs.Time.Calendar
import NotePager.Proofs.Time.Timestamp
import NotePager.Query.Basic
import NotePager.Query.Filter
import NotePager.Query.Order
import NotePager.Query.Pattern
import NotePager.Query.Plain
import NotePager.Query.Predicate
import NotePager.Settings.Basic
import NotePager.Settings.Environment
import NotePager.Settings.Json
import NotePager.Settings.Load
import NotePager.Settings.LogFilter
import NotePager.Settings.Toml.Document
import NotePager.Settings.Toml.Scalar
import NotePager.Settings.Toml.Tables
import NotePager.Settings.Toml.Text
import NotePager.Settings.Value
import NotePager.Store.Access
import NotePager.Store.Basic
import NotePager.Store.Error
import NotePager.Text.Alphabetic
import NotePager.Text.Blank
import NotePager.Text.CaseFold
import NotePager.Text.Mark
import NotePager.Text.Number
import NotePager.Text.Ranges
import NotePager.Text.Search
import NotePager.Text.Utf8
import NotePager.Text.Word
import NotePager.Time.Calendar
import NotePager.Time.Instant
import NotePager.Time.Timestamp
