import TagCatalog.Cache.Memo
import TagCatalog.Cache.Shared
import TagCatalog.Image.Sample
import TagCatalog.Main
import TagCatalog.Proofs.OrderedMap
import TagCatalog.Proofs.Wire.Forms
import TagCatalog.Proofs.Wire.Reading
import TagCatalog.Session.Worker
import TagCatalog.Upkeep.Chore
import TagCatalog.Proofs.Wire.Meaning
import TagCatalog.Proofs.Wire.Readers
import TagCatalog.Proofs.Wire.Acceptance
import TagCatalog.Proofs.Wire.SingleField
import TagCatalog.Proofs.Wire.Shortest
import TagCatalog.Proofs.Wire.ReadBack
import TagCatalog.Proofs.Wire.Responses
import TagCatalog.Proofs.Wire.RoundTrip
import TagCatalog.Proofs.Wire.Reencoding
import TagCatalog.Proofs.Wire.Headers
import TagCatalog.Proofs.Wire.Truncation
import TagCatalog.Proofs.Wire.Locations
import TagCatalog.Proofs.Wire.Streaming
import TagCatalog.Proofs.Wire.Concatenation
import TagCatalog.Proofs.Table.Checks
import TagCatalog.Proofs.Table.Walk
import TagCatalog.Proofs.Table.Extension
import TagCatalog.Proofs.Table.Layout
import TagCatalog.Proofs.Table.Expense
import TagCatalog.Proofs.Table.Building
import TagCatalog.Proofs.Table.Assembly
import TagCatalog.Proofs.Table.Writing
import TagCatalog.Proofs.Table.Naming
import TagCatalog.Proofs.Table.RoundTrip
import TagCatalog.Proofs.Formats
import TagCatalog.Proofs.TagDictionary
import TagCatalog.Proofs.Table.Visits
import TagCatalog.Proofs.Table.Rewriting
import TagCatalog.Proofs.Table.Limits
import TagCatalog.Proofs.Table.Refusals
import TagCatalog.Proofs.Table.Expansion
import TagCatalog.Proofs.Cache.Recency
import TagCatalog.Proofs.Cache.Computing
import TagCatalog.Proofs.Cache.History
import TagCatalog.Proofs.Cache.Agreement
import TagCatalog.Proofs.Cache.Moments
import TagCatalog.Proofs.Cache.Bookkeeping
import TagCatalog.Proofs.Cache.SingleFlight
import TagCatalog.Proofs.Cache.Clearing
import TagCatalog.Proofs.Cache.Counting
import TagCatalog.Proofs.Exchange.Retrying
import TagCatalog.Proofs.Exchange.Course
import TagCatalog.Proofs.Exchange.Sending
import TagCatalog.Proofs.Exchange.Cancelling
import TagCatalog.Proofs.Exchange.Burst
import TagCatalog.Proofs.Exchange.Serving
import TagCatalog.Proofs.Exchange.Losing
import TagCatalog.Proofs.Exchange.Backoff
import TagCatalog.Proofs.Query.RoundTrip
import TagCatalog.Proofs.Query.Catalogue
import TagCatalog.Proofs.Session.Closure
import TagCatalog.Proofs.Session.Attempts
import TagCatalog.Proofs.Session.PageQueries
import TagCatalog.Proofs.Session.Paging
import TagCatalog.Proofs.Session.FilterDepth
import TagCatalog.Proofs.Session.AuditLog
import TagCatalog.Proofs.Session.Searching
import TagCatalog.Proofs.Session.Knowledge
import TagCatalog.Proofs.Session.Refreshing
import TagCatalog.Proofs.Session.Conduct
import TagCatalog.Proofs.Session.Adding
import TagCatalog.Proofs.Session.Working
import TagCatalog.Proofs.Wire.Numerals
import TagCatalog.Proofs.Query.Combining
import TagCatalog.Proofs.Session.Advancing
import TagCatalog.Proofs.Text.Encoding
import TagCatalog.Proofs.Json.Tokens
import TagCatalog.Proofs.Json.RoundTrip
import TagCatalog.Proofs.Service.RoundTrip
import TagCatalog.Proofs.Wire.Positions
import TagCatalog.Proofs.Image.HashDigits
