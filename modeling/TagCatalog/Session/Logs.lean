import TagCatalog.Service.Model
import TagCatalog.Session.Client

/-!
The log of past changes, the oldest first, page by page. Each page begins after the last change of
the page before.
-/

namespace TagCatalog

/-- Which changes are wanted. -/
structure LogQuery where
  /-- Those of one image. -/
  image : Option ImageHash
  /-- Those of one kind. -/
  action : Option String
  /-- The number of changes fetched at once, if not the usual one. -/
  pageSize : Option UInt64
  deriving DecidableEq

/-- The names and values that ask for a page of changes. -/
def LogQuery.pairs (q : LogQuery) (limit start : UInt64) : List (String × String) :=
  [("min_id", toString start.toNat), ("limit", toString limit.toNat)] ++
    (q.image.toList.map fun h => ("image_hash", h.toHex)) ++ (q.action.toList.map ("action", ·))

namespace Session

/-- The changes from an id on, at most `limit` of them. -/
def logPage (q : LogQuery) (limit start : UInt64) : Session (List LogEntry) := do
  let a ← succeed (fun c => { c.get "/api/logs" with query := q.pairs limit start }) .never
  parse (Shape.list LogEntry.shape) a

/-- A page of changes uses up an outcome. -/
theorem spends_logPage (q : LogQuery) (limit start : UInt64) : Spends (logPage q limit start) :=
  (spends_succeed _ _).bind fun _ => keeps_parse _ _

/-- The id after the last change of a page. -/
def afterLogPage (page : List LogEntry) : Except ClientError UInt64 :=
  .ok ((page.getLast?.map fun e => e.id + 1).getD 0)

/-- All changes that are wanted. -/
def listLogs (q : LogQuery) : Session (List LogEntry) := fun c =>
  let limit := q.pageSize.getD c.settings.batchSize
  paged (logPage q limit) (spends_logPage q limit) afterLogPage 0 c

end Session

end TagCatalog
