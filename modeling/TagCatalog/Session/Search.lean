import TagCatalog.Session.Tags

/-!
Searches.

* `Session.search`: one search.
* `Session.searchAll`: all images that pass a filter, in the order of their ids, page by page. Each
  page begins after the greatest id of the page before, so ids are always selected.
-/

namespace TagCatalog.Session

/-- The names of tags that a format needs. -/
def namesFor : WireFormat → Session TagDictionary
  | .flat => pure ∅
  | .table => tagDictionary

/-- The result in the response to a search. -/
def decodeResult (a : Response) : Session SearchResult := do
  let c ← get
  let dict ← namesFor c.settings.wireFormat
  match c.settings.wireFormat.decode dict a.body with
  | .ok r => return r
  | .error e => fail (.undecoded e)

/-- Searches, unless the request is given up. -/
def search (q : SearchQuery) (cancel : Cancellation) : Session SearchResult :=
  match q.fault? with
  | some fault => fail (.query fault)
  | none => do decodeResult (← succeed (·.post "/api/search_images" q.toJson) cancel)

/-- A search for the images from an id on, in the order of their ids. -/
def pageQuery (filter : Option Operator) (select : List Selection) (limit start : UInt64) :
    SearchQuery where
  select := if .id ∈ select then select else .id :: select
  orderBy := some .id
  limit := some limit
  operator := some (match filter with
    | some op => op.and (.minId start)
    | none => .minId start)

/-- The id after the greatest one of a page. -/
def afterPage (page : List ImageRecord) : Except ClientError UInt64 :=
  match (page.filterMap (·.id)).max? with
  | some last => .ok (last.toUInt64 + 1)
  | none => .error (.query .pageWithoutIds)

/-- Finding the names of tags brings no outcome back. -/
theorem keeps_namesFor (format : WireFormat) : Keeps (namesFor format) := by
  cases format with
  | flat => exact keeps_pure _
  | table => exact keeps_tagDictionary

/-- Reading a result brings no outcome back, even if names have to be fetched for it. -/
theorem keeps_decodeResult (a : Response) : Keeps (decodeResult a) := by
  refine keeps_get.bind fun c => (keeps_namesFor _).bind fun dict => ?_
  split
  · exact keeps_pure _
  · exact keeps_fail _

/-- A search that succeeds has used up an outcome. -/
theorem spends_search (q : SearchQuery) (cancel : Cancellation) : Spends (search q cancel) := by
  rw [search]
  split
  · exact spends_fail _
  · exact (spends_succeed _ _).bind keeps_decodeResult

/-- The images from an id on that pass a filter, at most `limit` of them. -/
def searchPage (filter : Option Operator) (select : List Selection) (limit start : UInt64) :
    Session (List ImageRecord) := do
  return (← search (pageQuery filter select limit start) .never).toRecords

/-- A page of images uses up an outcome. -/
theorem spends_searchPage (filter : Option Operator) (select : List Selection)
    (limit start : UInt64) : Spends (searchPage filter select limit start) :=
  (spends_search _ _).bind fun _ => keeps_pure _

/-- All images that pass a filter, so many of them at once. -/
def searchAll (filter : Option Operator) (select : List Selection) (batch : Option UInt64) :
    Session (List ImageRecord) := fun c =>
  let limit := batch.getD c.settings.batchSize
  paged (searchPage filter select limit) (spends_searchPage filter select limit) afterPage 0 c

end TagCatalog.Session
