import TagCatalog.Duration
import TagCatalog.Json.Value
import TagCatalog.Text.Utf8

/-!
Requests to the service and its responses.

* `Request`: what is asked, apart from how it is carried.
* `Response`: the status and the bytes that came back, nothing of them interpreted.
-/

namespace TagCatalog

/-- The two kinds of request. -/
inductive Method
  | get
  | post
  deriving Repr, DecidableEq

/-- The word for a kind of request. -/
def Method.name : Method → String
  | get => "GET"
  | post => "POST"

/-- What a request carries. -/
inductive Payload
  | json (value : Json)
  | binary (bytes : Bytes)

/-- A request. -/
structure Request where
  method : Method
  /-- The address, without the query. -/
  url : String
  /-- The names and values of the query. -/
  query : List (String × String)
  body : Option Payload
  /-- The token that names the session. -/
  bearer : Option String
  /-- The longest time to wait for this request, if not the usual one. -/
  timeout : Option Duration

/-- A request without query, body and token. -/
def Request.plain (method : Method) (url : String) : Request := ⟨method, url, [], none, none, none⟩

/-- A response. -/
structure Response where
  status : Nat
  body : Bytes
  deriving Repr, DecidableEq

namespace Response

/-- Whether the service did what was asked. -/
def isSuccess (r : Response) : Bool := 200 ≤ r.status && r.status < 300

/-- Whether the service already has what was asked for. -/
def isConflict (r : Response) : Bool := r.status = 409

/-- Whether the service does not know what was asked about. -/
def isNotFound (r : Response) : Bool := r.status = 404

/-- The body as text. -/
def text (r : Response) : String := Utf8.lossy r.body

/-- The answer to a request for which none is prepared. -/
def unprepared : Response := ⟨500, Utf8.encode "unscripted request"⟩

end Response

end TagCatalog
