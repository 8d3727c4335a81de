import TagCatalog.Table.Reader
import TagCatalog.Table.Verifier
import TagCatalog.Table.Writer
import TagCatalog.Wire.Header

/-!
Table responses, which carry the names of tags instead of their ids.

* `encodeResponse`: the response of a result, if every tag has a name and every user fits.
* `decodeResponse`: the result of a response, all of which is verified before any of it is used.
-/

namespace TagCatalog.Table

open Wire

/-- The response that carries a result. -/
def encodeResponse (d : TagDictionary) (r : SearchResult) : Except DecodeError Bytes := do
  return (← Document.ofResult d r).encode

/-- The result that a response carries. -/
def decodeResponse (d : TagDictionary) (response : Bytes) : Except DecodeError SearchResult := do
  checkSize response.length
  let b : Buffer := response.toArray
  verify b
  (← View.document b).toResult d

end TagCatalog.Table
