import TagCatalog.Table.Response
import TagCatalog.Wire.Response

/-!
The two formats of responses. Nothing in the bytes tells them apart, so a reader is told the format.
-/

namespace TagCatalog

/-- The format of a response. -/
inductive WireFormat
  /-- Bare lists and records. -/
  | flat
  /-- Tables that refer to each other, with tags by name. -/
  | table
  deriving Repr, DecidableEq, Inhabited

namespace WireFormat

/-- The word for a format. -/
def name : WireFormat → String
  | flat => "flat"
  | table => "table"

/-- The response that carries a result; the dictionary is needed for tables alone. -/
def encode : WireFormat → TagDictionary → SearchResult → Except Wire.DecodeError Bytes
  | flat, _, r => .ok (Wire.encodeResponse r)
  | table, d, r => Table.encodeResponse d r

/-- The result that a response carries; the dictionary is needed for tables alone. -/
def decode : WireFormat → TagDictionary → Bytes → Except Wire.DecodeError SearchResult
  | flat, _, b => Wire.decodeResponse b
  | table, d, b => Table.decodeResponse d b

end WireFormat

end TagCatalog
