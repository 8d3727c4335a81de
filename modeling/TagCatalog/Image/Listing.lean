import TagCatalog.Image.Record
import TagCatalog.Json.Value
import TagCatalog.Text.Column

/-!
Results of searches as people read them: in JSON, or a line for each item.

* `ImageRecord.toJson`, `SearchResult.toJson`: what is absent is left out.
* `ImageRecord.line`, `SearchResult.lines`: lines.
-/

namespace TagCatalog

namespace ImageRecord

/-- A record as JSON. -/
def toJson (r : ImageRecord) : Json :=
  .ofPresent [("id", r.id.map fun n => .ofNat n.toNat), ("hash", r.hash.map fun h => .text h.toHex),
    ("tags", r.tags.map fun m =>
      .object (m.entries.map fun e => (toString e.1.toNat, .ofNat e.2.toNat))),
    ("attributes", r.attributes.map fun m => .object (m.entries.map fun e =>
      (e.1, .object (e.2.entries.map fun v => (v.1, .ofNat v.2.toNat)))))]

/-- The keys and values of attributes, each pair with an equals sign. -/
def attributePairs (m : AttributeMap) : List String :=
  m.entries.flatMap fun e => e.2.keys.map fun v => e.1 ++ "=" ++ v

/-- A record on a line: of the fields that are there the id, the hash, the names of the tags in
brackets, and the attributes in braces. -/
def line (r : ImageRecord) (d : TagDictionary) : String :=
  "  ".intercalate (
    (r.id.toList.map fun n => Text.padLeft 8 (toString n.toNat)) ++
    (r.hash.toList.map ImageHash.toHex) ++
    (r.tags.toList.map fun _ => "[" ++ " ".intercalate (r.tagNames d) ++ "]") ++
    (r.attributes.toList.map fun m => "\x7b" ++ ", ".intercalate (attributePairs m) ++ "\x7d"))

end ImageRecord

namespace SearchResult

/-- The word for the shape in JSON. -/
def jsonKind : SearchResult → String
  | ids _ => "id_list"
  | hashes _ => "hash_list"
  | images _ => "image_record_list"

/-- The items as JSON. -/
def jsonItems : SearchResult → List Json
  | ids l => l.map fun n => .ofNat n.toNat
  | hashes l => l.map fun h => .text h.toHex
  | images l => l.map ImageRecord.toJson

/-- A result as JSON. -/
def toJson (r : SearchResult) : Json :=
  .object [("kind", .text r.jsonKind), ("items", .list r.jsonItems)]

/-- A line for each item. -/
def lines (r : SearchResult) (d : TagDictionary) : List String :=
  match r with
  | ids l => l.map fun n => toString n.toNat
  | hashes l => l.map ImageHash.toHex
  | images l => l.map (·.line d)

end SearchResult

end TagCatalog
