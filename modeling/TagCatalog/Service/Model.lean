import TagCatalog.Image.Record
import TagCatalog.Json.Form
import TagCatalog.Json.Shape

/-!
What the service tells of tags, of single images, and of past changes.

* `ServiceTag`, `ServiceImage`, `LogEntry`: each with its JSON form and a reader of it; fields that
  the service may leave out have a value they then stand for.
* `dictionaryOfTags`: the names in a list of tags.
-/

namespace TagCatalog

/-- A tag. -/
structure ServiceTag where
  id : TagId
  name : String
  active : Bool
  deriving Repr, DecidableEq

namespace ServiceTag

/-- A tag as JSON. -/
def toJson (t : ServiceTag) : Json :=
  .object [("id", .ofNat t.id.toNat), ("name", .text t.name), ("active", .bool t.active)]

/-- Reads a tag; it is active unless told otherwise. -/
def shape : Shape ServiceTag := fun room j => do
  let f ← Fields.ofJson ["id", "name", "active"] room j
  let id ← f.required "id" Shape.word64
  let name ← f.required "name" Shape.text
  let active ← f.withDefault "active" Shape.bool true
  return ⟨id, name, active⟩

/-- The form of the JSON of a tag. -/
def form : Json.Form :=
  .fields "ApiTag" [("id", .word64), ("name", .text), ("active", .truth)] ["id", "name"]

end ServiceTag

/-- The names in a list of tags, given in order. -/
def dictionaryOfTags (l : List ServiceTag) : TagDictionary :=
  TagDictionary.ofList (l.map fun t => (t.id, t.name))

/-- An image with all that the service knows of it. -/
structure ServiceImage where
  id : UInt64
  hash : ImageHash
  active : Bool
  tags : List TagId
  /-- The values of each key. -/
  attributes : OrderedMap String (List String)
  caption : Option String
  deriving DecidableEq

namespace ServiceImage

/-- The names of the image's tags, in their order; a tag without name is left out. -/
def tagNames (i : ServiceImage) (d : TagDictionary) : List String := i.tags.filterMap d.name?

/-- An image as JSON. -/
def toJson (i : ServiceImage) : Json :=
  .object [("id", .ofNat i.id.toNat), ("hash", .text i.hash.toHex), ("active", .bool i.active),
    ("tags", .list (i.tags.map fun t => .ofNat t.toNat)),
    ("attributes", .object (i.attributes.entries.map fun e => (e.1, .list (e.2.map .text)))),
    ("caption", .ofOption .text i.caption)]

/-- Reads an image. -/
def shape : Shape ServiceImage := fun room j => do
  let f ← Fields.ofJson ["id", "hash", "active", "tags", "attributes", "caption"] room j
  let id ← f.required "id" Shape.word64
  let hash ← f.required "hash" Shape.hash
  let active ← f.withDefault "active" Shape.bool true
  let tags ← f.withDefault "tags" (Shape.list Shape.word64) []
  let attributes ← f.withDefault "attributes" (Shape.map (Shape.list Shape.text)) ∅
  let caption ← f.withDefault "caption" (Shape.optional Shape.text) none
  return ⟨id, hash, active, tags, attributes, caption⟩

end ServiceImage

/-- A past change. -/
structure LogEntry where
  id : UInt64
  /-- In seconds since the epoch. -/
  timestamp : Int64
  user : UserId
  action : String
  imageHash : Option ImageHash
  tag : Option String
  attributeKey : Option String
  attributeValue : Option String
  deriving DecidableEq

namespace LogEntry

/-- A change as JSON. -/
def toJson (e : LogEntry) : Json :=
  .object [("id", .ofNat e.id.toNat), ("timestamp", .int e.timestamp.toInt),
    ("user_id", .ofNat e.user.toNat), ("action", .text e.action),
    ("image_hash", .ofOption (fun h => .text h.toHex) e.imageHash),
    ("tag", .ofOption .text e.tag), ("attribute_key", .ofOption .text e.attributeKey),
    ("attribute_value", .ofOption .text e.attributeValue)]

/-- Reads a change. -/
def shape : Shape LogEntry := fun room j => do
  let f ← Fields.ofJson ["id", "timestamp", "user_id", "action", "image_hash", "tag",
    "attribute_key", "attribute_value"] room j
  let id ← f.required "id" Shape.word64
  let timestamp ← f.required "timestamp" Shape.signed64
  let user ← f.required "user_id" Shape.word64
  let action ← f.required "action" Shape.text
  let imageHash ← f.withDefault "image_hash" (Shape.optional Shape.hash) none
  let tag ← f.withDefault "tag" (Shape.optional Shape.text) none
  let attributeKey ← f.withDefault "attribute_key" (Shape.optional Shape.text) none
  let attributeValue ← f.withDefault "attribute_value" (Shape.optional Shape.text) none
  return ⟨id, timestamp, user, action, imageHash, tag, attributeKey, attributeValue⟩

end LogEntry

end TagCatalog
