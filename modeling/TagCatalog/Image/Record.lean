import TagCatalog.Image.Hash
import TagCatalog.Image.TagDictionary

/-!
What a search tells of an image, and the three shapes of a search result.

* `ImageRecord`: a field is present exactly when the response carries it.
* `SearchResult`: ids alone, hashes alone, or records.
* `SearchResult.toRecords`: every shape as records.
-/

namespace TagCatalog

/-- The tags of an image, each with the user who set it. -/
abbrev TagMap := OrderedMap TagId UserId

/-- The attributes of an image: for each key its values, each with the user who set it. -/
abbrev AttributeMap := OrderedMap String (OrderedMap String UserId)

/-- The attributes with one more value under a key. -/
def AttributeMap.add (m : AttributeMap) (key value : String) (user : UserId) : AttributeMap :=
  m.insert key (((m.get? key).getD ∅).insert value user)

/-- What a response tells of one image. -/
structure ImageRecord where
  /-- The number of the image. -/
  id : Option UInt32
  /-- The content hash. -/
  hash : Option ImageHash
  /-- The tags. -/
  tags : Option TagMap
  /-- The attributes. -/
  attributes : Option AttributeMap
  deriving DecidableEq

namespace ImageRecord

/-- The record that tells nothing. -/
def blank : ImageRecord := ⟨none, none, none, none⟩

instance : Inhabited ImageRecord := ⟨blank⟩

/-- The record of an id alone. -/
def ofId (id : UInt32) : ImageRecord := { blank with id := some id }

/-- The record of a hash alone. -/
def ofHash (hash : ImageHash) : ImageRecord := { blank with hash := some hash }

/-- The names of the record's tags, by ascending id; a tag without name is left out. -/
def tagNames (r : ImageRecord) (d : TagDictionary) : List String :=
  (r.tags.getD ∅).keys.filterMap d.name?

end ImageRecord

/-- The result of a search. -/
inductive SearchResult
  | ids (ids : List UInt32)
  | hashes (hashes : List ImageHash)
  | images (records : List ImageRecord)
  deriving DecidableEq

namespace SearchResult

instance : Inhabited SearchResult := ⟨.ids []⟩

/-- The number of items. -/
def size : SearchResult → Nat
  | ids l => l.length
  | hashes l => l.length
  | images l => l.length

/-- Whether there is no item. -/
def isEmpty (r : SearchResult) : Bool := r.size = 0

/-- The word for the shape. -/
def kind : SearchResult → String
  | ids _ => "ids"
  | hashes _ => "hashes"
  | images _ => "images"

/-- The image ids that the result carries. -/
def imageIds : SearchResult → List UInt32
  | ids l => l
  | hashes _ => []
  | images l => l.filterMap (·.id)

/-- The items as records. -/
def toRecords : SearchResult → List ImageRecord
  | ids l => l.map .ofId
  | hashes l => l.map .ofHash
  | images l => l

end SearchResult

end TagCatalog
