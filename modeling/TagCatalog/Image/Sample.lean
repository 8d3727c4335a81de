import TagCatalog.Image.Record

/-!
Sample images and names of tags, for trying out codecs and clients.
-/

namespace TagCatalog.Sample

/-- Names of four tags. -/
def dictionary : TagDictionary :=
  .ofList [(1, "cat"), (2, "dog"), (3, "outdoor"), (4, "night")]

/-- A record with every field, whose tags are among those of `dictionary`. -/
def record (id : UInt32) : ImageRecord where
  id := some id
  hash := some (.replicate id.toUInt8)
  tags := some (.ofList [((id % 4).toUInt64 + 1, 10), (3, id.toUInt64)])
  attributes := some (((∅ : AttributeMap).add "rating" (if id % 2 = 0 then "safe" else "general") 10
    ).add "source" ("camera-" ++ toString id.toNat) 11)

/-- The records of the ids from one up to `n`. -/
def records (n : UInt32) : List ImageRecord :=
  (List.range n.toNat).map fun i => record (UInt32.ofNat (i + 1))

end TagCatalog.Sample
