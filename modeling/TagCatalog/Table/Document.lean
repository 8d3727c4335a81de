import TagCatalog.Image.Record
import TagCatalog.Wire.Error

/-!
What a table response says, apart from its layout.

* `Document`: the member of a response, with every tag under its name and every user in 32 bits.
* `Document.ofResult`: names the tags of a result, or says which entry cannot be written.
* `Document.toResult`: looks names up again, or says which entry cannot be read.

Entries carry a place of any type: the position of their table when read, nothing when written.
-/

namespace TagCatalog.Table

open Wire

variable {π : Type}

/-- A tag by name, with its user. -/
structure TagEntry (π : Type) where
  place : π
  name : String
  user : UInt32
  deriving Repr, DecidableEq

/-- An attribute value with its key and user. -/
structure AttributeEntry (π : Type) where
  place : π
  key : String
  value : String
  user : UInt32
  deriving Repr, DecidableEq

/-- An image with the fields that its table has. -/
structure ImageEntry (π : Type) where
  id : Option UInt32
  hash : Option ImageHash
  tags : Option (List (TagEntry π))
  attributes : Option (List (AttributeEntry π))
  deriving DecidableEq

/-- The member of a table response. -/
inductive Document (π : Type)
  /-- No member. -/
  | nothing
  | ids (ids : List UInt32)
  | hashes (hashes : List ImageHash)
  | images (images : List (ImageEntry π))
  deriving DecidableEq

/-! ### Names for ids -/

/-- A user's number in 32 bits. -/
def narrowUser (of : Blamed) (user : UserId) : Except DecodeError UInt32 :=
  if user.toNat < UInt32.size then .ok user.toUInt32 else .error (.malformed 0 (.wideUser of user))

/-- A tag under its name. -/
def TagEntry.ofTag (d : TagDictionary) (e : TagId × UserId) :
    Except DecodeError (TagEntry Unit) :=
  match d.name? e.1 with
  | none => .error (.malformed 0 (.unnamedTag e.1))
  | some name => do return ⟨(), name, ← narrowUser .tag e.2⟩

/-- An attribute value with its key. -/
def AttributeEntry.ofValue (key : String) (e : String × UserId) :
    Except DecodeError (AttributeEntry Unit) := do
  return ⟨(), key, e.1, ← narrowUser .attribute e.2⟩

/-- The values of all keys, one after another; a key without values leaves no trace. -/
def AttributeEntry.ofMap (attributes : AttributeMap) :
    Except DecodeError (List (AttributeEntry Unit)) :=
  (attributes.entries.flatMap fun e => e.2.entries.map (e.1, ·)).mapM fun e => ofValue e.1 e.2

/-- A record with its tags under their names. -/
def ImageEntry.ofRecord (d : TagDictionary) (r : ImageRecord) :
    Except DecodeError (ImageEntry Unit) := do
  let tags ← r.tags.mapM fun tags => tags.entries.mapM (TagEntry.ofTag d)
  let attributes ← r.attributes.mapM AttributeEntry.ofMap
  return ⟨r.id, r.hash, tags, attributes⟩

/-- A result with its tags under their names; the error is that of the first entry that cannot be
written. -/
def Document.ofResult (d : TagDictionary) : SearchResult → Except DecodeError (Document Unit)
  | .ids l => .ok (.ids l)
  | .hashes l => .ok (.hashes l)
  | .images l => do return .images (← l.mapM (ImageEntry.ofRecord d))

/-! ### Ids for names -/

/-- The tag of a name. -/
def TagEntry.resolve (d : TagDictionary) (e : TagEntry Nat) : Except DecodeError (TagId × UserId) :=
  match d.id? e.name with
  | none => .error (.malformed e.place (.unknownTag e.name))
  | some id => .ok (id, e.user.toUInt64)

/-- Refuses a string over the length limit in the table at `place`. -/
def checkString (place : Nat) (s : String) : Except DecodeError Unit :=
  if maxStringLength < s.utf8ByteSize then
    .error (.malformed place (.longString s.utf8ByteSize))
  else .ok ()

/-- Refuses an attribute value whose key or text is over the length limit. -/
def AttributeEntry.check (e : AttributeEntry Nat) : Except DecodeError Unit := do
  checkString e.place e.key
  checkString e.place e.value

/-- The map of tag entries; of two entries for a tag the later counts. -/
def resolveTags (d : TagDictionary) (l : List (TagEntry Nat)) : Except DecodeError TagMap := do
  return OrderedMap.ofList (← l.mapM (TagEntry.resolve d))

/-- The map of attribute values; of two entries for a value the later counts. -/
def resolveAttributes (l : List (AttributeEntry Nat)) : Except DecodeError AttributeMap :=
  l.foldlM (fun m e => do
    e.check
    return m.add e.key e.value e.user.toUInt64) ∅

/-- The record of an image; all tags are looked up before any attribute is looked at. -/
def ImageEntry.resolve (d : TagDictionary) (e : ImageEntry Nat) :
    Except DecodeError ImageRecord := do
  let tags ← e.tags.mapM (resolveTags d)
  let attributes ← e.attributes.mapM resolveAttributes
  return ⟨e.id, e.hash, tags, attributes⟩

/-- The result that a document says; the error is that of the first entry that cannot be read. -/
def Document.toResult (d : TagDictionary) : Document Nat → Except DecodeError SearchResult
  | .nothing => .ok (.ids [])
  | .ids l => .ok (.ids l)
  | .hashes l => .ok (.hashes l)
  | .images l => do return .images (← l.mapM (ImageEntry.resolve d))

end TagCatalog.Table
