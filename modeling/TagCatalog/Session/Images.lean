import TagCatalog.Service.Model
import TagCatalog.Session.Client

/-!
Single images: what the service knows of them, their bytes, and changes to them.
-/

namespace TagCatalog.Session

/-- The image of a hash. -/
def imageByHash (hash : ImageHash) : Session (Option ServiceImage) :=
  lookup ServiceImage.shape ("/api/image_by_hash/" ++ hash.toHex)

/-- The image of an id. -/
def imageById (id : UInt64) : Session (Option ServiceImage) :=
  lookup ServiceImage.shape ("/api/image_by_id/" ++ toString id.toNat)

/-- Asks for a change of an image, which is told by members before and after the user. -/
def mutateImage (path : String) (hash : ImageHash) (before after : List (String × Json)) :
    Session MutationOutcome :=
  mutate path fun c => .object (("hash", .text hash.toHex) :: before ++
    ("user", .ofNat c.settings.user.toNat) :: after)

/-- Adds an image. -/
def addImage (hash : ImageHash) : Session MutationOutcome :=
  mutateImage "/api/add_image" hash [] []

/-- Removes an image. -/
def removeImage (hash : ImageHash) : Session MutationOutcome :=
  mutateImage "/api/remove_image" hash [] []

/-- Sets a tag on an image. -/
def tagImage (hash : ImageHash) (tag : String) : Session MutationOutcome :=
  mutateImage "/api/tag_image" hash [("tag", .text tag)] []

/-- Takes a tag off an image. -/
def untagImage (hash : ImageHash) (tag : String) : Session MutationOutcome :=
  mutateImage "/api/untag_image" hash [("tag", .text tag)] []

/-- Adds a value of a key, in place of all others of the key if it is to be the only one. -/
def addImageAttribute (hash : ImageHash) (key value : String) (singular : Bool) :
    Session MutationOutcome :=
  mutateImage "/api/add_image_attribute" hash [("key", .text key), ("value", .text value)]
    [("singular", .bool singular)]

/-- Removes a value of a key. -/
def removeImageAttribute (hash : ImageHash) (key value : String) : Session MutationOutcome :=
  mutateImage "/api/remove_image_attribute" hash [("key", .text key), ("value", .text value)] []

/-- Gives an image a caption. -/
def captionImage (hash : ImageHash) (caption : String) : Session MutationOutcome :=
  mutateImage "/api/caption_image" hash [("caption", .text caption)] []

/-- The bytes of an image, in a given size if one is given, or none if there is no such image. -/
def fetchImage (hash : ImageHash) (size : Option UInt32) : Session (Option Bytes) := do
  let a ← answer (fun c => { c.get ("/images/" ++ hash.toHex) with
    query := size.toList.map fun n => ("size", toString n.toNat) }) .never
  if a.isNotFound then return none
  else return some (← accept a).body

end TagCatalog.Session
