import TagCatalog.Service.Model
import TagCatalog.Session.Client
import TagCatalog.Text.Percent

/-!
Logging in, and the tags of the service.

* `Session.login`: the token that later requests carry.
* `Session.listTags`: all tags, whose names the client then knows.
* `Session.tagDictionary`: the names known, fetched if there are none.
* `Session.addTag`, `Session.removeTag`: changes after which the names are fetched anew.
-/

namespace TagCatalog.Session

/-- Sets the token. -/
def setToken (token : Option String) : Session Unit := modify fun c => { c with token }

/-- Gets a token from the service for a user who proves to be one. -/
def login (user : String) (key : Bytes) : Session Unit := do
  let a ← succeed (fun c => { c.post "/api/login" (.object [("username", .text user),
    ("login_key", .text (Hex.encode key))]) with bearer := none }) .never
  setToken (some (← parse Shape.text a))

/-- All tags. The client knows their names from now on. -/
def listTags : Session (List ServiceTag) := do
  let a ← succeed (·.get "/api/tags") .never
  let tags ← parse (Shape.list ServiceTag.shape) a
  modify fun c => { c with tags := dictionaryOfTags tags }
  return tags

/-- The tag of a name. -/
def tagByName (name : String) : Session (Option ServiceTag) :=
  lookup ServiceTag.shape ("/api/tag_by_name/" ++ Text.percentEncode name)

/-- The names of tags, fetched if none are known. -/
def tagDictionary : Session TagDictionary := do
  let c ← get
  if c.tags.isEmpty then
    let _ ← listTags
    return (← get).tags
  else return c.tags

/-- Asks for a change of the tags themselves. Their numbers are given by the service, so what is
known of them is given up. -/
def mutateTags (path name : String) : Session MutationOutcome := do
  let outcome ← mutate path fun c =>
    .object [("name", .text name), ("user", .ofNat c.settings.user.toNat)]
  modify fun c => { c with tags := ∅ }
  return outcome

/-- Makes a tag. -/
def addTag (name : String) : Session MutationOutcome := mutateTags "/api/add_tag" name

/-- Removes a tag. -/
def removeTag (name : String) : Session MutationOutcome := mutateTags "/api/remove_tag" name

/-- Fetching the tags brings no outcome back. -/
theorem keeps_listTags : Keeps listTags := by
  refine (keeps_succeed _ _).bind fun a => (keeps_parse _ a).bind fun tags => ?_
  refine Keeps.bind ?_ fun _ => keeps_pure tags
  exact keeps_modify fun _ => rfl

/-- Asking for the names of tags brings no outcome back. -/
theorem keeps_tagDictionary : Keeps tagDictionary := by
  refine keeps_get.bind fun c => ?_
  split
  · exact keeps_listTags.bind fun _ => keeps_get.bind fun _ => keeps_pure _
  · exact keeps_pure _

end TagCatalog.Session
