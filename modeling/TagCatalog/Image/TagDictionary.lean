import TagCatalog.OrderedMap

/-!
The names of tags.

* `TagDictionary.insert`: gives an id a name; the name it had before is forgotten.
* `TagDictionary.name?`, `TagDictionary.id?`: the name of an id, and the id last given a name.
-/

namespace TagCatalog

/-- The number under which the service knows a tag. -/
abbrev TagId := UInt64

/-- The number of the user who set a tag or an attribute value. -/
abbrev UserId := UInt64

/-- The names of tags by id, and ids by name. -/
structure TagDictionary where
  /-- The name of each id. -/
  names : OrderedMap TagId String
  /-- The id of each name. -/
  ids : OrderedMap String TagId
  deriving DecidableEq

namespace TagDictionary

/-- The dictionary without names. -/
def empty : TagDictionary := ⟨∅, ∅⟩

instance : EmptyCollection TagDictionary := ⟨empty⟩
instance : Inhabited TagDictionary := ⟨empty⟩

/-- The dictionary in which `id` is called `name`; the name that `id` had before leads nowhere. -/
def insert (d : TagDictionary) (id : TagId) (name : String) : TagDictionary where
  names := d.names.insert id name
  ids :=
    let kept := match d.names.get? id with
      | some old => d.ids.erase old
      | none => d.ids
    kept.insert name id

/-- The dictionary of a list of names, given in order. -/
def ofList (l : List (TagId × String)) : TagDictionary :=
  l.foldl (fun d e => d.insert e.1 e.2) ∅

/-- The name of an id. -/
def name? (d : TagDictionary) (id : TagId) : Option String := d.names.get? id

/-- The id that was last given a name. -/
def id? (d : TagDictionary) (name : String) : Option TagId := d.ids.get? name

/-- The number of ids that have a name. -/
def size (d : TagDictionary) : Nat := d.names.size

/-- Whether no id has a name. -/
def isEmpty (d : TagDictionary) : Bool := d.names.isEmpty

end TagDictionary

end TagCatalog
