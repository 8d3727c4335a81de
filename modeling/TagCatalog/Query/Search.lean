import TagCatalog.Query.Operator
import TagCatalog.Wire.FieldSet

/-!
Searches.

* `SearchQuery`: the fields wanted, their order, how many, and the filter.
* `SearchQuery.fault?`: what keeps a search from being sent.
* `SearchQuery.toJson`, `SearchQuery.shape`: a search as the service takes it.
-/

namespace TagCatalog

/-- A field that a search may select. -/
inductive Selection
  | id
  | hash
  | tags
  | attributes
  deriving Repr, DecidableEq, Inhabited

namespace Selection

/-- All fields. -/
def all : List Selection := [id, hash, tags, attributes]

/-- The word for a field. -/
def name : Selection → String
  | id => "id"
  | hash => "hash"
  | tags => "tags"
  | attributes => "attributes"

/-- Reads the word for a field. -/
def shape : Shape Selection := Shape.choice (all.map fun s => (s.name, s))

/-- The fields that a response to a selection carries. -/
def fields (l : List Selection) : Wire.FieldSet where
  ids := id ∈ l
  hashes := hash ∈ l
  tags := tags ∈ l
  attributes := attributes ∈ l

end Selection

/-- The order of results. -/
inductive Order
  | id
  | hash
  deriving Repr, DecidableEq, Inhabited

namespace Order

/-- The word for an order. -/
def name : Order → String
  | id => "id"
  | hash => "hash"

/-- Reads the word for an order. -/
def shape : Shape Order := Shape.choice [("id", id), ("hash", hash)]

end Order

/-- A search. -/
structure SearchQuery where
  select : List Selection
  orderBy : Option Order
  limit : Option UInt64
  operator : Option Operator
  deriving Repr, DecidableEq

/-- What keeps a search from being sent. -/
inductive QueryFault
  | nothingSelected
  | noLimit
  | tooDeep (depth : Nat)
  /-- A page of results holds no id after which to go on. -/
  | pageWithoutIds
  deriving Repr, DecidableEq

/-- The wording of a fault. -/
def QueryFault.message : QueryFault → String
  | nothingSelected => "select at least one field"
  | noLimit => "limit must be positive"
  | tooDeep depth => Operator.tooDeepMessage depth
  | pageWithoutIds => "page without ids, cannot advance cursor"

namespace SearchQuery

/-- What keeps a search from being sent: first the fields, then the limit, then the filter. -/
def fault? (q : SearchQuery) : Option QueryFault :=
  if q.select.isEmpty then some .nothingSelected
  else if q.limit = some 0 then some .noLimit
  else (q.operator.bind Operator.tooDeep?).map .tooDeep

/-- A search as the service takes it; what is absent is left out. -/
def toJson (q : SearchQuery) : Json :=
  .ofPresent [("select", some (.list (q.select.map fun s => .text s.name))),
    ("order_by", q.orderBy.map fun o => .text o.name),
    ("limit", q.limit.map fun n => .ofNat n.toNat),
    ("operator", q.operator.map Operator.toJson)]

/-- Reads a search. -/
def shape : Shape SearchQuery := fun room j => do
  let f ← Fields.ofJson ["select", "order_by", "limit", "operator"] room j
  let select ← f.required "select" (Shape.list Selection.shape)
  let orderBy ← f.withDefault "order_by" (Shape.optional Order.shape) none
  let limit ← f.withDefault "limit" (Shape.optional Shape.word64) none
  let operator ← f.withDefault "operator" (Shape.optional Operator.shape) none
  return ⟨select, orderBy, limit, operator⟩

end SearchQuery

end TagCatalog
