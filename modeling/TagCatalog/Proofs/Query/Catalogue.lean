import Mathlib.Tactic
import TagCatalog.Proofs.Exchange.Serving
import TagCatalog.Proofs.Query.RoundTrip
import TagCatalog.Proofs.Session.PageQueries
import TagCatalog.Wire.Response

/-!
What a service finds among the images that it knows.

* `Catalogue`: images in the order of their ids, and which of them pass a filter.
* `Catalogue.found`: the records that answer a search for images in this order.
* `Catalogue.found_pageQuery`: the answer to a search for a page.
* `Catalogue.GivenBy`: a service that answers every search for a page so; `Catalogue.giver` is one.
-/

namespace TagCatalog

/-- All that a search may tell of an image. -/
structure KnownImage where
  id : UInt32
  hash : ImageHash
  tags : TagMap
  attributes : AttributeMap

namespace KnownImage

/-- What is told of an image with certain fields. -/
def record (i : KnownImage) (fields : Wire.FieldSet) : ImageRecord where
  id := if fields.ids then some i.id else none
  hash := if fields.hashes then some i.hash else none
  tags := if fields.tags then some i.tags else none
  attributes := if fields.attributes then some i.attributes else none

lemma ofRecord_record (i : KnownImage) (fields : Wire.FieldSet) :
    Wire.FieldSet.ofRecord (i.record fields) = fields := by
  obtain ⟨ids, hashes, tags, attributes⟩ := fields
  cases ids <;> cases hashes <;> cases tags <;> cases attributes <;> rfl

/-- Whether an image passes a filter: a tag or a value is there, whoever set it. -/
def passes (i : KnownImage) : Operator → Bool
  | .not inner => !i.passes inner
  | .and l r => i.passes l && i.passes r
  | .or l r => i.passes l || i.passes r
  | .tag id => (i.tags.get? id).isSome
  | .hasAttribute key none => (i.attributes.get? key).isSome
  | .hasAttribute key (some value) => (((i.attributes.get? key).getD ∅).get? value).isSome
  | .minId id => id.toNat ≤ i.id.toNat
  | .maxId id => i.id.toNat ≤ id.toNat

end KnownImage

/-- The images that a service knows, no two of the same id, in the order of their ids, and which of
them pass a filter: those that pass both parts of a conjunction, and those from a bound on. -/
structure Catalogue where
  images : List KnownImage
  sorted : images.Pairwise (·.id < ·.id)
  passes : Operator → KnownImage → Bool
  passes_and (l r : Operator) (i : KnownImage) : passes (l.and r) i = (passes l i && passes r i)
  passes_minId (n : UInt64) (i : KnownImage) : passes (.minId n) i = (n.toNat ≤ i.id.toNat : Bool)

namespace Catalogue

/-- Images with the usual reading of filters. -/
def ofImages (images : List KnownImage) (sorted : images.Pairwise (·.id < ·.id)) : Catalogue where
  images
  sorted
  passes op i := i.passes op
  passes_and _ _ _ := by rw [KnownImage.passes]
  passes_minId _ _ := by rw [KnownImage.passes]

/-- The images that pass a filter, or all. -/
def matching (cat : Catalogue) (filter : Option Operator) : List KnownImage :=
  cat.images.filter fun i => filter.all (cat.passes · i)

/-- The records that answer a search for images in the order of their ids. -/
def found (cat : Catalogue) (q : SearchQuery) : List ImageRecord :=
  let images := cat.matching q.operator
  let first := q.limit.elim images fun n => images.take n.toNat
  first.map (·.record (Selection.fields q.select))

/-- The answer to a search for a page: the first images from an id on that pass the filter. -/
lemma found_pageQuery (cat : Catalogue) (filter : Option Operator) (select : List Selection)
    (limit start : UInt64) :
    cat.found (Session.pageQuery filter select limit start) =
      (((cat.matching filter).filter (start.toNat ≤ ·.id.toNat)).take limit.toNat).map
        (·.record (Session.pageFields select)) := by
  have hmatching : cat.matching (Session.pageQuery filter select limit start).operator =
      (cat.matching filter).filter (start.toNat ≤ ·.id.toNat) := by
    rw [matching, matching, List.filter_filter]
    refine List.filter_congr fun i _ => ?_
    cases filter <;> simp [Session.pageQuery, passes_and, passes_minId, Bool.and_comm]
  rw [found, hmatching, Session.fields_pageQuery]
  rfl

/-- The images that pass a filter are in the order of their ids. -/
lemma sorted_matching (cat : Catalogue) (filter : Option Operator) :
    (cat.matching filter).Pairwise (·.id.toNat < ·.id.toNat) :=
  (cat.sorted.sublist List.filter_sublist).imp UInt32.lt_iff_toNat_lt.1

/-- A service answers every request of a client for a page with the flat response of what is
found. -/
def GivenBy (cat : Catalogue) (s : Service) (c : Client) (filter : Option Operator)
    (select : List Selection) (limit : UInt64) : Prop :=
  ∀ start, (s.respond (Session.pageRequest c filter select limit start)).isSuccess ∧
    (s.respond (Session.pageRequest c filter select limit start)).body =
      Wire.encodeResponse (.images (cat.found (Session.pageQuery filter select limit start)))

/-- A service that reads searches off requests and answers what is found; some attempts do not reach
it. -/
def giver (cat : Catalogue) (fault? : Nat → Option Failure) : Service where
  respond r := match r.body with
    | some (.json j) => match SearchQuery.shape Shape.maxDepth j with
      | some q => ⟨200, Wire.encodeResponse (.images (cat.found q))⟩
      | none => ⟨400, []⟩
    | _ => ⟨400, []⟩
  fault? := fault?

/-- It answers every search that may be sent. -/
lemma respond_giver (cat : Catalogue) (fault? : Nat → Option Failure) (c : Client)
    {q : SearchQuery} (hq : q.fault? = none) :
    (cat.giver fault?).respond (c.post "/api/search_images" q.toJson) =
      ⟨200, Wire.encodeResponse (.images (cat.found q))⟩ := by
  have hread : SearchQuery.shape Shape.maxDepth q.toJson = some q := by
    refine q.shape_toJson ?_
    have hlevels (op : Operator) (hop : q.operator = some op) : op.levels ≤ 12 := by
      have hdepth : op.depth ≤ 5 := SearchQuery.depth_le_of_fault?_eq_none hop hq
      exact op.levels_le.trans (by omega)
    rw [SearchQuery.levels]
    cases hop : q.operator with
    | none => decide
    | some op =>
      exact Nat.succ_le_of_lt ((max_le (by decide) (hlevels op hop)).trans_lt (by decide))
  simp only [giver, Client.post, hread]

lemma givenBy_giver (cat : Catalogue) (fault? : Nat → Option Failure) (c : Client)
    {filter : Option Operator} {select : List Selection} {limit : UInt64} (hlimit : limit ≠ 0)
    (hdepth : ∀ op ∈ filter, op.depth < Operator.maxDepth) :
    cat.GivenBy (cat.giver fault?) c filter select limit := by
  intro start
  rw [Session.pageRequest,
    cat.respond_giver fault? c (Session.fault?_pageQuery_eq_none hlimit hdepth start)]
  exact ⟨rfl, rfl⟩

end Catalogue

end TagCatalog
