import Mathlib.Tactic
import TagCatalog.Session.Search

/-!
The searches that ask for a page.

* `SearchQuery.fault?_eq`: what keeps a search with fields and a limit from being sent.
* `Session.pageRequest`: the request for a page.
* `Session.fault?_pageQuery`: a page is asked for with a filter that nests one deeper.
* `Session.fields_pageQuery`: ids are among the fields of every page.
-/

namespace TagCatalog

namespace SearchQuery

/-- With fields and a limit, a search is sent exactly if its filter is not too deep. -/
lemma fault?_eq {q : SearchQuery} (hselect : q.select ≠ []) (hlimit : q.limit ≠ some 0) :
    q.fault? = (q.operator.bind Operator.tooDeep?).map .tooDeep := by
  rw [fault?, if_neg (by simpa using hselect), if_neg hlimit]

/-- The filter of a search that is sent does not nest too deep. -/
lemma depth_le_of_fault?_eq_none {q : SearchQuery} {op : Operator} (hop : q.operator = some op)
    (h : q.fault? = none) : op.depth ≤ Operator.maxDepth := by
  rw [fault?] at h
  split_ifs at h
  rw [Option.map_eq_none_iff, hop, Option.bind_some, Operator.tooDeep?] at h
  exact not_lt.1 fun hlt => by simp [hlt] at h

end SearchQuery

namespace Session

open Operator

variable {filter : Option Operator} {select : List Selection} {limit : UInt64}

/-- The request of a client for a page of images. -/
def pageRequest (c : Client) (filter : Option Operator) (select : List Selection)
    (limit start : UInt64) : Request :=
  c.post "/api/search_images" (pageQuery filter select limit start).toJson

/-- The fields of a selection, and ids in any case. -/
def pageFields (select : List Selection) : Wire.FieldSet :=
  { Selection.fields select with ids := true }

/-- Ids are among the fields that a page carries. -/
lemma fields_pageQuery (start : UInt64) :
    Selection.fields (pageQuery filter select limit start).select = pageFields select := by
  by_cases hid : Selection.id ∈ select <;> simp [pageQuery, pageFields, Selection.fields, hid]

/-- Every page has fields. -/
lemma select_pageQuery_ne_nil (start : UInt64) :
    (pageQuery filter select limit start).select ≠ [] := by
  dsimp only [pageQuery]
  split_ifs with hid
  · exact List.ne_nil_of_mem hid
  · simp

/-- The bound of the ids nests a filter one deeper. -/
lemma tooDeep?_pageQuery (start : UInt64) :
    (pageQuery filter select limit start).operator.bind tooDeep? =
      filter.bind fun op => if maxDepth ≤ op.depth then some (op.depth + 1) else none := by
  cases filter with
  | none => rfl
  | some op =>
    have hdepth : (op.and (.minId start)).depth = op.depth + 1 := by
      rw [depth, depth, Nat.max_zero, Nat.add_comm]
    simp only [pageQuery, Option.bind_some, tooDeep?, hdepth, Nat.lt_succ_iff]

/-- A page is not asked for exactly if the filter nests as deep as it may. -/
lemma fault?_pageQuery (hlimit : limit ≠ 0) (start : UInt64) :
    (pageQuery filter select limit start).fault? =
      (filter.bind fun op => if maxDepth ≤ op.depth then some (op.depth + 1) else none).map
        .tooDeep := by
  rw [SearchQuery.fault?_eq (select_pageQuery_ne_nil start) (by simpa [pageQuery] using hlimit),
    tooDeep?_pageQuery]

/-- With a filter that leaves room for the bound, every page may be asked for. -/
lemma fault?_pageQuery_eq_none (hlimit : limit ≠ 0) (hdepth : ∀ op ∈ filter, op.depth < maxDepth)
    (start : UInt64) : (pageQuery filter select limit start).fault? = none := by
  rw [fault?_pageQuery hlimit]
  cases filter with
  | none => rfl
  | some op => rw [Option.bind_some, if_neg (not_le.2 (hdepth op rfl)), Option.map_none]

end Session

end TagCatalog
