import Mathlib.Tactic
import TagCatalog.Proofs.Formats
import TagCatalog.Proofs.Query.Catalogue
import TagCatalog.Proofs.Session.Paging

/-!
All images that pass a filter, from a service that gives what it finds.

* `Catalogue.records`: what is told of the images that pass a filter.
* `Session.exists_imagePages`: these records, page by page.
* `Session.searchAll_of_givenBy`: all of them are read, each once and in the order of their ids.

Ids have 32 bits and bounds have 64, so that there is a page after the greatest id
(`exists_afterPage`); and ids are among the fields of every page, so that its last record tells
where the next one begins.
-/

namespace TagCatalog

open Wire

/-- Records that a flat response can carry. -/
def FitResponse (records : List ImageRecord) : Prop :=
  (∀ r ∈ records, (r.attributes.getD ∅).IsShort) ∧
    (encodeResponse (.images records)).length ≤ maxResponseSize

instance (records : List ImageRecord) : Decidable (FitResponse records) :=
  inferInstanceAs (Decidable (_ ∧ _))

namespace Catalogue

/-- What is told of the images that pass a filter, with certain fields. -/
def records (cat : Catalogue) (filter : Option Operator) (fields : FieldSet) : List ImageRecord :=
  (cat.matching filter).map (·.record fields)

end Catalogue

namespace Session

variable {cat : Catalogue} {s : Service} {c : Client} {filter : Option Operator}
  {select : List Selection} {limit : UInt64}

/-! ### Pages of images -/

/-- The records of a flat response. -/
def readRecords (a : Response) : Except ClientError (List ImageRecord) :=
  match Wire.decodeResponse a.body with
  | .ok r => .ok r.toRecords
  | .error e => .error (.undecoded e)

/-- A flat response is read without the names of tags. -/
lemma decodeResult_of_flat (a : Response) (hflat : c.settings.wireFormat = .flat) :
    decodeResult a c = ((Wire.decodeResponse a.body).mapError .undecoded, c) := by
  have hget : (get : Session Client) c = (.ok c, c) := rfl
  have hnames : namesFor c.settings.wireFormat c = (.ok ∅, c) := by rw [hflat]; rfl
  rw [decodeResult, bind_of_ok hget, bind_of_ok hnames, hflat, WireFormat.decode]
  cases Wire.decodeResponse a.body <;> rfl

lemma fetchesBy_searchPage (hflat : c.settings.wireFormat = .flat)
    (hquery : ∀ start, (pageQuery filter select limit start).fault? = none) :
    FetchesBy (searchPage filter select limit) c (pageRequest c filter select limit)
      (readSuccess readRecords) := by
  have hpage : searchPage filter select limit = fun start =>
      succeed (·.post "/api/search_images" (pageQuery filter select limit start).toJson) .never >>=
        fun a => decodeResult a >>= fun r => pure r.toRecords := by
    funext start
    rw [searchPage, search, hquery, bind_assoc]
  rw [hpage]
  refine fetchesBy_succeed (fun _ _ => rfl) fun a net => ?_
  rw [bind_apply, decodeResult_of_flat a (c := { c with network := net }) hflat, readRecords]
  cases Wire.decodeResponse a.body <;> rfl

/-- The greatest of ascending numbers is the last. -/
lemma max?_of_sorted {l : List UInt32} (h : l.Pairwise (· < ·)) : l.max? = l.getLast? := by
  match l with
  | [] => rfl
  | a :: l =>
    rw [List.max?_cons', List.getLast?_eq_some_getLast (by simp)]
    congr 1
    induction l generalizing a with
    | nil => rfl
    | cons b l ih =>
      rw [List.pairwise_cons] at h
      have hab : a < b := h.1 b (List.mem_cons_self ..)
      have hmax : max a b = if a ≤ b then b else a := rfl
      rw [if_pos (UInt32.le_of_lt hab)] at hmax
      rw [List.foldl_cons, hmax, ih b h.2, List.getLast_cons_cons]

/-- The id after one of 32 bits does not overflow. -/
lemma toNat_toUInt64_add_one (id : UInt32) : (id.toUInt64 + 1).toNat = id.toNat + 1 := by
  have hlt : id.toNat < UInt32.size := id.toNat_lt_size
  have hsize : UInt32.size < 2 ^ 64 := by decide
  rw [UInt64.toNat_add, UInt32.toNat_toUInt64]
  exact Nat.mod_eq_of_lt (by simp; omega)

/-- After a part of the records in their order, the next page begins right above the last of
them. -/
lemma exists_afterPage {fields : FieldSet} (hids : fields.ids = true) {page : List ImageRecord}
    (h : page ≠ []) (hpage : page.Sublist (cat.records filter fields)) :
    ∃ start, afterPage page = .ok start ∧
      start.toNat = ((page.getLast h).id.getD 0).toNat + 1 := by
  obtain ⟨l, hl, rfl⟩ := List.sublist_map_iff.1 hpage
  have hid (i : KnownImage) : (i.record fields).id = some i.id := if_pos hids
  have hmap : (l.map (·.record fields)).filterMap (·.id) = l.map (·.id) := by
    rw [List.filterMap_map, ← List.filterMap_eq_map]
    exact List.filterMap_congr fun i _ => hid i
  have hsorted : (l.map (·.id)).Pairwise (· < ·) :=
    List.pairwise_map.2 ((cat.sorted.sublist List.filter_sublist).sublist hl)
  have hne : l ≠ [] := by simpa using h
  refine ⟨(l.getLast hne).id.toUInt64 + 1, ?_, ?_⟩
  · rw [afterPage, hmap, max?_of_sorted hsorted, List.getLast?_map,
      List.getLast?_eq_some_getLast hne]
    rfl
  · rw [List.getLast_map, hid, Option.getD_some, toNat_toUInt64_add_one]

/-- Every page that fits into a response is read as it is found. -/
lemma readSuccess_of_givenBy (hgiven : cat.GivenBy s c filter select limit) {start : UInt64}
    (hfits : FitResponse (cat.found (pageQuery filter select limit start))) :
    readSuccess readRecords (s.respond (pageRequest c filter select limit start)) =
      .ok (cat.found (pageQuery filter select limit start)) := by
  obtain ⟨hsuccess, hbody⟩ := hgiven start
  have hsame : ∀ r ∈ cat.found (pageQuery filter select limit start),
      FieldSet.ofRecord r = pageFields select := by
    intro r hr
    rw [Catalogue.found_pageQuery] at hr
    obtain ⟨i, -, rfl⟩ := List.mem_map.1 hr
    exact i.ofRecord_record _
  have hfields : pageFields select ≠ .none := fun h => by cases congrArg FieldSet.ids h
  obtain ⟨r, hr, hrecords⟩ :=
    WireFormat.decode_flat_encode (d := ∅) hfields hsame hfits.1 hfits.2
  rw [WireFormat.decode] at hr
  rw [readSuccess, if_pos hsuccess, readRecords, hbody, hr]
  exact congrArg _ hrecords

/-- The records of the images that pass a filter are on as many pages as they need, and an empty
page follows. -/
lemma exists_imagePages (cat : Catalogue) (filter : Option Operator) (select : List Selection)
    (hlimit : 0 < limit) :
    ∃ starts, Pages (fun start => cat.found (pageQuery filter select limit start)) afterPage 0
        starts (cat.records filter (pageFields select)) ∧
      starts.length = (cat.matching filter).length ⌈/⌉ limit.toNat + 1 ∧
      ∀ start ∈ starts, ∃ i, cat.found (pageQuery filter select limit start) =
        ((cat.records filter (pageFields select)).drop (i * limit.toNat)).take limit.toNat := by
  let key (r : ImageRecord) : Nat := (r.id.getD 0).toNat
  have hkey (i : KnownImage) : key (i.record (pageFields select)) = i.id.toNat := rfl
  have hsorted : (cat.records filter (pageFields select)).Pairwise (key · < key ·) :=
    List.pairwise_map.2 (cat.sorted_matching filter)
  have hfound (start : UInt64) : cat.found (pageQuery filter select limit start) =
      ((cat.records filter (pageFields select)).filter (start.toNat ≤ key ·)).take limit.toNat := by
    rw [Catalogue.found_pageQuery, Catalogue.records, List.filter_map, List.map_take]
    rfl
  have hall : (cat.records filter (pageFields select)).filter ((0 : UInt64).toNat ≤ key ·) =
      cat.records filter (pageFields select) :=
    List.filter_eq_self.2 fun _ _ => decide_eq_true (Nat.zero_le _)
  obtain ⟨starts, hpages, hlength, hstarts⟩ := exists_pages_of_sorted UInt64.toNat hsorted
    (UInt64.lt_iff_toNat_lt.1 hlimit) (fun page h hpage => exists_afterPage rfl h hpage) 0
  rw [hall] at hpages hlength hstarts
  refine ⟨starts, ?_, ?_, fun start h => ?_⟩
  · rwa [funext hfound]
  · rwa [Catalogue.records, List.length_map] at hlength
  · rw [hfound]
    exact (hstarts start h).2

/-! ### All images -/

/-- **All images that pass a filter are read, each once and in the order of their ids.** So it is
for every filter that leaves room for the bound of the ids, from a reachable service that gives what
it finds, if every page fits into a response. The images are read with as many requests as they need
pages, and one more; and there are outcomes with which reading ends. -/
theorem searchAll_of_givenBy (cat : Catalogue) (s : Service) (c : Client)
    (filter : Option Operator) (select : List Selection) (batch : Option UInt64)
    (hflat : c.settings.wireFormat = .flat) (hs : s.Reachable c.settings.retry.policy)
    (hgiven : cat.GivenBy s c filter select (batch.getD c.settings.batchSize))
    (hdepth : ∀ op ∈ filter, op.depth < Operator.maxDepth)
    (hbatch : 0 < batch.getD c.settings.batchSize)
    (hfits : ∀ i, FitResponse (((cat.records filter (pageFields select)).drop
      (i * (batch.getD c.settings.batchSize).toNat)).take
        (batch.getD c.settings.batchSize).toNat)) :
    (∃ outcomes, (searchAll filter select batch (c.withOutcomes outcomes)).2.network.ServedBy s
        c.network.attempts.length) ∧
      ∀ outcomes, (searchAll filter select batch (c.withOutcomes outcomes)).2.network.ServedBy s
          c.network.attempts.length →
        (searchAll filter select batch (c.withOutcomes outcomes)).1 =
          .ok (cat.records filter (pageFields select)) ∧
        ∃ starts : List UInt64,
          (searchAll filter select batch (c.withOutcomes outcomes)).2.network.answered
              c.network.attempts.length =
            starts.map (pageRequest c filter select (batch.getD c.settings.batchSize)) ∧
          starts.length =
            (cat.matching filter).length ⌈/⌉ (batch.getD c.settings.batchSize).toNat + 1 := by
  have hlimit : batch.getD c.settings.batchSize ≠ 0 := UInt64.pos_iff_ne_zero.1 hbatch
  have hquery (start : UInt64) :
      (pageQuery filter select (batch.getD c.settings.batchSize) start).fault? = none :=
    fault?_pageQuery_eq_none hlimit hdepth start
  have hfetch := fetchesBy_searchPage hflat hquery
  have hgrows := grows_searchPage filter select (batch.getD c.settings.batchSize)
  obtain ⟨starts, hpages, hlength, hstarts⟩ := exists_imagePages cat filter select hbatch
  have hread : ∀ start ∈ starts, readSuccess readRecords
      (s.respond (pageRequest c filter select (batch.getD c.settings.batchSize) start)) =
        .ok (cat.found (pageQuery filter select (batch.getD c.settings.batchSize) start)) := by
    intro start hstart
    obtain ⟨i, hi⟩ := hstarts start hstart
    exact readSuccess_of_givenBy hgiven (hi ▸ hfits i)
  constructor
  · obtain ⟨script, hscript⟩ := hfetch.exists_script_paged (spends_searchPage filter select _)
      afterPage hgrows hs hpages hread c.network.attempts.length
    exact ⟨script, hscript { c.network with outcomes := script } rfl rfl⟩
  · intro outcomes hserved
    obtain ⟨hrecords, hanswered⟩ := hfetch.paged_of_servedBy hgrows hs hpages hread
      { c.network with outcomes } hserved
    exact ⟨hrecords, starts, hanswered, hlength⟩

/-- Of three images, two have a tag; the second has the greatest id that there is. They are read one
at a time with three requests, the first of which is tried twice. -/
theorem searchAll_of_givenBy_greatestId :
    ∃ outcomes,
      (searchAll (some (.tag 3)) [.tags] (some 1) (Client.withOutcomes
        (.ofSettings .standard (.fresh [] .unprepared)) outcomes)).1 =
          .ok [⟨some 1, none, some (OrderedMap.ofList [(3, 9)]), none⟩,
            ⟨some 4294967295, none, some (OrderedMap.ofList [(3, 9), (5, 9)]), none⟩] ∧
      ((searchAll (some (.tag 3)) [.tags] (some 1) (Client.withOutcomes
        (.ofSettings .standard (.fresh [] .unprepared)) outcomes)).2.network.answered 0).length =
          3 := by
  let image (id : UInt32) (tags : TagMap) : KnownImage := ⟨id, .zero, tags, ∅⟩
  let cat : Catalogue := .ofImages [image 1 (OrderedMap.ofList [(3, 9)]), image 2 ∅,
    image 4294967295 (OrderedMap.ofList [(3, 9), (5, 9)])] (by decide)
  let c : Client := .ofSettings .standard (.fresh [] .unprepared)
  let s := cat.giver fun n => if n = 0 then some (.connect "refused") else none
  have hreachable : s.Reachable c.settings.retry.policy :=
    Service.reachable_of_one (f := .connect "refused") rfl (fun _ => rfl) (by decide)
  have hlength : (cat.records (some (.tag 3)) (pageFields [.tags])).length = 2 := rfl
  have hfits (i : Nat) : FitResponse (((cat.records (some (.tag 3)) (pageFields [.tags])).drop
      (i * 1)).take 1) := by
    match i with
    | 0 => decide
    | 1 => decide
    | i + 2 =>
      rw [List.drop_of_length_le (by simp [hlength])]
      decide
  obtain ⟨⟨outcomes, hserved⟩, hall⟩ := searchAll_of_givenBy cat s c (some (.tag 3)) [.tags]
    (some 1) rfl hreachable (cat.givenBy_giver _ c (by decide) (by decide)) (by decide) (by decide)
    hfits
  obtain ⟨hrecords, starts, hanswered, hpages⟩ := hall outcomes hserved
  refine ⟨outcomes, hrecords, (congrArg List.length hanswered).trans ?_⟩
  rw [List.length_map, hpages, Nat.ceilDiv_eq_add_pred_div]
  decide

end Session

end TagCatalog
