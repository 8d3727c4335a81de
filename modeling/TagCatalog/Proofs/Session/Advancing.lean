import Mathlib.Tactic
import TagCatalog.Proofs.Session.Refreshing
import TagCatalog.Proofs.Session.Searching

/-!
How a client gets from page to page of images, whatever it is answered.

* `Session.Trail`: pages with the starts that they were asked from, each right after the greatest id
  of the page before.
* `Trail.pairwise_starts_iff`: the starts ascend exactly if every page has an id that was asked for.
* `Session.Reads`: the searches that lead from one client to another, page after page.
* `Session.searchAll_ascends_iff`: how the starts go while all images are read, from any service.

No page is held against the start that it was asked from, so a page of ids that lie below takes the
client back. The induction along the pages is on the outcomes that are left, of which every page
uses one up (`exists_reads`); what the starts do is then an induction along the trail.
-/

namespace TagCatalog

instance (r : Request) (s : Settings) : Decidable (r.AsksImages s) :=
  inferInstanceAs (Decidable (_ ∧ _))

namespace Session

open Client Wire

/-! ### Greatest ids -/

instance : Std.LawfulOrderMax UInt32 where
  max_eq_or a b := by
    have hmax : max a b = if a ≤ b then b else a := rfl
    rw [hmax]
    split_ifs <;> simp
  max_le_iff a b c := by
    have hmax : max a b = if a ≤ b then b else a := rfl
    rw [hmax]
    simp only [UInt32.le_iff_toNat_le]
    split_ifs <;> omega

/-- The ids on a page. -/
def ids (page : List ImageRecord) : List UInt32 := page.filterMap (·.id)

/-- An id is the greatest on a page. -/
def IsGreatestId (page : List ImageRecord) (id : UInt32) : Prop :=
  id ∈ ids page ∧ ∀ i ∈ ids page, i ≤ id

/-- The next page is asked for from right after the greatest id on a page. -/
lemma exists_isGreatestId {page : List ImageRecord} {next : UInt64}
    (h : afterPage page = .ok next) :
    ∃ id, IsGreatestId page id ∧ next.toNat = id.toNat + 1 := by
  rw [afterPage] at h
  split at h
  next id hid =>
    cases h
    exact ⟨id, List.max?_eq_some_iff.1 hid, toNat_toUInt64_add_one id⟩
  next => cases h

/-! ### Trails -/

/-- A page together with the start that it was asked from. -/
abbrev Stage := UInt64 × List ImageRecord

namespace Stage

/-- The page has an id that was asked for. -/
def Serves (p : Stage) : Prop := ∃ id ∈ ids p.2, p.1.toNat ≤ id.toNat

/-- The page has no id but those that were asked for. -/
def Honest (p : Stage) : Prop := ∀ id ∈ ids p.2, p.1.toNat ≤ id.toNat

end Stage

/-- Pages that follow one another up to a last start: each start is right after the greatest id of
the page before. -/
inductive Trail : UInt64 → List Stage → UInt64 → Prop
  | last (start : UInt64) : Trail start [] start
  | page {start next last : UInt64} {page : List ImageRecord} {id : UInt32} {rest : List Stage}
      (hid : IsGreatestId page id) (hnext : next.toNat = id.toNat + 1)
      (hrest : Trail next rest last) : Trail start ((start, page) :: rest) last

/-- The starts of pages, and the last one. -/
def starts (pages : List Stage) (last : UInt64) : List UInt64 := pages.map Prod.fst ++ [last]

namespace Trail

variable {start next last : UInt64} {page : List ImageRecord} {id : UInt32} {pages : List Stage}

lemma starts_eq (h : Trail start pages last) : ∃ l, starts pages last = start :: l := by
  cases h with
  | last => exact ⟨[], rfl⟩
  | page => exact ⟨_, rfl⟩

/-- One step goes forward exactly if the page has an id that was asked for. -/
lemma lt_next_iff (hid : IsGreatestId page id) (hnext : next.toNat = id.toNat + 1) :
    start < next ↔ Stage.Serves (start, page) := by
  rw [UInt64.lt_iff_toNat_lt, hnext, Nat.lt_succ_iff]
  constructor
  · exact fun hle => ⟨id, hid.1, hle⟩
  · rintro ⟨i, hi, hle⟩
    exact hle.trans (UInt32.le_iff_toNat_le.1 (hid.2 i hi))

/-- The starts ascend exactly if every page has an id that was asked for. -/
lemma pairwise_starts_iff (h : Trail start pages last) :
    (starts pages last).Pairwise (· < ·) ↔ ∀ p ∈ pages, p.Serves := by
  rw [← List.isChain_iff_pairwise]
  induction h with
  | last start => simp [starts]
  | @page start next last page id rest hid hnext hrest ih =>
    obtain ⟨l, hl⟩ := hrest.starts_eq
    have hstarts : starts ((start, page) :: rest) last = start :: next :: l := by
      rw [starts, List.map_cons, List.cons_append, ← starts, hl]
    rw [hstarts, List.isChain_cons_cons, lt_next_iff hid hnext, ← hl, ih, List.forall_mem_cons]

/-- Ascending starts get on by one at least with every page. -/
lemma add_length_le (h : Trail start pages last) (hserves : ∀ p ∈ pages, p.Serves) :
    start.toNat + pages.length ≤ last.toNat := by
  induction h with
  | last start => simp
  | @page start next last page id rest hid hnext hrest ih =>
    rw [List.forall_mem_cons] at hserves
    have hlt := UInt64.lt_iff_toNat_lt.1 ((lt_next_iff hid hnext).2 hserves.1)
    have hrest := ih hserves.2
    rw [List.length_cons]
    omega

/-- After a page, the last start is no greater than the number of ids that there are. -/
lemma last_le (h : Trail start pages last) (hne : pages ≠ []) : last.toNat ≤ 2 ^ 32 := by
  induction h with
  | last => exact absurd rfl hne
  | @page start next last page id rest hid hnext hrest ih =>
    cases hrest with
    | last =>
      have hlt := id.toNat_lt
      omega
    | page hid' hnext' hrest' => exact ih (by simp)

/-- There are no more pages than ids, if the starts ascend. -/
lemma length_le (h : Trail start pages last) (hserves : ∀ p ∈ pages, p.Serves) :
    pages.length ≤ 2 ^ 32 := by
  by_cases hne : pages = []
  · simp [hne]
  · have hlength := h.add_length_le hserves
    have hlast := h.last_le hne
    omega

/-- Pages that have no id but those that were asked for take the client forward. -/
lemma serves_of_honest (h : Trail start pages last) (hhonest : ∀ p ∈ pages, p.Honest) :
    ∀ p ∈ pages, p.Serves := by
  induction h with
  | last => simp
  | page hid hnext hrest ih =>
    rw [List.forall_mem_cons] at hhonest ⊢
    exact ⟨⟨_, hid.1, hhonest.1 _ hid.1⟩, ih hhonest.2⟩

/-- All ids on such pages are asked for from the first on. -/
lemma le_of_mem_ids (h : Trail start pages last) (hhonest : ∀ p ∈ pages, p.Honest) :
    ∀ p ∈ pages, ∀ i ∈ ids p.2, start.toNat ≤ i.toNat := by
  induction h with
  | last => simp
  | @page start next last page id rest hid hnext hrest ih =>
    rw [List.forall_mem_cons] at hhonest ⊢
    refine ⟨hhonest.1, fun p hp i hi => ?_⟩
    have hstart := hhonest.1 id hid.1
    have hle := ih hhonest.2 p hp i hi
    dsimp only at hstart
    omega

/-- The ids on such pages are greater than all on the pages before. -/
lemma pairwise_ids (h : Trail start pages last) (hhonest : ∀ p ∈ pages, p.Honest) :
    pages.Pairwise fun p q => ∀ i ∈ ids p.2, ∀ j ∈ ids q.2, i < j := by
  induction h with
  | last => exact .nil
  | @page start next last page id rest hid hnext hrest ih =>
    rw [List.forall_mem_cons] at hhonest
    refine .cons (fun q hq i hi j hj => ?_) (ih hhonest.2)
    have hi' := UInt32.le_iff_toNat_le.1 (hid.2 i hi)
    have hj' := hrest.le_of_mem_ids hhonest.2 q hq j hj
    rw [UInt32.lt_iff_toNat_lt]
    omega

end Trail

/-! ### One page -/

variable {filter : Option Operator} {select : List Selection} {limit start : UInt64}

/-- Whether a page is asked for does not depend on where it begins. -/
lemma fault?_pageQuery_eq (start start' : UInt64) :
    (pageQuery filter select limit start).fault? =
      (pageQuery filter select limit start').fault? := by
  rw [SearchQuery.fault?, SearchQuery.fault?, tooDeep?_pageQuery, tooDeep?_pageQuery]
  rfl

/-- Attempts at a page, the last of which is answered with it. -/
def Brings (c : Client) (filter : Option Operator) (select : List Selection) (limit : UInt64)
    (p : Stage) (l : List Attempt) : Prop :=
  ∃ a dict result, Burst (pageRequest c filter select limit p.1) l (.ok a) ∧
    a.isSuccess = true ∧ c.settings.wireFormat.decode dict a.body = .ok result ∧
    result.toRecords = p.2

/-- A result is read off an answer with some names of tags. -/
lemma exists_decode_of_decodeResult {a : Response} {c c' : Client} {result : SearchResult}
    (h : decodeResult a c = (.ok result, c')) :
    ∃ dict, c.settings.wireFormat.decode dict a.body = .ok result := by
  have hget : (get : Session Client) c = (.ok c, c) := rfl
  rw [decodeResult, bind_of_ok hget] at h
  rcases hnames : namesFor c.settings.wireFormat c with ⟨e | dict, c''⟩
  · rw [bind_of_error hnames] at h
    cases h
  · rw [bind_of_ok hnames] at h
    cases hdecode : c.settings.wireFormat.decode dict a.body with
    | ok r =>
      rw [hdecode] at h
      cases h
      exact ⟨dict, hdecode⟩
    | error e =>
      rw [hdecode] at h
      cases h

/-- Reading the result in an answer makes no searches. -/
lemma searches_decodeResult {a : Response} {c : Client} {net : Network} {l : List Attempt}
    (hl : net.attempts = c.network.attempts ++ l) :
    (c.added (decodeResult a { c with network := net }).2).filter
      (·.request.AsksImages c.settings) = l.filter (·.request.AsksImages c.settings) := by
  have hgrows := closed_grows.decodeResult (c := { c with network := net })
    (fun _ _ => grows_listTags _) a
  have hfirst : c.network.attempts <+: ({ c with network := net } : Client).network.attempts :=
    hl ▸ List.prefix_append ..
  rw [added_trans hfirst hgrows, added_eq hl, List.filter_append, List.append_right_eq_self,
    List.filter_eq_nil_iff]
  intro b hb hsearch
  have hget := (asksTags_of_mem_added_decodeResult hb).1
  cases hget.symm.trans (of_decide_eq_true hsearch).1

/-- The searches that are made for a page. -/
lemma exists_burst_searchPage (hquery : (pageQuery filter select limit start).fault? = none)
    (c : Client) : ∃ l, l ≠ [] ∧ (∀ a ∈ l, a.request = pageRequest c filter select limit start) ∧
      (c.added (searchPage filter select limit start c).2).filter
        (·.request.AsksImages c.settings) = l ∧
      ∀ page c', searchPage filter select limit start c = (.ok page, c') →
        Brings c filter select limit (start, page) l := by
  obtain ⟨result, l, net, hburst, hanswer, hl, hne⟩ := exists_burst_answer
    (·.post "/api/search_images" (pageQuery filter select limit start).toJson) .never c
  have hsearches : l.filter (·.request.AsksImages c.settings) = l := by
    refine List.filter_eq_self.2 fun a ha => decide_eq_true ?_
    rw [hburst.request_eq a ha]
    exact ⟨rfl, rfl⟩
  have hpage : searchPage filter select limit start =
      SearchResult.toRecords <$> search (pageQuery filter select limit start) .never :=
    (map_eq_pure_bind ..).symm
  refine ⟨l, hne rfl, hburst.request_eq, ?_⟩
  rw [hpage, map_apply, search, hquery]
  dsimp only
  rw [succeed, bind_assoc]
  cases result with
  | error e =>
    rw [bind_of_error hanswer, added_eq hl]
    exact ⟨hsearches, fun page c' h => by cases h⟩
  | ok a =>
    rw [bind_of_ok hanswer, accept]
    by_cases ha : a.isSuccess
    · rw [if_pos ha, pure_bind]
      constructor
      · rw [searches_decodeResult hl, hsearches]
      · intro page c' h
        rcases hdecode : decodeResult a { c with network := net } with ⟨e | result, c''⟩
        · rw [hdecode] at h
          cases h
        · rw [hdecode] at h
          cases h
          obtain ⟨dict, hdict⟩ := exists_decode_of_decodeResult hdecode
          exact ⟨a, dict, result, hburst, ha, hdict, rfl⟩
    · rw [if_neg ha]
      refine ⟨?_, fun page c' h => by cases h⟩
      exact (congrArg (List.filter _) (added_eq hl)).trans hsearches

/-! ### Page after page -/

section

variable {α κ : Type} {fetch : κ → Session (List α)} {spends : ∀ k, Spends (fetch k)}
  {next : List α → Except ClientError κ} {k : κ} {c c' : Client} {e : ClientError}

/-- If the first page cannot be fetched, this is the end. -/
lemma paged_of_error (h : fetch k c = (.error e, c')) :
    paged fetch spends next k c = (.error e, c') := by rw [paged_eq_bind, bind_of_error h]

/-- If the first page does not tell where the next one begins, this is the end. -/
lemma paged_of_stop {l : List α} (h : fetch k c = (.ok l, c')) (hl : l ≠ [])
    (hnext : next l = .error e) : paged fetch spends next k c = (.error e, c') := by
  obtain ⟨a, l, rfl⟩ := List.exists_cons_of_ne_nil hl
  rw [paged_eq_bind, bind_of_ok h]
  dsimp only
  rw [hnext]
  rfl

end

/-- The searches that lead from one client to another, page after page: each page is brought by
attempts of its own, and the last start is that of the page with which this ended. -/
structure Reads (c c' : Client) (filter : Option Operator) (select : List Selection)
    (limit start : UInt64) (pages : List Stage) (last : UInt64) : Prop where
  trail : Trail start pages last
  searches : ∃ bursts final, List.Forall₂ (Brings c filter select limit) pages bursts ∧
    final ≠ [] ∧ (∀ a ∈ final, a.request = pageRequest c filter select limit last) ∧
    (c.added c').filter (·.request.AsksImages c.settings) = bursts.flatten ++ final

/-- One more page before the others. -/
lemma Reads.cons {c c' c'' : Client} {next last : UInt64} {page : List ImageRecord}
    {pages : List Stage} {l : List Attempt} (hfollows : c.Follows NeedsTags c')
    (hgrows : c'.network.attempts <+: c''.network.attempts)
    (hsearches : (c.added c').filter (·.request.AsksImages c.settings) = l)
    (hbrings : Brings c filter select limit (start, page) l) (hnext : afterPage page = .ok next)
    (h : Reads c' c'' filter select limit next pages last) :
    Reads c c'' filter select limit start ((start, page) :: pages) last := by
  obtain ⟨id, hid, hid'⟩ := exists_isGreatestId hnext
  obtain ⟨bursts, final, hbursts, hne, hfinal, hrest⟩ := h.searches
  have hrequest : pageRequest c' filter select limit = pageRequest c filter select limit := by
    funext start
    rw [pageRequest, pageRequest, Client.post, Client.post, hfollows.settings_eq,
      hfollows.token_eq]
  have hsame : Brings c' filter select limit = Brings c filter select limit := by
    funext p l
    rw [Brings, Brings, hrequest, hfollows.settings_eq]
  rw [hsame] at hbursts
  rw [hrequest] at hfinal
  rw [hfollows.settings_eq] at hrest
  refine ⟨.page hid hid' h.trail, l :: bursts, final, .cons hbrings hbursts, hne, hfinal, ?_⟩
  rw [added_trans hfollows.grows hgrows, List.filter_append, hsearches, hrest, List.flatten_cons,
    List.append_assoc]

/-- From any start on, a client reads pages until one is not followed by another. If all goes well,
these are all that is read. -/
lemma exists_reads (hquery : ∀ start, (pageQuery filter select limit start).fault? = none)
    (start : UInt64) (c : Client) :
    ∃ pages last, Reads c (paged (searchPage filter select limit)
        (spends_searchPage filter select limit) afterPage start c).2 filter select limit start pages
        last ∧
      ∀ records, (paged (searchPage filter select limit) (spends_searchPage filter select limit)
        afterPage start c).1 = .ok records → records = (pages.map Prod.snd).flatten := by
  -- on the outcomes that are left, of which every page uses one up
  induction hn : outcomesLeft c using Nat.strong_induction_on generalizing start c with
  | _ n ih =>
    subst hn
    obtain ⟨l, hne, hrequest, hsearches, hbrings⟩ := exists_burst_searchPage (hquery start) c
    have hstops : ∀ result c', searchPage filter select limit start c = (result, c') →
        Reads c c' filter select limit start [] start := fun result c' h =>
      ⟨.last start, [], l, .nil, hne, hrequest, by rw [h] at hsearches; exact hsearches⟩
    rcases hpage : searchPage filter select limit start c with ⟨e | page, c'⟩
    · rw [paged_of_error hpage]
      exact ⟨[], start, hstops _ c' hpage, fun records h => by cases h⟩
    obtain rfl | hpagene := eq_or_ne page []
    · rw [paged_of_nil hpage]
      exact ⟨[], start, hstops _ c' hpage, fun records h => by cases h; rfl⟩
    cases hnext : afterPage page with
    | error e =>
      rw [paged_of_stop hpage hpagene hnext]
      exact ⟨[], start, hstops _ c' hpage, fun records h => by cases h⟩
    | ok next =>
      obtain ⟨pages, last, hreads, hrecords⟩ :=
        ih _ (spends_searchPage filter select limit start c page c' hpage) next c' rfl
      rw [paged_of_next hpage hpagene hnext]
      have hfollows := (completes_searchPage filter select limit start c).1
      rw [hpage] at hfollows hsearches
      refine ⟨(start, page) :: pages, last, ?_, fun records h => ?_⟩
      · exact hreads.cons hfollows (grows_paged (grows_searchPage filter select limit) next c')
          hsearches (hbrings page c' hpage) hnext
      · dsimp only at h
        cases hrest : (paged (searchPage filter select limit)
            (spends_searchPage filter select limit) afterPage next c').1 with
        | error e =>
          rw [hrest] at h
          cases h
        | ok rest =>
          rw [hrest] at h
          cases h
          rw [List.map_cons, List.flatten_cons, ← hrecords rest hrest]

/-- **The starts of pages ascend exactly if every page has an id that was asked for.** While all
images are read, whatever the answers are, the first page is asked for from zero, and each other one
from right after the greatest id of the page before, be that above the start of that page or below.
So there are as many pages as ids at most if each has an id that was asked for; and if none has any
other id, no id is on two pages. If all goes well, what is read are these pages. -/
theorem searchAll_ascends_iff (c : Client) (filter : Option Operator) (select : List Selection)
    (batch : Option UInt64) :
    (∃ fault, searchAll filter select batch c = (.error (.query fault), c)) ∨
      ∃ pages last,
        Reads c (searchAll filter select batch c).2 filter select
          (batch.getD c.settings.batchSize) 0 pages last ∧
        ((starts pages last).Pairwise (· < ·) ↔ ∀ p ∈ pages, p.Serves) ∧
        ((starts pages last).Pairwise (· < ·) → pages.length ≤ 2 ^ 32) ∧
        ((∀ p ∈ pages, p.Honest) → (starts pages last).Pairwise (· < ·) ∧
          pages.Pairwise fun p q => ∀ i ∈ ids p.2, ∀ j ∈ ids q.2, i < j) ∧
        ∀ records, (searchAll filter select batch c).1 = .ok records →
          records = (pages.map Prod.snd).flatten := by
  cases hfault : (pageQuery filter select (batch.getD c.settings.batchSize) 0).fault? with
  | some fault =>
    refine .inl ⟨fault, ?_⟩
    have hpage : searchPage filter select (batch.getD c.settings.batchSize) 0 c =
        (.error (.query fault), c) := by
      rw [searchPage, search, hfault]
      rfl
    exact paged_of_error hpage
  | none =>
    have hquery : ∀ start, (pageQuery filter select (batch.getD c.settings.batchSize)
        start).fault? = none := fun start => (fault?_pageQuery_eq start 0).trans hfault
    obtain ⟨pages, last, hreads, hrecords⟩ := exists_reads hquery 0 c
    have hiff := hreads.trail.pairwise_starts_iff
    refine .inr ⟨pages, last, hreads, hiff, fun h => hreads.trail.length_le (hiff.1 h),
      fun h => ⟨hiff.2 (hreads.trail.serves_of_honest h), hreads.trail.pairwise_ids h⟩, hrecords⟩

/-- A page of an id below the start takes the client back: it asks from zero, six, four and six
again, and reads the image with the id five twice. -/
theorem searchAll_goes_back :
    let c : Client := .ofSettings .standard (.fresh ([[5], [3], [5], []].map fun l =>
      .ok ⟨200, encodeResponse (.ids l)⟩) .unprepared)
    (searchAll none [.id] (some 1) c).1 =
        .ok [⟨some 5, none, none, none⟩, ⟨some 3, none, none, none⟩, ⟨some 5, none, none, none⟩] ∧
      (searchAll none [.id] (some 1) c).2.network.attempts.map (·.request) =
        [0, 6, 4, 6].map (pageRequest c none [.id] 1) := by
  intro c
  let fetch := searchPage none [.id] 1
  let c₁ := (fetch 0 c).2
  let c₂ := (fetch 6 c₁).2
  let c₃ := (fetch 4 c₂).2
  let c₄ := (fetch 6 c₃).2
  have h₁ : fetch 0 c = (.ok [⟨some 5, none, none, none⟩], c₁) := by rfl
  have h₂ : fetch 6 c₁ = (.ok [⟨some 3, none, none, none⟩], c₂) := by rfl
  have h₃ : fetch 4 c₂ = (.ok [⟨some 5, none, none, none⟩], c₃) := by rfl
  have h₄ : fetch 6 c₃ = (.ok [], c₄) := by rfl
  have hfive : afterPage [⟨some 5, none, none, none⟩] = .ok 6 := rfl
  have hthree : afterPage [⟨some 3, none, none, none⟩] = .ok 4 := rfl
  have hall : searchAll none [.id] (some 1) c =
      paged fetch (spends_searchPage none [.id] 1) afterPage 0 c := rfl
  rw [hall, paged_of_next h₁ (by simp) hfive, paged_of_next h₂ (by simp) hthree,
    paged_of_next h₃ (by simp) hfive, paged_of_nil h₄]
  exact ⟨rfl, rfl⟩

end Session

end TagCatalog
