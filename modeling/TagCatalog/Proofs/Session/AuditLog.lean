import Mathlib.Tactic
import TagCatalog.Proofs.Service.RoundTrip
import TagCatalog.Proofs.Session.Paging

/-!
The log of past changes, read from a service that tells all of it.

* `AuditLog`: past changes in the order of their ids.
* `AuditLog.ToldBy`: a service that answers each request for a page with the first changes from an
  id on that are wanted; `AuditLog.teller` is one.
* `Session.exists_logPages`, `Session.logPage_ne_nil`: the changes that are wanted, page by page,
  and when there is no last page.
* `Session.listLogs_of_toldBy`: the changes that are wanted are read, each once, unless one of them
  has the greatest id that there is; then reading does not end.
-/

namespace TagCatalog

/-- Whether a change is wanted. -/
def LogQuery.wants (q : LogQuery) (e : LogEntry) : Bool :=
  q.image.all (e.imageHash = some ·) && q.action.all (e.action = ·)

/-- Past changes, no two of the same id, in the order of their ids. -/
structure AuditLog where
  entries : List LogEntry
  sorted : entries.Pairwise (·.id < ·.id)

namespace AuditLog

/-- The changes that are wanted. -/
def wanted (log : AuditLog) (q : LogQuery) : List LogEntry := log.entries.filter q.wants

/-- The first changes from an id on that are wanted. -/
def page (log : AuditLog) (q : LogQuery) (limit start : UInt64) : List LogEntry :=
  ((log.wanted q).filter (start ≤ ·.id)).take limit.toNat

/-- The request of a client for a page of changes. -/
def request (c : Client) (q : LogQuery) (limit start : UInt64) : Request :=
  { c.get "/api/logs" with query := q.pairs limit start }

/-- A service answers every request of a client for a page with the first changes from the id on
that are wanted. -/
def ToldBy (log : AuditLog) (s : Service) (c : Client) (q : LogQuery) (limit : UInt64) : Prop :=
  ∀ start, (s.respond (request c q limit start)).isSuccess ∧
    (Shape.list LogEntry.shape).read (s.respond (request c q limit start)).body =
      some (log.page q limit start)

variable {log : AuditLog} {s : Service} {c : Client} {q : LogQuery} {limit : UInt64}

lemma sorted_wanted (log : AuditLog) (q : LogQuery) :
    (log.wanted q).Pairwise (·.id.toNat < ·.id.toNat) :=
  (log.sorted.sublist List.filter_sublist).imp UInt64.lt_iff_toNat_lt.1

lemma page_eq (log : AuditLog) (q : LogQuery) (limit start : UInt64) : log.page q limit start =
    ((log.wanted q).filter (start.toNat ≤ ·.id.toNat)).take limit.toNat := by
  simp only [page, UInt64.le_iff_toNat_le]

/-! ### A service that tells a log -/

/-- A service that reads which changes are asked for off the request, and writes them in JSON; some
attempts do not reach it. -/
def teller (log : AuditLog) (q : LogQuery) (fault? : Nat → Option Failure) : Service where
  respond r :=
    let number (name : String) : Nat :=
      Nat.ofDigitChars 10 ((r.query.lookup name).getD "").toList 0
    let page := ((log.wanted q).filter (number "min_id" ≤ ·.id.toNat)).take (number "limit")
    ⟨200, Utf8.encode (Json.list (page.map LogEntry.toJson)).compact⟩
  fault? := fault?

lemma toldBy_teller (log : AuditLog) (q : LogQuery) (fault? : Nat → Option Failure) (c : Client)
    (limit : UInt64) : log.ToldBy (log.teller q fault?) c q limit := by
  intro start
  have hmin : (request c q limit start).query.lookup "min_id" = some (toString start.toNat) := rfl
  have hlimit : (request c q limit start).query.lookup "limit" = some (toString limit.toNat) := rfl
  refine ⟨rfl, ?_⟩
  simp only [teller, hmin, hlimit, Option.getD_some, Nat.toString_eq_ofList_toDigits,
    String.toList_ofList, Nat.ofDigitChars_ten_toDigits, page_eq]
  exact (LogEntry.readsBack_list _).1

/-- A change of an id and a kind. -/
def change (id : UInt64) (action : String) : LogEntry := ⟨id, 0, 1, action, none, none, none, none⟩

/-- A log of one change. -/
def single (id : UInt64) : AuditLog := ⟨[change id "added"], List.pairwise_singleton ..⟩

/-- A log of changes of two kinds, up to the greatest id but one. -/
def several : AuditLog where
  entries := [change 3 "added", change 7 "removed", change 9 "added",
    change 18446744073709551614 "added"]
  sorted := by decide

end AuditLog

namespace Session

variable {log : AuditLog} {s : Service} {c : Client} {q : LogQuery} {limit : UInt64}

/-! ### Pages of changes -/

/-- The changes on a page. -/
def readLogPage (a : Response) : Except ClientError (List LogEntry) :=
  match (Shape.list LogEntry.shape).read a.body with
  | some l => .ok l
  | none => .error .notJson

lemma fetchesBy_logPage (q : LogQuery) (limit : UInt64) (c : Client) :
    FetchesBy (logPage q limit) c (AuditLog.request c q limit) (readSuccess readLogPage) := by
  refine fetchesBy_succeed (fun _ _ => rfl) fun a net => ?_
  rw [parse, readLogPage]
  cases (Shape.list LogEntry.shape).read a.body <;> rfl

lemma readSuccess_of_toldBy (h : log.ToldBy s c q limit) (start : UInt64) :
    readSuccess readLogPage (s.respond (AuditLog.request c q limit start)) =
      .ok (log.page q limit start) := by
  obtain ⟨hsuccess, hbody⟩ := h start
  rw [readSuccess, if_pos hsuccess, readLogPage, hbody]

/-- Below the greatest id there is a next one. -/
lemma exists_afterLogPage {page : List LogEntry} (h : page ≠ [])
    (hid : (page.getLast h).id.toNat + 1 < UInt64.size) :
    ∃ start, afterLogPage page = .ok start ∧ start.toNat = (page.getLast h).id.toNat + 1 := by
  refine ⟨_, rfl, ?_⟩
  rw [List.getLast?_eq_some_getLast h]
  exact (UInt64.toNat_add _ 1).trans (Nat.mod_eq_of_lt hid)

/-- If no change that is wanted has the greatest id, all of them are on as many pages as they need,
and an empty page follows. -/
lemma exists_logPages (hlimit : 0 < limit)
    (hid : ∀ e ∈ log.wanted q, e.id.toNat + 1 < UInt64.size) :
    ∃ starts, Pages (log.page q limit) afterLogPage 0 starts (log.wanted q) ∧
      starts.length = (log.wanted q).length ⌈/⌉ limit.toNat + 1 ∧
      ∀ start ∈ starts, start = 0 ∨ ∃ e ∈ log.wanted q, start.toNat = e.id.toNat + 1 := by
  obtain ⟨starts, hpages, hlength, hstarts⟩ := exists_pages_of_sorted UInt64.toNat
    (log.sorted_wanted q) (UInt64.lt_iff_toNat_lt.1 hlimit)
    (fun page h hsub => exists_afterLogPage h (hid _ (hsub.subset (List.getLast_mem h)))) 0
  have hall : (log.wanted q).filter ((0 : UInt64).toNat ≤ ·.id.toNat) = log.wanted q :=
    List.filter_eq_self.2 fun _ _ => decide_eq_true (Nat.zero_le _)
  rw [hall] at hpages hlength
  refine ⟨starts, ?_, hlength, fun start h => (hstarts start h).1⟩
  rwa [funext (log.page_eq q limit)]

/-- If a change that is wanted has the greatest id, no page is empty. -/
lemma logPage_ne_nil (hlimit : 0 < limit) {e : LogEntry} (he : e ∈ log.wanted q)
    (hid : UInt64.size ≤ e.id.toNat + 1) (start : UInt64) : log.page q limit start ≠ [] := by
  have hstart : start.toNat ≤ e.id.toNat := by have := start.toNat_lt_size; omega
  rw [AuditLog.page_eq, ne_eq, List.take_eq_nil_iff, not_or]
  refine ⟨(UInt64.lt_iff_toNat_lt.1 hlimit).ne', List.ne_nil_of_mem (a := e) ?_⟩
  exact List.mem_filter.2 ⟨he, decide_eq_true hstart⟩

/-! ### The whole log -/

/-- If a change that is wanted has the greatest id, reading the log does not end. -/
lemma not_servedBy_listLogs (hs : s.Reachable c.settings.retry.policy)
    (hlimit : 0 < q.pageSize.getD c.settings.batchSize)
    (htold : log.ToldBy s c q (q.pageSize.getD c.settings.batchSize)) {e : LogEntry}
    (he : e ∈ log.wanted q) (hid : UInt64.size ≤ e.id.toNat + 1) :
    ¬ ∃ outcomes, (listLogs q (c.withOutcomes outcomes)).2.network.ServedBy s
      c.network.attempts.length := by
  rintro ⟨outcomes, hserved⟩
  exact (fetchesBy_logPage q _ c).not_servedBy (grows_logPage q _) hs Set.univ
    (fun start _ => readSuccess_of_toldBy htold start)
    (fun start _ => ⟨logPage_ne_nil hlimit he hid start, _, trivial, rfl⟩) trivial
    { c.network with outcomes } hserved

/-- From a reachable service that tells a log, all changes that are wanted are read, each once and
in the order of their ids, with as many requests as they need and one more; each request but the
first begins right after a change. There are outcomes with which reading ends exactly if no change
that is wanted has the greatest id that there is. -/
theorem listLogs_of_toldBy (log : AuditLog) (s : Service) (c : Client) (q : LogQuery)
    (hs : s.Reachable c.settings.retry.policy)
    (hlimit : 0 < q.pageSize.getD c.settings.batchSize)
    (htold : log.ToldBy s c q (q.pageSize.getD c.settings.batchSize)) :
    ((∃ outcomes, (listLogs q (c.withOutcomes outcomes)).2.network.ServedBy s
        c.network.attempts.length) ↔ ∀ e ∈ log.wanted q, e.id.toNat + 1 < UInt64.size) ∧
      ∀ outcomes, (listLogs q (c.withOutcomes outcomes)).2.network.ServedBy s
          c.network.attempts.length →
        (listLogs q (c.withOutcomes outcomes)).1 = .ok (log.wanted q) ∧
        ∃ starts : List UInt64,
          (listLogs q (c.withOutcomes outcomes)).2.network.answered c.network.attempts.length =
            starts.map (AuditLog.request c q (q.pageSize.getD c.settings.batchSize)) ∧
          starts.length =
            (log.wanted q).length ⌈/⌉ (q.pageSize.getD c.settings.batchSize).toNat + 1 ∧
          ∀ start ∈ starts, start = 0 ∨ ∃ e ∈ log.wanted q, start.toNat = e.id.toNat + 1 := by
  have hfetch := fetchesBy_logPage q (q.pageSize.getD c.settings.batchSize) c
  have hgrows := grows_logPage q (q.pageSize.getD c.settings.batchSize)
  have hread := readSuccess_of_toldBy htold
  have hends : (∃ outcomes, (listLogs q (c.withOutcomes outcomes)).2.network.ServedBy s
      c.network.attempts.length) ↔ ∀ e ∈ log.wanted q, e.id.toNat + 1 < UInt64.size := by
    refine ⟨fun hserved e he => ?_, fun hid => ?_⟩
    · by_contra hid
      exact not_servedBy_listLogs hs hlimit htold he (not_lt.1 hid) hserved
    · obtain ⟨starts, hpages, -, -⟩ := exists_logPages hlimit hid
      obtain ⟨script, hscript⟩ := hfetch.exists_script_paged (spends_logPage q _) afterLogPage
        hgrows hs hpages (fun start _ => hread start) c.network.attempts.length
      exact ⟨script, hscript { c.network with outcomes := script } rfl rfl⟩
  refine ⟨hends, fun outcomes hserved => ?_⟩
  obtain ⟨starts, hpages, hlength, hstarts⟩ := exists_logPages hlimit (hends.1 ⟨outcomes, hserved⟩)
  obtain ⟨hitems, hanswered⟩ := hfetch.paged_of_servedBy hgrows hs hpages
    (fun start _ => hread start) { c.network with outcomes } hserved
  exact ⟨hitems, starts, hanswered, hlength, hstarts⟩

/-- Three changes of one kind, read two at a time: from a service that the first attempt does not
reach, they are read with three requests, of which the last brings none. -/
theorem listLogs_of_toldBy_severalChanges :
    ∃ outcomes,
      (listLogs ⟨none, some "added", some 2⟩ (Client.withOutcomes
        (.ofSettings .standard (.fresh [] .unprepared)) outcomes)).1 =
          .ok [AuditLog.change 3 "added", AuditLog.change 9 "added",
            AuditLog.change 18446744073709551614 "added"] ∧
      ((listLogs ⟨none, some "added", some 2⟩ (Client.withOutcomes
        (.ofSettings .standard (.fresh [] .unprepared)) outcomes)).2.network.answered 0).length =
          3 := by
  let q : LogQuery := ⟨none, some "added", some 2⟩
  let c : Client := .ofSettings .standard (.fresh [] .unprepared)
  let log := AuditLog.several
  let s := log.teller q fun n => if n = 0 then some (.connect "refused") else none
  have hreachable : s.Reachable c.settings.retry.policy :=
    Service.reachable_of_one (f := .connect "refused") rfl (fun _ => rfl) (by decide)
  have hwanted : log.wanted q = [AuditLog.change 3 "added", AuditLog.change 9 "added",
      AuditLog.change 18446744073709551614 "added"] := by decide +kernel
  obtain ⟨hends, hall⟩ :=
    listLogs_of_toldBy log s c q hreachable (by decide) (log.toldBy_teller q _ c 2)
  obtain ⟨outcomes, hserved⟩ := hends.2 (by rw [hwanted]; decide)
  obtain ⟨hread, starts, hanswered, hlength, -⟩ := hall outcomes hserved
  rw [hwanted] at hread hlength
  refine ⟨outcomes, hread, (congrArg List.length hanswered).trans ?_⟩
  rw [List.length_map, hlength, Nat.ceilDiv_eq_add_pred_div]
  decide

/-- After a change with the greatest id the log is read from its beginning again, and so for
ever. -/
theorem listLogs_endless_greatestId :
    (AuditLog.single 18446744073709551615).ToldBy
        ((AuditLog.single 18446744073709551615).teller ⟨none, none, some 1⟩ fun _ => none)
        (.ofSettings .standard (.fresh [] .unprepared)) ⟨none, none, some 1⟩ 1 ∧
      ¬ ∃ outcomes, (listLogs ⟨none, none, some 1⟩ (Client.withOutcomes
          (.ofSettings .standard (.fresh [] .unprepared)) outcomes)).2.network.ServedBy
        ((AuditLog.single 18446744073709551615).teller ⟨none, none, some 1⟩ fun _ => none) 0 := by
  let log := AuditLog.single 18446744073709551615
  let q : LogQuery := ⟨none, none, some 1⟩
  let c : Client := .ofSettings .standard (.fresh [] .unprepared)
  have htold : log.ToldBy (log.teller q fun _ => none) c q 1 := log.toldBy_teller q _ c 1
  have hreachable : (log.teller q fun _ => none).Reachable c.settings.retry.policy := by
    constructor
    · intro n f h
      cases h
    · exact fun n => ⟨0, by decide, rfl⟩
  exact ⟨htold, not_servedBy_listLogs hreachable (by decide) htold
    (List.mem_singleton_self _) (by decide)⟩

end Session

end TagCatalog
