import Mathlib.Tactic
import TagCatalog.CommandLine.Run
import TagCatalog.Proofs.Session.Attempts
import TagCatalog.Proofs.Session.PageQueries

/-!
How deep a filter may nest.

* `Operator.IsAccepted`: a single search takes the filter.
* `Session.search_tooDeep_iff`, `Session.searchAll_tooDeep_iff`: which searches fail by the depth of
  their filter.
* `CommandLine.refusesDepth_search_iff`: the same for the searches of the command line.
* `Operator.IsAccepted.searchAll_iff`: of the filters that a single search takes, those that nest as
  deep as they may are refused when all images are wanted, and the others are sent.

The bound of the ids, with which a page begins, nests every filter one deeper
(`Session.fault?_pageQuery`).
-/

namespace TagCatalog

/-- Some search with the filter may be sent. -/
def Operator.IsAccepted (op : Operator) : Prop :=
  ∃ q : SearchQuery, q.operator = some op ∧ q.fault? = none

namespace SearchQuery

lemma maxDepth_lt_of_fault?_eq {q : SearchQuery} {depth : Nat}
    (h : q.fault? = some (.tooDeep depth)) : ∃ op ∈ q.operator, Operator.maxDepth < op.depth := by
  rw [fault?] at h
  split_ifs at h
  · cases h
  · cases h
  obtain ⟨_, hdeep, -⟩ := Option.map_eq_some_iff.1 h
  obtain ⟨op, hop, hdeep⟩ := Option.bind_eq_some_iff.1 hdeep
  by_contra! hle
  rw [Operator.tooDeep?.eq_def, if_neg (not_lt.2 (hle op hop))] at hdeep
  cases hdeep

end SearchQuery

namespace Session

open Operator

variable {filter : Option Operator} {select : List Selection}

/-! ### The errors of searches -/

/-- Errors of some kind that holds all that are not about a query: this passes to all operations. -/
lemma closed_fails {Fails : ClientError → Prop} (h : ∀ e, (∀ fault, e ≠ .query fault) → Fails e) :
    Closed (fun _ result => ∀ e, result.1 = .error e → Fails e) (fun _ _ => True) Fails where
  ok _ _ _ he := by cases he
  fail he _ _ he' := by cases he'; exact he
  answer _ _ e he := by
    rw [answer] at he
    split at he <;> cases he
    exact h _ fun _ h => by cases h
  trans _ h' := h'
  error h e he := h e (by cases he; rfl)
  fails := h _

lemma fails_listTags {Fails : ClientError → Prop}
    (h : ∀ e, (∀ fault, e ≠ .query fault) → Fails e) (c : Client) :
    ∀ e, (listTags c).1 = .error e → Fails e :=
  (closed_fails h).listTags trivial fun _ _ _ he => by cases he

/-- A single search fails by the depth of its filter exactly if the checks say so. -/
lemma search_tooDeep_iff {q : SearchQuery} {cancel : Cancellation} {c : Client} {depth : Nat} :
    (search q cancel c).1 = .error (.query (.tooDeep depth)) ↔
      q.fault? = some (.tooDeep depth) := by
  refine ⟨fun h => ?_, fun h => by rw [search, h]; rfl⟩
  have hother (e : ClientError) (h : ∀ fault, e ≠ .query fault) : e ≠ .query (.tooDeep depth) := h _
  by_contra hq
  refine (closed_fails hother).search (fun c _ _ => fails_listTags hother c) trivial
    (fun fault hfault he => ?_) cancel _ h rfl
  cases he
  exact hq hfault

/-- A filter that nests as deep as it may keeps the first page from being asked for. -/
lemma searchAll_of_maxDepth_le {op : Operator} (hop : maxDepth ≤ op.depth)
    {batch : Option UInt64} {c : Client} (hlimit : batch.getD c.settings.batchSize ≠ 0) :
    searchAll (some op) select batch c = (.error (.query (.tooDeep (op.depth + 1))), c) := by
  have hfault : (pageQuery (some op) select (batch.getD c.settings.batchSize) 0).fault? = _ :=
    fault?_pageQuery hlimit 0
  rw [Option.bind_some, if_pos hop] at hfault
  rw [searchAll, paged_eq_bind]
  refine bind_of_error ?_
  rw [searchPage]
  refine bind_of_error ?_
  rw [search, hfault]
  rfl

/-- A search for all images fails by the depth of its filter exactly if the filter nests as deep as
it may. -/
lemma searchAll_tooDeep_iff {batch : Option UInt64} {c : Client}
    (hlimit : batch.getD c.settings.batchSize ≠ 0) :
    (∃ depth, (searchAll filter select batch c).1 = .error (.query (.tooDeep depth))) ↔
      ∃ op ∈ filter, maxDepth ≤ op.depth := by
  refine ⟨fun ⟨depth, h⟩ => ?_, fun ⟨op, hop, hdepth⟩ => ?_⟩
  · have hother (e : ClientError) (h : ∀ fault, e ≠ .query fault) :
        e ≠ .query (.tooDeep depth) := h _
    by_contra! hfilter
    refine (closed_fails hother).searchAll (fun c _ _ => fails_listTags hother c)
      (fun _ _ => trivial) (fun start fault hfault => ?_) (fun he => by cases he) _ h rfl
    rw [fault?_pageQuery hlimit] at hfault
    cases filter with
    | none => cases hfault
    | some op => simp [not_le.2 (hfilter op rfl)] at hfault
  · cases hop
    exact ⟨_, congrArg Prod.fst (searchAll_of_maxDepth_le hdepth hlimit)⟩

/-- A search that may be sent is sent first. -/
lemma prefix_search {q : SearchQuery} (hq : q.fault? = none) (c : Client) :
    (answer (·.post "/api/search_images" q.toJson) .never c).2.network.attempts <+:
      (search q .never c).2.network.attempts := by
  rw [search, hq]
  refine (prefix_bind (fun a => ?_) c).trans (prefix_bind (fun a => ?_) c)
  · exact fun c => closed_grows.accept a
  · exact fun c => closed_grows.decodeResult (fun _ _ => grows_listTags c) a

/-- If the first page may be asked for, it is. -/
lemma head?_added_searchAll {batch : Option UInt64} {c : Client}
    (hq : (pageQuery filter select (batch.getD c.settings.batchSize) 0).fault? = none) :
    (c.added (searchAll filter select batch c).2).head?.map (·.request) =
      some (c.post "/api/search_images"
        (pageQuery filter select (batch.getD c.settings.batchSize) 0).toJson) := by
  refine head?_added (·.post "/api/search_images" _) ((prefix_search hq c).trans ?_)
  exact (prefix_bind (fun _ _ => List.prefix_rfl) c).trans
    (prefix_paged (grows_searchPage filter select _) 0 c)

end Session

namespace CommandLine

open Operator

namespace Task

variable {α β : Type} {c : Client}

/-- A task is given up because of how deep a filter nests. -/
def RefusesDepth (t : Task α) (c : Client) : Prop :=
  ∃ doing depth, (t c).1 = .error (.during doing (.client (.query (.tooDeep depth))))

lemma refusesDepth_congr {t t' : Task α} {c c' : Client} (h : t c = t' c') :
    t.RefusesDepth c ↔ t'.RefusesDepth c' := by rw [RefusesDepth, RefusesDepth, h]

lemma not_refusesDepth_pure (a : α) : ¬ (pure a : Task α).RefusesDepth c := by
  rintro ⟨_, _, h⟩
  cases h

/-- What is told plainly is not told with what was being done. -/
lemma not_refusesDepth_plainly (s : Session α) : ¬ (plainly s).RefusesDepth c := by
  rintro ⟨_, _, h⟩
  rw [plainly, session] at h
  split at h <;> cases h

lemma refusesDepth_doing {what : String} {s : Session α} :
    (doing what s).RefusesDepth c ↔ ∃ depth, (s c).1 = .error (.query (.tooDeep depth)) := by
  rw [RefusesDepth, doing, session]
  rcases s c with ⟨e | a, c'⟩ <;> simp

/-- If what follows does not give up for this reason, the first part decides. -/
lemma refusesDepth_bind {t : Task α} {f : α → Task β} (hf : ∀ a c, ¬ (f a).RefusesDepth c) :
    (t >>= f).RefusesDepth c ↔ t.RefusesDepth c := by
  have hbind : (t >>= f) c = ExceptT.bindCont f (t c).1 (t c).2 := rfl
  rw [RefusesDepth, RefusesDepth, hbind]
  rcases t c with ⟨e | a, c'⟩
  · have hfailed : ExceptT.bindCont f (.error e) c' = (.error e, c') := rfl
    simp only [hfailed, Except.error.injEq]
  · refine iff_of_false (hf a c') ?_
    rintro ⟨_, _, h⟩
    cases h

end Task

/-- What is printed of a result. -/
def shown (args : SearchArgs) (result : SearchResult) : Task Printed :=
  if args.json then return ⟨[result.toJson.pretty], []⟩
  else do
    let d ← if .tags ∈ args.select then Task.plainly Session.tagDictionary else pure ∅
    return ⟨result.lines d, [toString result.size ++ " result(s)"]⟩

/-- With arguments that describe a filter, there is one search, and its result is printed. -/
lemma exists_search_eq {args : SearchArgs} {filter : Option Operator}
    (hargs : args.filter = .ok filter) (c : Client) :
    ∃ c' : Client, c'.settings = c.settings ∧ search args c =
      ((if args.all then SearchResult.images <$> Task.doing "paging through search results"
          (Session.searchAll filter args.select none)
        else Task.doing "search failed" (Session.search (args.query filter) .never)) >>=
          shown args) c' := by
  rw [search, hargs]
  simp only [pure_bind]
  cases filter with
  | none =>
    refine ⟨c, rfl, ?_⟩
    cases args.all <;> rfl
  | some op =>
    let event : LogEvent := ⟨.info, "tagstorm", "searching", [("query", op.render)]⟩
    refine ⟨{ c with network := c.network.note event }, rfl, ?_⟩
    cases args.all <;> rfl

/-- What is printed of a result does not give a search up because of its filter. -/
lemma not_refusesDepth_shown (args : SearchArgs) (result : SearchResult) (c : Client) :
    ¬ (shown args result).RefusesDepth c := by
  rw [shown]
  split_ifs
  · exact Task.not_refusesDepth_pure _
  · rw [Task.refusesDepth_bind fun _ _ => Task.not_refusesDepth_pure _]
    exact Task.not_refusesDepth_plainly _
  · rw [Task.refusesDepth_bind fun _ _ => Task.not_refusesDepth_pure _]
    exact Task.not_refusesDepth_pure _

/-- A search from the command line is refused for the depth of its filter if the checks say so. -/
lemma refusesDepth_search_iff (args : SearchArgs) {filter : Option Operator}
    (hargs : args.filter = .ok filter) (hall : args.all = false) {c : Client} :
    (search args).RefusesDepth c ↔ ∃ depth, (args.query filter).fault? = some (.tooDeep depth) := by
  obtain ⟨c', -, hsearch⟩ := exists_search_eq hargs c
  rw [hall, if_neg Bool.false_ne_true] at hsearch
  rw [Task.refusesDepth_congr hsearch, Task.refusesDepth_bind (not_refusesDepth_shown args),
    Task.refusesDepth_doing]
  simp only [Session.search_tooDeep_iff]

/-- If all images are wanted, it is refused because of a filter that nests as deep as it may. -/
lemma refusesDepth_search_iff_of_all (args : SearchArgs) {filter : Option Operator}
    (hargs : args.filter = .ok filter) (hall : args.all = true) {c : Client}
    (hbatch : c.settings.batchSize ≠ 0) :
    (search args).RefusesDepth c ↔ ∃ op ∈ filter, maxDepth ≤ op.depth := by
  obtain ⟨c', hsettings, hsearch⟩ := exists_search_eq hargs c
  rw [hall, if_pos rfl] at hsearch
  rw [Task.refusesDepth_congr hsearch, Task.refusesDepth_bind (not_refusesDepth_shown args),
    map_eq_pure_bind, Task.refusesDepth_bind fun _ _ => Task.not_refusesDepth_pure _,
    Task.refusesDepth_doing, Session.searchAll_tooDeep_iff (by rwa [hsettings])]

end CommandLine

/-! ### The deepest filters -/

namespace Operator

open Session CommandLine

/-- A filter is taken with some search exactly if it does not nest too deep. -/
lemma isAccepted_iff {op : Operator} : op.IsAccepted ↔ op.depth ≤ maxDepth := by
  refine ⟨fun ⟨q, hop, hq⟩ => SearchQuery.depth_le_of_fault?_eq_none hop hq, fun hdepth => ?_⟩
  refine ⟨⟨[.id], none, none, some op⟩, rfl, ?_⟩
  rw [SearchQuery.fault?_eq (by simp) (by simp)]
  simp [tooDeep?, not_lt.2 hdepth]

/-- Of the filters that a single search takes, those that nest as deep as they may are refused
unsent when all images are wanted, in the program and on the command line; for all others the first
page is asked for, and none is refused for the depth of its filter. -/
theorem IsAccepted.searchAll_iff {op : Operator} (hop : op.IsAccepted) (c : Client) :
    (∀ select batch, 0 < batch.getD c.settings.batchSize →
      if op.depth < maxDepth then
        (c.added (searchAll (some op) select batch c).2).head?.map (·.request) =
            some (c.post "/api/search_images" (pageQuery (some op) select
              (batch.getD c.settings.batchSize) 0).toJson) ∧
          ∀ depth, (searchAll (some op) select batch c).1 ≠ .error (.query (.tooDeep depth))
      else searchAll (some op) select batch c = (.error (.query (.tooDeep (maxDepth + 1))), c)) ∧
    ∀ args : SearchArgs, args.filter = .ok (some op) → 0 < c.settings.batchSize →
      ¬ (CommandLine.search { args with all := false }).RefusesDepth c ∧
        ((CommandLine.search { args with all := true }).RefusesDepth c ↔ op.depth = maxDepth) := by
  have hle := isAccepted_iff.1 hop
  refine ⟨fun select batch hbatch => ?_, fun args hargs hbatch => ⟨?_, ?_⟩⟩
  · have hlimit : batch.getD c.settings.batchSize ≠ 0 := UInt64.pos_iff_ne_zero.1 hbatch
    split_ifs with hlt
    · have hroom : ∀ op' ∈ some op, op'.depth < maxDepth := by
        rintro _ ⟨⟩
        exact hlt
      refine ⟨head?_added_searchAll (fault?_pageQuery_eq_none hlimit hroom 0), fun depth h => ?_⟩
      obtain ⟨op', hop', hmax⟩ := (searchAll_tooDeep_iff hlimit).1 ⟨depth, h⟩
      exact absurd hmax (not_le.2 (hroom op' hop'))
    · rw [searchAll_of_maxDepth_le (not_lt.1 hlt) hlimit, hle.antisymm (not_lt.1 hlt)]
  · rw [refusesDepth_search_iff { args with all := false } hargs rfl]
    rintro ⟨depth, hfault⟩
    obtain ⟨_, hsome, hlt⟩ := SearchQuery.maxDepth_lt_of_fault?_eq hfault
    cases hsome
    exact absurd hlt (not_lt.2 hle)
  · rw [refusesDepth_search_iff_of_all { args with all := true } hargs rfl
      (UInt64.pos_iff_ne_zero.1 hbatch)]
    simp [le_antisymm_iff, hle]

/-- Seventeen tags nest as deep as a filter may, so a search for them is refused only if all images
are wanted. -/
theorem IsAccepted.searchAll_iff_seventeenTags :
    ∃ op : Operator, op.IsAccepted ∧ ∃ args : SearchArgs, args.filter = .ok (some op) ∧
      args.tags.length = 17 ∧
      ¬ (CommandLine.search { args with all := false }).RefusesDepth
        (.ofSettings .standard (.fresh [] .unprepared)) ∧
      (CommandLine.search { args with all := true }).RefusesDepth
        (.ofSettings .standard (.fresh [] .unprepared)) := by
  let args : SearchArgs :=
    ⟨List.replicate 17 1, [], [], none, none, [.id], .id, none, false, false⟩
  obtain ⟨op, hall, hdepth⟩ :
      ∃ op, allOf (List.replicate 17 (.tag 1)) = some op ∧ op.depth = maxDepth := by
    simp only [allOf, List.replicate, balanced, pairUp, Option.some.injEq, exists_eq_left']
    rfl
  have hargs : args.filter = .ok (some op) := hall ▸ rfl
  have hop : op.IsAccepted := isAccepted_iff.2 hdepth.le
  obtain ⟨hsingle, hpaged⟩ :=
    (hop.searchAll_iff (.ofSettings .standard (.fresh [] .unprepared))).2 args hargs (by decide)
  exact ⟨op, hop, args, hargs, rfl, hsingle, hpaged.2 hdepth⟩

/-- Five negations may be sent with a search, and yet keep a search for all images from being
sent. -/
theorem searchAll_refuses_fiveNegations :
    (not^[5] (.tag 1)).IsAccepted ∧
      searchAll (some (not^[5] (.tag 1))) [.id] (some 1)
          (.ofSettings .standard (.fresh [] .unprepared)) =
        (.error (.query (.tooDeep 6)), .ofSettings .standard (.fresh [] .unprepared)) :=
  ⟨isAccepted_iff.2 le_rfl, searchAll_of_maxDepth_le le_rfl (by decide)⟩

end Operator

end TagCatalog
