import Mathlib.Tactic
import TagCatalog.Session.Images
import TagCatalog.Session.Logs
import TagCatalog.Session.Search

/-!
Properties that pass from the smallest operations of a client to all others.

* `Session.paged_eq_bind`: fetching page after page as one operation after another.
* `Session.Closed`: a property that holds of the smallest operations, of a request that may be sent
  and an error that may be told, and of one operation after another.
* `Closed.lookup`, `Closed.mutate`, `Closed.search`, `Closed.paged`, up to `Closed.searchAll` and
  `Closed.listLogs`.

What attempts are made, how operations fail and what a client knows afterwards are such properties,
so that each is shown once for a request and then holds of every operation.
-/

namespace TagCatalog.Session

variable {α β κ : Type}

/-! ### One operation after another -/

lemma bind_of_ok {s : Session α} {f : α → Session β} {c c' : Client} {a : α}
    (h : s c = (.ok a, c')) : (s >>= f) c = f a c' := by rw [bind_apply, h]

/-- A first operation that fails is the last. -/
lemma bind_of_error {s : Session α} {f : α → Session β} {c c' : Client} {e : ClientError}
    (h : s c = (.error e, c')) : (s >>= f) c = (.error e, c') := by rw [bind_apply, h]

/-- What becomes of an answer does not matter to the client. -/
lemma map_apply (g : α → β) (s : Session α) (c : Client) :
    (g <$> s) c = ((s c).1.map g, (s c).2) := by
  rw [map_eq_pure_bind, bind_apply]
  rcases s c with ⟨a | a, c'⟩ <;> rfl

/-- Fetching page after page is fetching the first one and then the others, if it leads to any. -/
lemma paged_eq_bind (fetch : κ → Session (List α)) (spends : ∀ k, Spends (fetch k))
    (next : List α → Except ClientError κ) (k : κ) :
    paged fetch spends next k = (fetch k >>= fun page => match page with
      | [] => pure []
      | a :: l => match next (a :: l) with
        | .error e => fail e
        | .ok k' => (a :: l ++ ·) <$> (paged fetch spends next k' : Session (List α)) :
      Session (List α)) := by
  funext c
  rw [paged]
  split
  next hfirst => rw [bind_of_error hfirst]
  next hfirst => rw [bind_of_ok hfirst]; rfl
  next a l c' hfirst =>
    rw [bind_of_ok hfirst]
    dsimp only
    split
    next e he => rw [he]; rfl
    next k' hk' =>
      rw [hk']
      dsimp only
      rw [map_apply]
      split
      next hrest => rw [hrest]; rfl
      next hrest => rw [hrest]; rfl

/-! ### Closed properties -/

/-- A property of what comes of an operation at a client. It holds of the smallest operations, if
what they send and the errors that they tell are of some kind, which all errors are that are not
about a query, and it passes from two operations to one after the other. -/
structure Closed (P : {α : Type} → Client → Except ClientError α × Client → Prop)
    (Sends : Client → Request → Prop) (Fails : ClientError → Prop) : Prop where
  ok {α : Type} (a : α) (c : Client) : P c (.ok a, c)
  fail {α : Type} {e : ClientError} (he : Fails e) (c : Client) :
    P c ((.error e : Except ClientError α), c)
  answer {build : Client → Request} {c : Client} (h : Sends c (build c)) (cancel : Cancellation) :
    P c (answer build cancel c)
  trans {α β : Type} {c c' : Client} {a : α} {result : Except ClientError β × Client}
    (h : P c (.ok a, c')) (h' : P c' result) : P c result
  error {α β : Type} {c c' : Client} {e : ClientError}
    (h : P c ((.error e : Except ClientError α), c')) :
    P c ((.error e : Except ClientError β), c')
  fails {e : ClientError} (h : ∀ fault, e ≠ .query fault) : Fails e

namespace Closed

variable {P : {α : Type} → Client → Except ClientError α × Client → Prop}
  {Sends : Client → Request → Prop} {Fails : ClientError → Prop} (hP : Closed P Sends Fails)
  {c : Client}

include hP

lemma bind {s : Session α} {f : α → Session β} (hs : P c (s c))
    (hf : ∀ a c', s c = (.ok a, c') → P c' (f a c')) : P c ((s >>= f) c) := by
  rcases h : s c with ⟨e | a, c'⟩
  · rw [bind_of_error h]
    rw [h] at hs
    exact hP.error hs
  · rw [bind_of_ok h]
    rw [h] at hs
    exact hP.trans hs (hf a c' h)

/-- What becomes of an answer does not matter. -/
lemma map (g : α → β) {s : Session α} (hs : P c (s c)) : P c ((g <$> s) c) := by
  rw [map_eq_pure_bind]
  exact hP.bind hs fun a c' _ => hP.ok (g a) c'

lemma accept (a : Response) : P c (Session.accept a c) := by
  rw [Session.accept]
  split
  · exact hP.ok a c
  · exact hP.fail (hP.fails fun _ h => by cases h) c

lemma succeed {build : Client → Request} (h : Sends c (build c)) (cancel : Cancellation) :
    P c (Session.succeed build cancel c) :=
  hP.bind (hP.answer h cancel) fun a _ _ => hP.accept a

lemma parse (shape : Shape α) (a : Response) : P c (Session.parse shape a c) := by
  rw [Session.parse]
  cases shape.read a.body with
  | some v => exact hP.ok v c
  | none => exact hP.fail (hP.fails fun _ h => by cases h) c

lemma lookup (shape : Shape α) {path : String} (h : Sends c (c.get path)) :
    P c (Session.lookup shape path c) := by
  refine hP.bind (hP.answer h .never) fun a c' _ => ?_
  split
  · exact hP.ok _ c'
  · exact hP.bind (hP.accept a) fun b _ _ => hP.bind (hP.parse shape b) fun _ c' _ => hP.ok _ c'

lemma mutate {path : String} {body : Client → Json} (h : Sends c (c.post path (body c))) :
    P c (Session.mutate path body c) := by
  refine hP.bind (hP.answer h .never) fun a c' _ => ?_
  split
  · exact hP.ok _ c'
  · exact hP.bind (hP.accept a) fun _ c' _ => hP.ok _ c'

lemma fetchImage {hash : ImageHash} {size : Option UInt32}
    (h : Sends c { c.get ("/images/" ++ hash.toHex) with
      query := size.toList.map fun n => ("size", toString n.toNat) }) :
    P c (Session.fetchImage hash size c) := by
  refine hP.bind (hP.answer h .never) fun a c' _ => ?_
  split
  · exact hP.ok _ c'
  · exact hP.bind (hP.accept a) fun _ c' _ => hP.ok _ c'

/-! ### Pages -/

/-- Page after page, if each page is fetched so. -/
lemma paged {fetch : κ → Session (List α)} {spends : ∀ k, Spends (fetch k)}
    {next : List α → Except ClientError κ} (hfetch : ∀ k c, P c (fetch k c))
    (hnext : ∀ l e, next l = .error e → Fails e) (k : κ) :
    P c (Session.paged fetch spends next k c) := by
  -- on the outcomes that are left, of which every page uses one up
  induction hn : outcomesLeft c using Nat.strong_induction_on generalizing k c with
  | _ n ih =>
    subst hn
    rw [paged_eq_bind]
    refine hP.bind (hfetch k c) fun page c' hfirst => ?_
    match page, hfirst with
    | [], _ => exact hP.ok [] c'
    | a :: l, hfirst =>
      have hlt := spends k c _ c' hfirst
      dsimp only
      cases he : next (a :: l) with
      | error e => exact hP.fail (hnext _ e he) c'
      | ok k' => exact hP.map _ (ih _ hlt k' rfl)

lemma logPage {q : LogQuery} {limit start : UInt64}
    (h : Sends c { c.get "/api/logs" with query := q.pairs limit start }) :
    P c (Session.logPage q limit start c) :=
  hP.bind (hP.succeed h .never) fun a _ _ => hP.parse _ a

lemma listLogs {q : LogQuery} (h : ∀ c limit start,
      Sends c { c.get "/api/logs" with query := q.pairs limit start }) :
    P c (Session.listLogs q c) :=
  hP.paged (fun start c => hP.logPage (h c _ start)) (fun _ _ he => by cases he) 0

/-! ### Searches -/

/-- All tags, if keeping their names is of no harm. -/
lemma listTags (h : Sends c (c.get "/api/tags"))
    (hkeep : ∀ tags c, P c (.ok tags, { c with tags := dictionaryOfTags tags })) :
    P c (Session.listTags c) :=
  hP.bind (hP.succeed h .never) fun a _ _ => hP.bind (hP.parse _ a) fun tags c _ => hkeep tags c

/-- The names of tags, if the tags are fetched so when no names are known. -/
lemma tagDictionary (htags : c.tags.isEmpty = true → P c (Session.listTags c)) :
    P c (Session.tagDictionary c) := by
  refine hP.bind (hP.ok c c) fun c' c'' hget => ?_
  cases hget
  split
  next hempty =>
    exact hP.bind (htags hempty) fun _ c' _ => hP.bind (hP.ok c' c') fun _ c' _ => hP.ok _ c'
  next => exact hP.ok _ _

/-- The result in an answer, if the tags are fetched so when they are needed. -/
lemma decodeResult
    (htags : c.settings.wireFormat = .table → c.tags.isEmpty = true → P c (Session.listTags c))
    (a : Response) : P c (Session.decodeResult a c) := by
  refine hP.bind (hP.ok c c) fun c' c'' hget => ?_
  cases hget
  refine hP.bind ?_ fun dict c' _ => ?_
  · cases hformat : c.settings.wireFormat with
    | flat => exact hP.ok _ _
    | table => exact hP.tagDictionary (htags hformat)
  · cases WireFormat.decode _ dict a.body with
    | ok r => exact hP.ok r c'
    | error e => exact hP.fail (hP.fails fun _ h => by cases h) c'

/-- A search that is sent, or is not sent and tells why. -/
lemma search (htags : ∀ c : Client, c.settings.wireFormat = .table → c.tags.isEmpty = true →
      P c (Session.listTags c)) {q : SearchQuery}
    (h : Sends c (c.post "/api/search_images" q.toJson))
    (hfault : ∀ fault, q.fault? = some fault → Fails (.query fault)) (cancel : Cancellation) :
    P c (Session.search q cancel c) := by
  rw [Session.search]
  cases hq : q.fault? with
  | some fault => exact hP.fail (hfault fault hq) c
  | none => exact hP.bind (hP.succeed h cancel) fun a c' _ => hP.decodeResult (htags c') a

lemma searchAll (htags : ∀ c : Client, c.settings.wireFormat = .table → c.tags.isEmpty = true →
      P c (Session.listTags c)) {filter : Option Operator} {select : List Selection}
    {batch : Option UInt64}
    (h : ∀ c q, Sends c (c.post "/api/search_images" (SearchQuery.toJson q)))
    (hfault : ∀ start fault, (pageQuery filter select (batch.getD c.settings.batchSize)
      start).fault? = some fault → Fails (.query fault))
    (hids : Fails (.query .pageWithoutIds)) : P c (Session.searchAll filter select batch c) := by
  refine hP.paged (fun start c => hP.map _ (hP.search htags (h c _) (hfault start) .never))
    (fun l e he => ?_) 0
  rw [afterPage] at he
  split at he <;> cases he
  exact hids

end Closed

end TagCatalog.Session
