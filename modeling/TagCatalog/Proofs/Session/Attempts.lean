import Mathlib.Tactic
import TagCatalog.Proofs.Exchange.Burst
import TagCatalog.Proofs.Session.Closure

/-!
The attempts that an operation of a client makes.

* `Client.added`: the attempts that lead from one client to another.
* `Session.exists_burst_answer`: those of one request.
* `Session.closed_grows`: no operation takes an attempt back, so that a first operation or a first
  page makes its attempts whatever follows.
-/

namespace TagCatalog

namespace Client

/-- The attempts that lead from one client to another. -/
def added (c c' : Client) : List Attempt :=
  c'.network.attempts.drop c.network.attempts.length

lemma added_eq {c c' : Client} {l : List Attempt}
    (h : c'.network.attempts = c.network.attempts ++ l) : c.added c' = l := by
  rw [added, h, List.drop_left]

lemma added_self (c : Client) : c.added c = [] := List.drop_length

end Client

namespace Session

variable {α β κ : Type}

/-- An operation takes no attempt back. -/
def Grows (s : Session α) : Prop := ∀ c, c.network.attempts <+: (s c).2.network.attempts

/-- One request changes the network alone, to the attempts of which it adds one burst. -/
lemma exists_burst_answer (build : Client → Request) (cancel : Cancellation) (c : Client) :
    ∃ result l net, Burst (build c) l result ∧
      answer build cancel c = (result.mapError .unsent, { c with network := net }) ∧
      net.attempts = c.network.attempts ++ l ∧
      (cancel.fired 0 c.network.now = false → l ≠ []) := by
  obtain ⟨l, hburst, hl, hne⟩ :=
    c.network.exists_burst_send c.settings.retry.policy cancel (build c)
  refine ⟨_, l, _, hburst, ?_, hl, hne⟩
  rw [answer]
  rcases c.network.send c.settings.retry.policy cancel (build c) with ⟨e | a, net⟩ <;> rfl

/-- No operation takes an attempt back: this passes to all operations. -/
lemma closed_grows : Closed (fun c result => c.network.attempts <+: result.2.network.attempts)
    (fun _ _ => True) (fun _ => True) where
  ok _ _ := List.prefix_rfl
  fail _ _ := List.prefix_rfl
  answer _ cancel := by
    obtain ⟨_, l, net, -, hanswer, hl, -⟩ := exists_burst_answer _ cancel _
    rw [hanswer]
    exact hl ▸ List.prefix_append ..
  trans h h' := h.trans h'
  error h := h
  fails _ := trivial

lemma grows_listTags : Grows listTags := fun _ =>
  closed_grows.listTags trivial fun _ _ => List.prefix_rfl

lemma grows_search (q : SearchQuery) (cancel : Cancellation) : Grows (search q cancel) := fun _ =>
  closed_grows.search (fun c _ _ => grows_listTags c) trivial (fun _ _ => trivial) cancel

lemma grows_searchPage (filter : Option Operator) (select : List Selection)
    (limit start : UInt64) : Grows (searchPage filter select limit start) := fun c =>
  closed_grows.map _ (grows_search _ .never c)

lemma grows_logPage (q : LogQuery) (limit start : UInt64) : Grows (logPage q limit start) :=
  fun _ => closed_grows.logPage trivial

lemma grows_paged {fetch : κ → Session (List α)} {spends : ∀ k, Spends (fetch k)}
    {next : List α → Except ClientError κ} (hfetch : ∀ k, Grows (fetch k)) (k : κ) :
    Grows (paged fetch spends next k) := fun _ =>
  closed_grows.paged hfetch (fun _ _ _ => trivial) k

/-! ### One operation after another -/

/-- A first operation makes its attempts, whatever follows. -/
lemma prefix_bind {s : Session α} {f : α → Session β} (hf : ∀ a, Grows (f a)) (c : Client) :
    (s c).2.network.attempts <+: ((s >>= f) c).2.network.attempts := by
  rcases h : s c with ⟨e | a, c'⟩
  · rw [bind_of_error h]
  · rw [bind_of_ok h]
    exact hf a c'

/-- The first page is fetched, whatever follows. -/
lemma prefix_paged {fetch : κ → Session (List α)} {spends : ∀ k, Spends (fetch k)}
    {next : List α → Except ClientError κ} (hfetch : ∀ k, Grows (fetch k)) (k : κ) (c : Client) :
    (fetch k c).2.network.attempts <+: (paged fetch spends next k c).2.network.attempts := by
  rw [paged_eq_bind]
  refine prefix_bind (fun page c => ?_) c
  match page with
  | [] => exact List.prefix_rfl
  | a :: l =>
    dsimp only
    cases next (a :: l) with
    | error e => exact List.prefix_rfl
    | ok k' => exact closed_grows.map _ (grows_paged hfetch k' c)

/-- An operation that begins with a request makes its first attempt at it. -/
lemma head?_added {s : Session α} (build : Client → Request) {c : Client}
    (h : (answer build .never c).2.network.attempts <+: (s c).2.network.attempts) :
    (c.added (s c).2).head?.map (·.request) = some (build c) := by
  obtain ⟨_, l, net, hburst, hanswer, hl, hne⟩ := exists_burst_answer build .never c
  rw [hanswer] at h
  obtain ⟨l', hl'⟩ := h
  obtain ⟨a, l, rfl⟩ := List.exists_cons_of_ne_nil (hne rfl)
  rw [Client.added_eq (l := a :: l ++ l') (by rw [← hl', hl, List.append_assoc])]
  exact congrArg some (hburst.request_eq a (List.mem_cons_self ..))

end Session

end TagCatalog
