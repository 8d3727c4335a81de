import Mathlib.Algebra.Order.Floor.Div
import Mathlib.Tactic
import TagCatalog.Proofs.Exchange.Serving
import TagCatalog.Proofs.Session.Attempts

/-!
Lists that a service gives page by page.

* `Session.FetchesBy`: a page is fetched with one request, whose answer alone tells the page.
* `Pages`: the starts of the pages that are asked for, up to the first empty page, and all that the
  pages hold.
* `FetchesBy.paged_of_servedBy`, `FetchesBy.exists_script_paged`: behind which there is a reachable
  service that answers so, fetching page after page gives all that the pages hold.
* `FetchesBy.not_servedBy`: if the pages go on for ever, so does the fetching.
* `exists_pages_of_sorted`: the pages of a sorted list, each from one above the last key of the page
  before.

Two inductions carry this. Along the pages, the attempts at the first page come before all others
(`prefix_paged`), so that a service which gives all that was fetched gives the first page as well
(`FetchesBy.first_of_servedBy`). Along a sorted list, the items from above the last key of a page on
are those after the page (`filter_from_next`), so that none is read twice or left out.
-/

namespace TagCatalog

/-- From a start on: the starts of the pages up to the first empty one, and all that is on them. -/
inductive Pages {α κ : Type} (page : κ → List α) (next : List α → Except ClientError κ) :
    κ → List κ → List α → Prop
  /-- The page is empty. -/
  | last {k : κ} (h : page k = []) : Pages page next k [k] []
  /-- The page tells where the one after it begins. -/
  | more {k k' : κ} {ks : List κ} {rest : List α} (h : page k ≠ [])
      (hnext : next (page k) = .ok k') (hrest : Pages page next k' ks rest) :
      Pages page next k (k :: ks) (page k ++ rest)

/-- A client whose attempts to come have given outcomes. -/
def Client.withOutcomes (c : Client) (outcomes : List (Except Failure Response)) : Client :=
  { c with network := { c.network with outcomes } }

namespace Session

variable {α κ : Type}

/-- A page is fetched for a client with one request, and is read off the answer. -/
def FetchesBy (fetch : κ → Session (List α)) (c : Client) (request : κ → Request)
    (read : Response → Except ClientError (List α)) : Prop :=
  ∀ k net, fetch k { c with network := net } =
    match net.send c.settings.retry.policy .never (request k) with
    | (.ok a, net) => (read a, { c with network := net })
    | (.error e, net) => (.error (.unsent e), { c with network := net })

variable {fetch : κ → Session (List α)} {spends : ∀ k, Spends (fetch k)}
  {next : List α → Except ClientError κ} {c : Client} {request : κ → Request}
  {read : Response → Except ClientError (List α)} {page : κ → List α} {s : Service}

/-! ### Page after page -/

/-- If the first page is empty, this is the end. -/
lemma paged_of_nil {k : κ} {c c' : Client} (h : fetch k c = (.ok [], c')) :
    paged fetch spends next k c = (.ok [], c') := by
  rw [paged_eq_bind, bind_of_ok h]
  rfl

/-- Otherwise the other pages follow the first one. -/
lemma paged_of_next {k k' : κ} {c c' : Client} {l : List α} (h : fetch k c = (.ok l, c'))
    (hl : l ≠ []) (hnext : next l = .ok k') :
    paged fetch spends next k c = ((paged fetch spends next k' c').1.map (l ++ ·),
      (paged fetch spends next k' c').2) := by
  obtain ⟨a, l, rfl⟩ := List.exists_cons_of_ne_nil hl
  rw [paged_eq_bind, bind_of_ok h]
  dsimp only
  rw [hnext]
  exact map_apply ..

/-! ### Pages that a service gives -/

/-- Fetching a page changes the network alone. -/
lemma FetchesBy.exists_network (hfetch : FetchesBy fetch c request read) (k : κ) (net : Network) :
    ∃ result net', fetch k { c with network := net } = (result, { c with network := net' }) ∧
      net' = (net.send c.settings.retry.policy .never (request k)).2 := by
  rw [hfetch k net]
  split
  next a net' h => exact ⟨read a, net', rfl, by rw [h]⟩
  next e net' h => exact ⟨.error (.unsent e), net', rfl, by rw [h]⟩

/-- What is read off the answer to a request that has to succeed. -/
def readSuccess (read : Response → Except ClientError (List α)) (a : Response) :
    Except ClientError (List α) :=
  if a.isSuccess then read a else .error (.remote a.status a.text)

/-- A request that has to succeed fetches a page if what follows leaves the client alone. -/
lemma fetchesBy_succeed {build : κ → Client → Request} {f : Response → Session (List α)}
    (hbuild : ∀ k net, build k { c with network := net } = request k)
    (hf : ∀ a net, f a { c with network := net } = (read a, { c with network := net })) :
    FetchesBy (fun k => succeed (build k) .never >>= f) c request (readSuccess read) := by
  intro k net
  dsimp only
  rw [succeed, bind_assoc, bind_apply, answer, hbuild]
  rcases net.send c.settings.retry.policy .never (request k) with ⟨e | a, net'⟩
  · rfl
  · dsimp only
    rw [accept, readSuccess]
    split_ifs
    · exact (congrFun (pure_bind a f) _).trans (hf a net')
    · rfl

/-- Behind which there is a reachable service, a page is fetched as the service gives it. -/
lemma FetchesBy.of_servedBy (hfetch : FetchesBy fetch c request read)
    (hs : s.Reachable c.settings.retry.policy) {k : κ} {net net' : Network}
    (hnet' : net' = (net.send c.settings.retry.policy .never (request k)).2)
    (hread : read (s.respond (request k)) = .ok (page k))
    (hserved : net'.ServedBy s net.attempts.length) :
    fetch k { c with network := net } = (.ok (page k), { c with network := net' }) ∧
      net'.answered net.attempts.length = [request k] := by
  subst hnet'
  have hanswer := Network.send_of_servedBy hs hserved
  refine ⟨?_, Network.answered_send hanswer⟩
  have hsend : net.send c.settings.retry.policy .never (request k) =
      (.ok (s.respond (request k)), (net.send c.settings.retry.policy .never (request k)).2) :=
    Prod.ext hanswer rfl
  rw [hfetch, hsend]
  exact congrArg (·, _) hread

/-- The first page of several is fetched as a reachable service gives it. -/
lemma FetchesBy.first_of_servedBy (hfetch : FetchesBy fetch c request read)
    (hgrows : ∀ k, Grows (fetch k)) (hs : s.Reachable c.settings.retry.policy) {k : κ}
    {net : Network} (hread : read (s.respond (request k)) = .ok (page k))
    (hserved : (paged fetch spends next k { c with network := net }).2.network.ServedBy s
      net.attempts.length) :
    ∃ net', fetch k { c with network := net } = (.ok (page k), { c with network := net' }) ∧
      net'.answered net.attempts.length = [request k] ∧ net.attempts <+: net'.attempts := by
  obtain ⟨result, net', hpage, hnet'⟩ := hfetch.exists_network k net
  have hkept := hgrows k { c with network := net }
  have hfirst : (fetch k { c with network := net }).2.network.attempts <+:
      (paged fetch spends next k { c with network := net }).2.network.attempts :=
    prefix_paged hgrows k _
  rw [hpage] at hkept hfirst
  obtain ⟨hpage, hanswered⟩ := hfetch.of_servedBy hs hnet' hread (hserved.of_kept hfirst)
  exact ⟨net', hpage, hanswered, hkept⟩

/-- Behind which there is a reachable service that gives certain pages, fetching page after page
gives all that is on them, and just they were asked for. -/
theorem FetchesBy.paged_of_servedBy (hfetch : FetchesBy fetch c request read)
    (hgrows : ∀ k, Grows (fetch k)) (hs : s.Reachable c.settings.retry.policy) {k : κ}
    {ks : List κ} {items : List α} (hpages : Pages page next k ks items)
    (hread : ∀ k ∈ ks, read (s.respond (request k)) = .ok (page k)) (net : Network)
    (hserved : (paged fetch spends next k { c with network := net }).2.network.ServedBy s
      net.attempts.length) :
    (paged fetch spends next k { c with network := net }).1 = .ok items ∧
      (paged fetch spends next k { c with network := net }).2.network.answered
        net.attempts.length = ks.map request := by
  induction hpages generalizing net with
  | @last k h =>
    obtain ⟨net', hpage, hanswered, -⟩ :=
      hfetch.first_of_servedBy hgrows hs (hread k (by simp)) hserved
    rw [h] at hpage
    rw [paged_of_nil hpage]
    exact ⟨rfl, hanswered⟩
  | @more k k' ks rest h hnext hrest ih =>
    rw [List.forall_mem_cons] at hread
    obtain ⟨net', hpage, hanswered, hkept⟩ := hfetch.first_of_servedBy hgrows hs hread.1 hserved
    rw [paged_of_next hpage h hnext] at hserved ⊢
    obtain ⟨hitems, hstarts⟩ := ih hread.2 net' (hserved.mono hkept.length_le)
    dsimp only
    rw [hitems, Network.answered_eq_append hkept.length_le
      (grows_paged hgrows k' { c with network := net' }), hanswered, hstarts]
    exact ⟨rfl, rfl⟩

variable (spends next) in
/-- Some outcomes are those that a reachable service gives while page after page is fetched. -/
theorem FetchesBy.exists_script_paged (hfetch : FetchesBy fetch c request read)
    (hgrows : ∀ k, Grows (fetch k)) (hs : s.Reachable c.settings.retry.policy) {k : κ}
    {ks : List κ} {items : List α} (hpages : Pages page next k ks items)
    (hread : ∀ k ∈ ks, read (s.respond (request k)) = .ok (page k)) (n : Nat) :
    ∃ script, ∀ net : Network, net.attempts.length = n → net.outcomes = script →
      (paged fetch spends next k { c with network := net }).2.network.ServedBy s n := by
  suffices h : ∃ script, ∀ net : Network, net.attempts.length = n → ∀ rest,
      net.outcomes = script ++ rest →
        (paged fetch spends next k { c with network := net }).2.network.ServedBy s n by
    obtain ⟨script, h⟩ := h
    exact ⟨script, fun net hn houtcomes => h net hn [] (by rw [houtcomes, List.append_nil])⟩
  induction hpages generalizing n with
  | @last k h =>
    obtain ⟨script, hscript⟩ := Network.exists_script hs n (request k)
    refine ⟨script, fun net hn rest hrest => ?_⟩
    obtain ⟨hserved, -, -⟩ := hscript net hn rest hrest
    subst hn
    obtain ⟨hpage, -⟩ := hfetch.of_servedBy hs rfl (hread k (by simp)) hserved
    rw [h] at hpage
    rw [paged_of_nil hpage]
    exact hserved
  | @more k k' ks items h hnext _ ih =>
    rw [List.forall_mem_cons] at hread
    obtain ⟨script, hscript⟩ := Network.exists_script hs n (request k)
    obtain ⟨scripts, hscripts⟩ := ih hread.2 (n + script.length)
    refine ⟨script ++ scripts, fun net hn rest hrest => ?_⟩
    rw [List.append_assoc] at hrest
    -- the first page uses up its own outcomes and leaves just those of the others
    obtain ⟨hserved, hleft, hlength⟩ := hscript net hn _ hrest
    subst hn
    obtain ⟨hpage, -⟩ := hfetch.of_servedBy hs rfl hread.1 hserved
    rw [paged_of_next hpage h hnext]
    have hothers := hscripts _ hlength rest hleft
    rw [← hlength] at hothers
    exact hserved.trans (grows_paged hgrows k' { c with network := _ }) hothers

/-- Behind which there is a reachable service whose pages lead from one to the next for ever,
fetching page after page does not end. -/
theorem FetchesBy.not_servedBy (hfetch : FetchesBy fetch c request read)
    (hgrows : ∀ k, Grows (fetch k)) (hs : s.Reachable c.settings.retry.policy) (starts : Set κ)
    (hread : ∀ k ∈ starts, read (s.respond (request k)) = .ok (page k))
    (hpage : ∀ k ∈ starts, page k ≠ [] ∧ ∃ k' ∈ starts, next (page k) = .ok k') {k : κ}
    (hk : k ∈ starts) (net : Network) :
    ¬ (paged fetch spends next k { c with network := net }).2.network.ServedBy s
      net.attempts.length := by
  -- on the outcomes that are left, of which every page uses one up
  induction hn : net.outcomes.length using Nat.strong_induction_on generalizing k net with
  | _ n ih =>
    subst hn
    intro hserved
    obtain ⟨net', hfirst, -, hkept⟩ := hfetch.first_of_servedBy hgrows hs (hread k hk) hserved
    obtain ⟨hne, k', hk', hnext⟩ := hpage k hk
    have hlt : net'.outcomes.length < net.outcomes.length := spends k _ _ _ hfirst
    rw [paged_of_next hfirst hne hnext] at hserved
    exact ih _ hlt hk' net' rfl (hserved.mono hkept.length_le)

end Session

/-! ### Sorted lists page by page -/

section

variable {α κ : Type} {key : α → Nat} {next : List α → Except ClientError κ}
  {items : List α} {b : Nat}

/-- In a sorted list, the keys up to the last item of a page are those on the page. -/
lemma filter_after_take (hsorted : items.Pairwise (key · < key ·)) (h : items.take b ≠ []) :
    items.filter (fun a => key ((items.take b).getLast h) < key a) = items.drop b := by
  have htake : ∀ a ∈ items.take b, key a ≤ key ((items.take b).getLast h) := by
    intro a ha
    have hpage := hsorted.sublist (List.take_sublist b items)
    rw [← List.dropLast_append_getLast h, List.pairwise_append] at hpage
    rw [← List.dropLast_append_getLast h, List.mem_append, List.mem_singleton] at ha
    obtain ha | rfl := ha
    · exact (hpage.2.2 a ha _ (List.mem_singleton_self _)).le
    · exact le_rfl
  have hdrop : ∀ a ∈ items.drop b, key ((items.take b).getLast h) < key a := by
    rw [← List.take_append_drop b items, List.pairwise_append] at hsorted
    exact fun a ha => hsorted.2.2 _ (List.getLast_mem h) a ha
  calc items.filter (fun a => key ((items.take b).getLast h) < key a)
      = (items.take b ++ items.drop b).filter
          (fun a => key ((items.take b).getLast h) < key a) := by rw [List.take_append_drop]
    _ = items.drop b := by
      rw [List.filter_append, List.filter_eq_nil_iff.2 (by simpa using htake), List.nil_append,
        List.filter_eq_self.2 (by simpa using hdrop)]

/-- The items from above the last key of a page on are those after the page. -/
lemma filter_from_next (hsorted : items.Pairwise (key · < key ·)) {m n : Nat}
    (h : (items.filter (m ≤ key ·)).take b ≠ [])
    (hn : n = key (((items.filter (m ≤ key ·)).take b).getLast h) + 1) :
    items.filter (n ≤ key ·) = (items.filter (m ≤ key ·)).drop b := by
  have hle : m ≤ key (((items.filter (m ≤ key ·)).take b).getLast h) := by
    simpa using List.of_mem_filter (List.mem_of_mem_take (List.getLast_mem h))
  rw [← filter_after_take (hsorted.sublist List.filter_sublist) h, List.filter_filter]
  refine List.filter_congr fun a _ => ?_
  rw [hn, ← Bool.decide_and, decide_eq_decide]
  omega

/-- One page less is left after a page. -/
lemma ceilDiv_sub_succ {n : Nat} (hb : 0 < b) (hn : 0 < n) : (n - b) ⌈/⌉ b + 1 = n ⌈/⌉ b := by
  rw [Nat.ceilDiv_eq_add_pred_div, Nat.ceilDiv_eq_add_pred_div]
  obtain hle | hlt := le_or_gt b n
  · rw [← Nat.add_div_right _ hb]
    congr 1
    omega
  · rw [Nat.sub_eq_zero_of_le hlt.le, Nat.div_eq_of_lt (by omega)]
    exact (Nat.div_eq_of_lt_le (by omega) (by omega)).symm

/-- The items of a sorted list, so many at a time, each page from one above the last key of the page
before: they are on as many pages as they need, and an empty page follows. -/
theorem exists_pages_of_sorted (start : κ → Nat) (hsorted : items.Pairwise (key · < key ·))
    (hb : 0 < b) (hnext : ∀ page (h : page ≠ []), page.Sublist items →
      ∃ k, next page = .ok k ∧ start k = key (page.getLast h) + 1) (k : κ) :
    ∃ ks, Pages (fun k => (items.filter (start k ≤ key ·)).take b) next k ks
        (items.filter (start k ≤ key ·)) ∧
      ks.length = (items.filter (start k ≤ key ·)).length ⌈/⌉ b + 1 ∧
      ∀ k' ∈ ks, (k' = k ∨ ∃ a ∈ items, start k' = key a + 1) ∧
        ∃ i, (items.filter (start k' ≤ key ·)).take b =
          ((items.filter (start k ≤ key ·)).drop (i * b)).take b := by
  -- on the number of items from the start on
  induction hn : (items.filter (start k ≤ key ·)).length using Nat.strong_induction_on
    generalizing k with
  | _ n ih =>
    subst hn
    by_cases hempty : items.filter (start k ≤ key ·) = []
    · refine ⟨[k], ?_, by simp [hempty], fun k' hk' => ?_⟩
      · have hlast : (items.filter (start k ≤ key ·)).take b = [] := by rw [hempty, List.take_nil]
        rw [hempty]
        exact .last hlast
      · obtain rfl := List.mem_singleton.1 hk'
        exact ⟨.inl rfl, 0, by rw [zero_mul, List.drop_zero]⟩
    have hpage : (items.filter (start k ≤ key ·)).take b ≠ [] := by
      rw [ne_eq, List.take_eq_nil_iff]
      exact not_or.2 ⟨hb.ne', hempty⟩
    have hsublist : ((items.filter (start k ≤ key ·)).take b).Sublist items :=
      (List.take_sublist _ _).trans List.filter_sublist
    obtain ⟨k', hk', hstart⟩ := hnext _ hpage hsublist
    have hdrop := filter_from_next hsorted hpage hstart
    have hlength := List.length_pos_iff.2 hempty
    obtain ⟨ks, hpages, hcount, hks⟩ := ih _ (by rw [hdrop, List.length_drop]; omega) k' rfl
    refine ⟨k :: ks, ?_, ?_, ?_⟩
    · have hmore : Pages (fun k => (items.filter (start k ≤ key ·)).take b) next k (k :: ks)
          ((items.filter (start k ≤ key ·)).take b ++ items.filter (start k' ≤ key ·)) :=
        .more hpage hk' hpages
      rwa [hdrop, List.take_append_drop] at hmore
    · rw [List.length_cons, hcount, hdrop, List.length_drop, ceilDiv_sub_succ hb hlength]
    · rw [List.forall_mem_cons]
      refine ⟨⟨.inl rfl, 0, by rw [zero_mul, List.drop_zero]⟩, fun k'' hk'' => ?_⟩
      obtain ⟨hbegin, i, hi⟩ := hks k'' hk''
      refine ⟨.inr ?_, i + 1, ?_⟩
      · obtain rfl | hbegin := hbegin
        · exact ⟨_, hsublist.subset (List.getLast_mem hpage), hstart⟩
        · exact hbegin
      · rw [hi, hdrop, List.drop_drop]
        congr 2
        ring

end

end TagCatalog
