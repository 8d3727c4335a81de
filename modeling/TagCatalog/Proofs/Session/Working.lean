import Mathlib.Tactic
import TagCatalog.Proofs.Cache.Counting
import TagCatalog.Proofs.Exchange.Burst
import TagCatalog.Proofs.Session.Closure
import TagCatalog.Session.Worker

/-!
A worker fetches an image only if it keeps no value of it, and of a failure nothing is left but that
the value was missed.

Between the look-up and the store lie a request, which may be made again and again and may be
refused, and a computation, which may fail. What comes of a call is told by what became of its one
request, and what is kept afterwards by what came of the call.

* `Session.fetchImage_eq`: an image is fetched by one request.
* `Worker.Yields`: what comes of a call by what became of its request.
* `Worker.Call.Sound`: what a call does; `sound_call` says that every call does it.
* `Worker.work`: calls one after another.
* `work_fetches_missed`: what holds of any calls of any worker.
-/

namespace TagCatalog

open Memo (counted)
open Recency (remove)

/-! ### The request for an image -/

namespace Client

/-- The request for the image of a hash. -/
def imageRequest (c : Client) (hash : ImageHash) : Request := c.get ("/images/" ++ hash.toHex)

/-- What becomes of the request for the image of a hash, and the network afterwards. -/
def sendForImage (c : Client) (hash : ImageHash) : Except SendError Response × Network :=
  c.network.send c.settings.retry.policy .never (c.imageRequest hash)

end Client

namespace Session

/-- What is told of an image by what became of the request for it. -/
def imageTold : Except SendError Response → Except ClientError (Option Bytes)
  | .error e => .error (.unsent e)
  | .ok a =>
    if a.isNotFound then .ok none
    else if a.isSuccess then .ok (some a.body)
    else .error (.remote a.status a.text)

/-- An image is fetched by one request, and the client changes in nothing but its network. -/
lemma fetchImage_eq (hash : ImageHash) (c : Client) : fetchImage hash none c =
    (imageTold (c.sendForImage hash).1, { c with network := (c.sendForImage hash).2 }) := by
  have hanswer : answer (fun c => c.imageRequest hash) .never c =
      ((c.sendForImage hash).1.mapError .unsent,
        { c with network := (c.sendForImage hash).2 }) := by
    rw [answer, Client.sendForImage]
    rcases c.network.send c.settings.retry.policy .never (c.imageRequest hash) with ⟨e | a, net⟩ <;>
      rfl
  show (answer (fun c => c.imageRequest hash) .never >>= _) c = _
  generalize c.sendForImage hash = sent at *
  obtain ⟨e | a, net⟩ := sent
  · rw [bind_of_error hanswer]
    rfl
  · rw [bind_of_ok hanswer, imageTold]
    dsimp only
    split
    next => rfl
    next =>
      rw [accept]
      split <;> rfl

end Session

namespace Worker

variable {α ε : Type}

/-! ### One call -/

/-- What a worker is called for. -/
structure Job (α ε : Type) where
  hash : ImageHash
  /-- The computation of a value from the bytes of the image. -/
  compute : Bytes → Except ε α

/-- What comes of a call whose value was not kept, by what became of the request for the image: how
often the computation is run, and the result. -/
inductive Yields (j : Job α ε) :
    Except SendError Response → Nat → Except (WorkerError ε) α → Prop
  /-- No response came. -/
  | unsent (e : SendError) : Yields j (.error e) 0 (.error (.client (.unsent e)))
  /-- The service does not know the image. -/
  | notFound {r : Response} (h : r.status = 404) :
    Yields j (.ok r) 0 (.error (.imageNotFound j.hash))
  /-- The service did not do what was asked. -/
  | refused {r : Response} (hfound : r.status ≠ 404) (h : r.isSuccess = false) :
    Yields j (.ok r) 0 (.error (.client (.remote r.status r.text)))
  /-- The computation failed. -/
  | failed {r : Response} {e : ε} (h : r.isSuccess = true)
    (hcompute : j.compute r.body = .error e) : Yields j (.ok r) 1 (.error (.compute e))
  | computed {r : Response} {a : α} (h : r.isSuccess = true)
    (hcompute : j.compute r.body = .ok a) : Yields j (.ok r) 1 (.ok a)

variable {w : Worker α} {j : Job α ε} {a : α}

/-- What is kept is neither fetched nor computed. -/
lemma run_valueFromImageM_of_some (h : w.peek j.hash = some a) (c : Client) (n : Nat) :
    (w.valueFromImageM j.hash (counted j.compute) c).run n = ((.ok a, (w.get j.hash).2, c), n) := by
  rw [valueFromImageM, Memo.get_of_some h]
  rfl

/-- What is not kept is fetched by one request, from which all else follows. -/
lemma run_valueFromImageM_of_none (h : w.peek j.hash = none) (c : Client) (n : Nat) :
    ∃ runs result, Yields j (c.sendForImage j.hash).1 runs result ∧
      (w.valueFromImageM j.hash (counted j.compute) c).run n =
        ((result, (w.get j.hash).2.settle j.hash result,
          { c with network := (c.sendForImage j.hash).2 }), n + runs) := by
  rw [valueFromImageM, Session.fetchImage_eq, Memo.get_of_none h]
  generalize c.sendForImage j.hash = sent
  obtain ⟨e | r, net⟩ := sent
  · exact ⟨0, _, .unsent e, rfl⟩
  rw [Session.imageTold]
  by_cases hfound : r.isNotFound = true
  · rw [if_pos hfound]
    exact ⟨0, _, .notFound (of_decide_eq_true hfound), rfl⟩
  rw [if_neg hfound]
  by_cases hsuccess : r.isSuccess = true
  · rw [if_pos hsuccess]
    dsimp only
    rw [Memo.run_counted_bind]
    cases hcompute : j.compute r.body with
    | error e => exact ⟨1, _, .failed hsuccess hcompute, rfl⟩
    | ok a => exact ⟨1, _, .computed hsuccess hcompute, rfl⟩
  · rw [if_neg hsuccess]
    exact ⟨0, _, .refused (fun h => hfound (decide_eq_true h)) (Bool.eq_false_iff.2 hsuccess), rfl⟩

/-- A call: what there was before it, what came of it, and what there is afterwards. -/
structure Call (α ε : Type) where
  job : Job α ε
  worker : Worker α
  client : Client
  result : Except (WorkerError ε) α
  /-- How often the computation was run. -/
  runs : Nat
  /-- The worker afterwards. -/
  worker' : Worker α
  /-- The client afterwards. -/
  client' : Client

/-- Calls a worker. -/
def call (w : Worker α) (c : Client) (j : Job α ε) : Call α ε :=
  let ran := (w.valueFromImageM j.hash (counted j.compute) c).run 0
  ⟨j, w, c, ran.1.1, ran.2, ran.1.2.1, ran.1.2.2⟩

namespace Call

/-- Whether no value was kept for a call. -/
def isMissed (x : Call α ε) : Bool := !x.worker.contains x.job.hash

/-- What a call does. -/
structure Sound (x : Call α ε) : Prop where
  /-- It is a call for the value of a hash. -/
  ran : x.worker.valueFromImage x.job.hash x.job.compute x.client =
    (⟨x.runs ≠ 0, x.result⟩, x.worker', x.client')
  /-- A value that is kept is the result. Nothing is sent and nothing computed. -/
  kept : ∀ a, x.worker.peek x.job.hash = some a →
    x.result = .ok a ∧ x.runs = 0 ∧ x.client' = x.client ∧
    x.worker' = { x.worker with
      entries := (x.job.hash, a) :: remove x.job.hash x.worker.entries
      stats := x.worker.stats.hit }
  /-- If none is kept, one request is sent, and the result is what comes of it. -/
  missed : x.worker.peek x.job.hash = none →
    Yields x.job (x.client.sendForImage x.job.hash).1 x.runs x.result ∧
    x.client' = { x.client with network := (x.client.sendForImage x.job.hash).2 }
  /-- Of a failure nothing is left but one more miss. -/
  failed : ∀ e, x.result = .error e → x.worker' = { x.worker with stats := x.worker.stats.miss }
  /-- A value that has been computed is stored. -/
  stored : x.worker.peek x.job.hash = none → ∀ a, x.result = .ok a →
    x.worker' = Memo.insert { x.worker with stats := x.worker.stats.miss } x.job.hash a
  /-- The result is then the value used last, where any are kept at all. -/
  latest : ∀ a, x.result = .ok a → x.worker.capacity ≠ 0 →
    x.worker'.entries.head? = some (x.job.hash, a)

end Call

/-- Every call does what a call does. -/
lemma sound_call (w : Worker α) (c : Client) (j : Job α ε) : (w.call c j).Sound := by
  cases hpeek : w.peek j.hash with
  | some a =>
    have hcall : w.call c j = ⟨j, w, c, .ok a, 0, (w.get j.hash).2, c⟩ := by
      rw [call, run_valueFromImageM_of_some hpeek]
    rw [hcall, Memo.get_of_some hpeek]
    exact {
      ran := by rw [valueFromImage, run_valueFromImageM_of_some hpeek, Memo.get_of_some hpeek]
      kept := fun b hb => by
        obtain rfl : a = b := Option.some.inj (hpeek.symm.trans hb)
        exact ⟨rfl, rfl, rfl, rfl⟩
      missed := fun hnone => by cases hpeek.symm.trans hnone
      failed := nofun
      stored := fun hnone => by cases hpeek.symm.trans hnone
      latest := fun b hb _ => by cases hb; rfl }
  | none =>
    obtain ⟨runs, result, hyields, hrun⟩ := run_valueFromImageM_of_none hpeek c 0
    have hcall : w.call c j = ⟨j, w, c, result, runs, (w.get j.hash).2.settle j.hash result,
        { c with network := (c.sendForImage j.hash).2 }⟩ := by
      rw [call, hrun, Nat.zero_add]
    rw [hcall, Memo.get_of_none hpeek]
    exact {
      ran := by rw [valueFromImage, hrun, Nat.zero_add, Memo.get_of_none hpeek]
      kept := fun a ha => by cases hpeek.symm.trans ha
      missed := fun _ => ⟨hyields, rfl⟩
      failed := fun e he => by cases he; rfl
      stored := fun _ a ha => by cases ha; rfl
      latest := fun a ha hcapacity => by
        cases ha
        show (Memo.insert _ j.hash a).entries.head? = _
        rw [Memo.entries_insert, if_neg hcapacity, List.head?_take, if_neg hcapacity]
        rfl }

/-! ### What a call comes to -/

/-- Nothing is computed twice for a call. -/
lemma Yields.runs_le {reply : Except SendError Response} {runs : Nat}
    {result : Except (WorkerError ε) α} (h : Yields j reply runs result) : runs ≤ 1 := by
  cases h <;> decide

namespace Call

/-- Attempts that were made for the one request of a call, as a client sends it. -/
def Attempted (c : Client) (x : Call α ε) (l : List Attempt) : Prop :=
  l ≠ [] ∧ Burst (c.imageRequest x.job.hash) l (x.client.sendForImage x.job.hash).1

/-- A value was kept for a call, or none was. -/
lemma kept_or_missed (x : Call α ε) :
    (∃ a, x.worker.peek x.job.hash = some a) ∧ x.isMissed = false ∨
    x.worker.peek x.job.hash = none ∧ x.isMissed = true := by
  rw [isMissed, Memo.contains]
  cases x.worker.peek x.job.hash with
  | some a => exact .inl ⟨⟨a, rfl⟩, rfl⟩
  | none => exact .inr ⟨rfl, rfl⟩

namespace Sound

variable {x : Call α ε} (h : x.Sound)

include h

/-- A call is counted once, and as a miss if no value was kept for it. -/
lemma counts : x.worker'.stats.hits + x.worker'.stats.misses =
      x.worker.stats.hits + x.worker.stats.misses + 1 ∧
    x.worker'.stats.misses = x.worker.stats.misses + x.isMissed.toNat := by
  obtain ⟨⟨a, ha⟩, hkept⟩ | ⟨hnone, hmissed⟩ := x.kept_or_missed
  · obtain ⟨-, -, -, hworker⟩ := h.kept a ha
    rw [hworker, hkept]
    exact ⟨Nat.add_right_comm .., rfl⟩
  · rw [hmissed]
    cases hresult : x.result with
    | error e =>
      rw [h.failed e hresult]
      exact ⟨rfl, rfl⟩
    | ok a =>
      rw [h.stored hnone a hresult, Memo.hits_insert, Memo.misses_insert]
      exact ⟨rfl, rfl⟩

/-- Something is computed only if no value was kept. -/
lemma runs_le : x.runs ≤ x.isMissed.toNat := by
  obtain ⟨⟨a, ha⟩, -⟩ | ⟨hnone, hmissed⟩ := x.kept_or_missed
  · rw [(h.kept a ha).2.1]
    exact Nat.zero_le _
  · rw [hmissed]
    exact (h.missed hnone).1.runs_le

/-- A call changes the client in nothing but its network. -/
lemma exists_network : ∃ net, x.client' = { x.client with network := net } := by
  obtain ⟨⟨a, ha⟩, -⟩ | ⟨hnone, -⟩ := x.kept_or_missed
  · exact ⟨x.client.network, (h.kept a ha).2.2.1⟩
  · exact ⟨_, (h.missed hnone).2⟩

/-- What is attempted for a call is attempted for its one request, if there is one. -/
lemma exists_attempted : ∃ bursts, List.Forall₂ (Attempted x.client) ([x].filter isMissed) bursts ∧
    x.client'.network.attempts = x.client.network.attempts ++ bursts.flatten := by
  obtain ⟨⟨a, ha⟩, hkept⟩ | ⟨hnone, hmissed⟩ := x.kept_or_missed
  · rw [(h.kept a ha).2.2.1, List.filter_cons_of_neg (by simp [hkept])]
    exact ⟨[], .nil, (List.append_nil _).symm⟩
  · rw [(h.missed hnone).2, List.filter_cons_of_pos hmissed]
    obtain ⟨l, hburst, hl, hne⟩ := x.client.network.exists_burst_send
      x.client.settings.retry.policy .never (x.client.imageRequest x.job.hash)
    exact ⟨[l], .cons ⟨hne rfl, hburst⟩ .nil, by rw [List.flatten_singleton]; exact hl⟩

end Sound

end Call

/-! ### Calls one after another -/

/-- Calls a worker again and again: the calls, and the worker and the client afterwards. -/
def work (w : Worker α) (c : Client) : List (Job α ε) → List (Call α ε) × Worker α × Client
  | [] => ([], w, c)
  | j :: rest =>
    let x := w.call c j
    let (calls, w', c') := work x.worker' x.client' rest
    (x :: calls, w', c')

/-- What calls one after another come to. -/
structure Accounts (w : Worker α) (c : Client) (calls : List (Call α ε)) (w' : Worker α)
    (c' : Client) : Prop where
  sound : ∀ x ∈ calls, x.Sound
  counted : w'.stats.hits + w'.stats.misses = w.stats.hits + w.stats.misses + calls.length
  missed : w'.stats.misses = w.stats.misses + (calls.filter Call.isMissed).length
  computed : (calls.map Call.runs).sum ≤ (calls.filter Call.isMissed).length
  attempted : ∃ bursts,
    List.Forall₂ (Call.Attempted c) (calls.filter Call.isMissed) bursts ∧
    c'.network.attempts = c.network.attempts ++ bursts.flatten

/-- One more call before the others. -/
lemma Accounts.cons {x : Call α ε} {calls : List (Call α ε)} {w' : Worker α} {c' : Client}
    (hx : x.Sound) (h : Accounts x.worker' x.client' calls w' c') :
    Accounts x.worker x.client (x :: calls) w' c' := by
  obtain ⟨hcounted, hmissed⟩ := hx.counts
  have hlength : ((x :: calls).filter Call.isMissed).length =
      x.isMissed.toNat + (calls.filter Call.isMissed).length := by
    rw [List.filter_cons]
    cases x.isMissed <;> simp [Nat.add_comm]
  exact {
    sound := List.forall_mem_cons.2 ⟨hx, h.sound⟩
    counted := by
      rw [h.counted, hcounted, List.length_cons]
      omega
    missed := by
      rw [h.missed, hmissed, hlength]
      omega
    computed := by
      rw [List.map_cons, List.sum_cons, hlength]
      exact Nat.add_le_add hx.runs_le h.computed
    attempted := by
      obtain ⟨burst, hburst, hfirst⟩ := hx.exists_attempted
      obtain ⟨bursts, hbursts, hrest⟩ := h.attempted
      obtain ⟨net, hnet⟩ := hx.exists_network
      -- the later requests are those that the first client would send
      have hsame : Call.Attempted x.client' = Call.Attempted (α := α) (ε := ε) x.client := by
        rw [hnet]
        rfl
      rw [hsame] at hbursts
      refine ⟨burst ++ bursts, ?_, ?_⟩
      · rw [← List.singleton_append, List.filter_append]
        exact List.rel_append hburst hbursts
      · rw [hrest, hfirst, List.flatten_append, List.append_assoc] }

/-- Calls are accounted for. -/
lemma accounts_work (w : Worker α) (c : Client) (jobs : List (Job α ε)) :
    Accounts w c (w.work c jobs).1 (w.work c jobs).2.1 (w.work c jobs).2.2 := by
  induction jobs generalizing w c with
  | nil =>
    show Accounts w c [] w c
    exact ⟨List.forall_mem_nil _, rfl, rfl, le_rfl, [], .nil, (List.append_nil _).symm⟩
  | cons j jobs ih =>
    exact Accounts.cons (sound_call w c j) (ih (w.call c j).worker' (w.call c j).client')

/-- The calls are those that were asked for. -/
lemma map_job_work (w : Worker α) (c : Client) (jobs : List (Job α ε)) :
    (w.work c jobs).1.map Call.job = jobs := by
  induction jobs generalizing w c with
  | nil => rfl
  | cons j jobs ih => exact congrArg (j :: ·) (ih _ _)

/-- **Images are fetched for missed values only, and failures leave no trace.** Whatever a worker is
called for, whatever is answered and whatever is computed: a call whose value is kept gives it,
sends nothing and computes nothing. Any other call sends one request, for the image, and gives what
comes of the answer and of the computation, which is run at most once. If that is a failure, the
worker is as it was but for one more miss; if it is a value, this is stored and is the one used
last. All that has been attempted are the attempts for these requests, one after another; every call
is counted once, and as a miss exactly if it has sent its request. -/
theorem work_fetches_missed (w : Worker α) (c : Client) (jobs : List (Job α ε)) :
    let (calls, w', c') := w.work c jobs
    let missed := calls.filter Call.isMissed
    calls.map Call.job = jobs ∧
    (∀ x ∈ calls, x.Sound) ∧
    w'.stats.hits + w'.stats.misses = w.stats.hits + w.stats.misses + jobs.length ∧
    w'.stats.misses = w.stats.misses + missed.length ∧
    (calls.map Call.runs).sum ≤ missed.length ∧
    ∃ bursts, List.Forall₂ (Call.Attempted c) missed bursts ∧
      c'.network.attempts = c.network.attempts ++ bursts.flatten := by
  have h := accounts_work w c jobs
  have hjobs := map_job_work w c jobs
  have hlength := congrArg List.length hjobs
  rw [List.length_map] at hlength
  exact ⟨hjobs, h.sound, hlength ▸ h.counted, h.missed, h.computed, h.attempted⟩

end Worker

end TagCatalog
