import TagCatalog.Proofs.Exchange.Losing
import TagCatalog.Proofs.Session.Attempts

/-!
Additions are safe over a connection that loses some attempts.

* `MutationOutcome.told`: what is told of a change whose request ended so.
* `Addition`: the operations of a client that add something. `Addition.perform_apply` says that each
  of them is one request, of which it is told what came.
* `Addition.exists_behind`: every pattern of losses can happen.
* `Addition.perform_safe`: an addition is made at most once, and what is told of it is true;
  `tagKeeper` is a service of which this is so.
-/

namespace TagCatalog

/-! ### Changes -/

/-- What is told of a change that was asked for. A conflict tells that it is made already. -/
def MutationOutcome.told : Except SendError Response → Except ClientError MutationOutcome
  | .error e => .error (.unsent e)
  | .ok a =>
    if a.isConflict then .ok .alreadyExists
    else if a.isSuccess then .ok .applied
    else .error (.remote a.status a.text)

namespace MutationOutcome

variable {result : Except SendError Response}

/-- All is well if there was an answer that tells of a conflict or of success. -/
lemma answer_of_told_ok {o : MutationOutcome} (h : told result = .ok o) :
    ∃ a, result = .ok a ∧ (a.isConflict = true ∨ a.isSuccess = true) ∧
      (o = .applied → a.isSuccess = true) := by
  cases result with
  | error e => cases h
  | ok a =>
    rw [told] at h
    split_ifs at h with hconflict hsuccess
    · cases h
      exact ⟨a, rfl, .inl hconflict, fun h => by cases h⟩
    · exact ⟨a, rfl, .inr hsuccess, fun _ => hsuccess⟩

/-- There was no answer if none is told of. -/
lemma error_of_told_unsent {e : SendError} (h : told result = .error (.unsent e)) :
    result = .error e := by
  cases result with
  | error e' => cases h; rfl
  | ok a =>
    rw [told] at h
    split_ifs at h
    cases h

end MutationOutcome

/-- Asking for a change is sending one request. -/
lemma Session.mutate_apply (path : String) (body : Client → Json) (c : Client) :
    Session.mutate path body c =
      (MutationOutcome.told
        (c.network.send c.settings.retry.policy .never (c.post path (body c))).1,
      { c with
        network := (c.network.send c.settings.retry.policy .never (c.post path (body c))).2 }) := by
  rw [mutate]
  rcases hsend : c.network.send c.settings.retry.policy .never (c.post path (body c))
    with ⟨e | a, net⟩
  · rw [bind_of_error (by rw [answer, hsend])]
    rfl
  · rw [bind_of_ok (by rw [answer, hsend]), MutationOutcome.told, accept]
    split_ifs <;> rfl

/-! ### Additions -/

/-- What a client may be asked to add. -/
inductive Addition
  | tag (name : String)
  | image (hash : ImageHash)
  | imageTag (hash : ImageHash) (tag : String)
  | imageAttribute (hash : ImageHash) (key value : String) (singular : Bool)
  | caption (hash : ImageHash) (caption : String)

namespace Addition

/-- Where an addition is asked for. -/
def path : Addition → String
  | tag _ => "/api/add_tag"
  | image _ => "/api/add_image"
  | imageTag .. => "/api/tag_image"
  | imageAttribute .. => "/api/add_image_attribute"
  | caption .. => "/api/caption_image"

/-- How an addition is described to the service. -/
def body (op : Addition) (c : Client) : Json :=
  let user := Json.ofNat c.settings.user.toNat
  match op with
  | tag name => .object [("name", .text name), ("user", user)]
  | image hash => .object [("hash", .text hash.toHex), ("user", user)]
  | imageTag hash name =>
    .object [("hash", .text hash.toHex), ("tag", .text name), ("user", user)]
  | imageAttribute hash key value singular =>
    .object [("hash", .text hash.toHex), ("key", .text key), ("value", .text value),
      ("user", user), ("singular", .bool singular)]
  | caption hash words =>
    .object [("hash", .text hash.toHex), ("caption", .text words), ("user", user)]

/-- The request for an addition. -/
def request (op : Addition) (c : Client) : Request := c.post op.path (op.body c)

/-- Adds what is to be added. -/
def perform : Addition → Session MutationOutcome
  | tag name => Session.addTag name
  | image hash => Session.addImage hash
  | imageTag hash name => Session.tagImage hash name
  | imageAttribute hash key value singular => Session.addImageAttribute hash key value singular
  | caption hash words => Session.captionImage hash words

/-- The attempts at an addition. -/
def attempts (op : Addition) (c : Client) : List Attempt := c.added (op.perform c).2

/-- An addition is a change like any other, but that of a tag gives up the names that are known. -/
lemma perform_eq_mutate (op : Addition) (c : Client) :
    (op.perform c).1 = (Session.mutate op.path op.body c).1 ∧
      (op.perform c).2.network = (Session.mutate op.path op.body c).2.network := by
  cases op with
  | tag name =>
    have hperform : (tag name).perform = Session.mutate (tag name).path (tag name).body >>=
        fun outcome => (modify fun c => { c with tags := ∅ }) >>= fun _ => pure outcome := rfl
    rw [hperform]
    rcases h : Session.mutate (tag name).path (tag name).body c with ⟨e | outcome, c'⟩
    · rw [Session.bind_of_error h]
      exact ⟨rfl, rfl⟩
    · rw [Session.bind_of_ok h]
      exact ⟨rfl, rfl⟩
  | image | imageTag | imageAttribute | caption => exact ⟨rfl, rfl⟩

/-- An addition is one request, of which it is told what came. -/
lemma perform_apply (op : Addition) (c : Client) :
    (op.perform c).1 = MutationOutcome.told
        (c.network.send c.settings.retry.policy .never (op.request c)).1 ∧
      (c.network.send c.settings.retry.policy .never (op.request c)).2.attempts =
        c.network.attempts ++ op.attempts c := by
  obtain ⟨hresult, hnetwork⟩ := op.perform_eq_mutate c
  rw [Session.mutate_apply] at hresult hnetwork
  refine ⟨hresult, ?_⟩
  obtain ⟨l, -, hl, -⟩ :=
    c.network.exists_burst_send c.settings.retry.policy .never (op.request c)
  rw [attempts, Client.added_eq (l := l) (by rw [hnetwork]; exact hl)]
  exact hl

/-! ### Safety -/

variable {σ ι : Type} {k : Keeper σ ι} {s : σ} {fates : Nat → Fate} {x : ι}

/-- Every pattern of losses can happen: there are outcomes with which the attempts meet with what
the service answers and with these losses. -/
lemma exists_behind (k : Keeper σ ι) (s : σ) (fates : Nat → Fate) (op : Addition) (c : Client) :
    ∃ outcomes, k.Behind s (op.request c) fates
      (op.attempts { c with network := { c.network with outcomes } }) := by
  let p := c.settings.retry.policy
  let outcomes := (List.range p.maxAttempts).map (k.meets s (op.request c) fates)
  have hattempts := (op.perform_apply { c with network := { c.network with outcomes } }).2
  refine ⟨outcomes, Keeper.behind_of_outcomes hattempts fun i hi => ?_⟩
  have hi : outcomes[i]? = some (k.meets s (op.request c) fates i) := by
    rw [List.getElem?_map, List.getElem?_range hi, Option.map_some]
  rw [Network.outcome, hi, Option.getD_some]

/-- **Additions are safe over a connection that loses some attempts.** A client asks an honest
service to add something, and nobody else asks for anything. Each attempt is lost before the service
has it, or leaves it there with the answer lost, or is answered. Whatever is lost:

* there are as many attempts as the policy makes, and what is told is what came of the last one;
* of the attempts at most one is granted;
* if all is well then it is there in the end;
* if it is told to be applied, it was not there in the beginning;
* if all attempts that are allowed fail, then it is there in the end just when it was there in the
  beginning or an attempt has reached the service. -/
theorem perform_safe (hk : k.Honest) (op : Addition) (c : Client) (hx : k.adds (op.request c) x)
    (hbehind : k.Behind s (op.request c) fates (op.attempts c))
    (happlied : ∀ i < (op.attempts c).length, ∀ f, fates i = .unheard f →
      k.holds (k.after s (op.request c) fates (i + 1)) x) :
    ∃ n, k.Ends s (op.request c) fates c.settings.retry.policy n ∧
      (op.attempts c).length = n + 1 ∧ (∀ a ∈ op.attempts c, a.request = op.request c) ∧
      (op.perform c).1 = MutationOutcome.told
        (c.settings.retry.policy.verdict (n + 1) (k.meets s (op.request c) fates n)) ∧
      (∀ i ≤ n, ∀ j ≤ n, k.Grants s (op.request c) fates i → k.Grants s (op.request c) fates j →
        i = j) ∧
      (∀ outcome, (op.perform c).1 = .ok outcome →
        k.holds (k.after s (op.request c) fates (n + 1)) x) ∧
      ((op.perform c).1 = .ok .applied → ¬ k.holds s x) ∧
      ∀ m f, (op.perform c).1 = .error (.unsent (.exhausted m f)) →
        m = n + 1 ∧ (k.holds (k.after s (op.request c) fates (n + 1)) x ↔
          k.holds s x ∨ ∃ i ≤ n, (fates i).reaches = true) := by
  obtain ⟨hresult, hattempts⟩ := op.perform_apply c
  obtain ⟨n, hends, hlength, hrequest, hsend⟩ := Keeper.exists_ends hattempts hbehind
  rw [hsend] at hresult
  rw [hresult]
  refine ⟨n, hends, hlength, hrequest, rfl, fun i _ j _ => hk.grants_unique hx,
    fun outcome htold => ?_, fun htold => ?_, fun m f htold => ?_⟩
  · obtain ⟨a, ha, hwell, -⟩ := MutationOutcome.answer_of_told_ok htold
    exact hk.holds_of_answer hx (RetryPolicy.outcome_of_answer ha) hwell
  · obtain ⟨a, ha, -, hsuccess⟩ := MutationOutcome.answer_of_told_ok htold
    exact hk.not_holds_of_success hx (RetryPolicy.outcome_of_answer ha) (hsuccess rfl)
  · refine hk.holds_iff_of_exhausted hx hends (fun i hi => happlied i ?_)
      (MutationOutcome.error_of_told_unsent htold)
    rw [hlength]
    exact Nat.lt_succ_of_le hi

/-! ### A lost answer -/

/-- The name of the tag that a request asks a local service to add. -/
def tagName? (r : Request) : Option String :=
  if r.url = Settings.standard.endpoint "/api/add_tag" then
    match r.body with
    | some (.json (.object (("name", .text name) :: _))) => some name
    | _ => none
  else none

/-- A service that keeps the names of tags. -/
def tagKeeper : Keeper (List String) String where
  receive names r :=
    match tagName? r with
    | none => (⟨404, []⟩, names)
    | some name =>
      if name ∈ names then (⟨409, []⟩, names) else (⟨201, []⟩, name :: names)
  holds names name := name ∈ names
  adds r name := tagName? r = some name

lemma receive_tagKeeper {names : List String} {r : Request} {name : String}
    (h : tagName? r = some name) :
    tagKeeper.receive names r =
      if name ∈ names then (⟨409, []⟩, names) else (⟨201, []⟩, name :: names) := by
  simp only [tagKeeper, h]

lemma honest_tagKeeper : tagKeeper.Honest where
  isSuccess_iff {names r name} hname := by
    rw [receive_tagKeeper hname]
    split <;> simp_all [tagKeeper, Response.isSuccess]
  isConflict_iff {names r name} hname := by
    rw [receive_tagKeeper hname]
    split <;> simp_all [tagKeeper, Response.isConflict]
  holds_receive {names r name} hname h := by
    have hmem : name ∈ names := h
    rw [receive_tagKeeper hname, if_pos hmem]
    exact h

/-- The answer to the first attempt is lost. The second one meets with a conflict, which is all that
is told, although the tag was not there in the beginning. -/
theorem perform_safe_lostAnswer :
    let c := Client.ofSettings .standard
      (.fresh [.error (.timeout "late"), .ok ⟨409, []⟩] .unprepared)
    let r := (tag "cat").request c
    let fates := fun i => if i = 0 then Fate.unheard (.timeout "late") else .heard
    ((tag "cat").perform c).1 = .ok .alreadyExists ∧ ((tag "cat").attempts c).length = 2 ∧
      ¬ tagKeeper.holds [] "cat" ∧ tagKeeper.Grants [] r fates 0 ∧
      ¬ tagKeeper.Grants [] r fates 1 ∧ tagKeeper.holds (tagKeeper.after [] r fates 2) "cat" := by
  intro c r fates
  have hname : tagName? r = some "cat" := if_pos rfl
  have hfirst : tagKeeper.after [] r fates 1 = ["cat"] := by
    rw [Keeper.after_succ_of_reaches rfl, Keeper.after, receive_tagKeeper hname]
    rfl
  have hgrants : tagKeeper.Grants [] r fates 0 := by
    refine ⟨rfl, ?_⟩
    rw [Keeper.after, receive_tagKeeper hname]
    rfl
  have hresult : ((tag "cat").perform c).1 = .ok .alreadyExists := rfl
  have hbehind : tagKeeper.Behind [] r fates ((tag "cat").attempts c) := by
    have houtcomes : ((tag "cat").attempts c).map (·.outcome) =
        [.error (.timeout "late"), .ok ⟨409, []⟩] := rfl
    intro i a ha
    have hi := congrArg (Option.map (·.outcome)) ha
    rw [← List.getElem?_map, houtcomes] at hi
    obtain _ | _ | i := i
    · exact (Option.some.inj hi).symm
    · refine (Option.some.inj hi).symm.trans (congrArg Except.ok ?_)
      rw [hfirst, receive_tagKeeper hname]
      rfl
    · cases hi
  have happlied : ∀ i < 2, ∀ f, fates i = .unheard f →
      tagKeeper.holds (tagKeeper.after [] r fates (i + 1)) "cat" := by
    intro i _ f hf
    cases i with
    | zero =>
      rw [hfirst]
      exact List.mem_cons_self
    | succ i => cases hf
  have hlength : ((tag "cat").attempts c).length = 2 := rfl
  obtain ⟨n, -, hlast, -, -, honce, hthere, -⟩ :=
    perform_safe honest_tagKeeper (tag "cat") c hname hbehind happlied
  obtain rfl : n = 1 := Nat.succ.inj (hlast.symm.trans hlength)
  refine ⟨hresult, hlength, List.not_mem_nil, hgrants, fun hagain => ?_, hthere _ hresult⟩
  cases honce 0 (Nat.zero_le 1) 1 le_rfl hgrants hagain

end Addition

end TagCatalog
