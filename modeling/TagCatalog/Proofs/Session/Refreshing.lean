import Mathlib.Tactic
import TagCatalog.Proofs.Session.Knowledge

/-!
When the names of tags are fetched.

* `Session.tagDictionary_eq`, `Session.snd_decodeResult`: the names are fetched if none are known,
  and for a response if they are needed.
* `Client.Completes`: a client that asked for tags whenever an answer called for them.
* `Session.completes_search`, `Session.completes_searchAll`: so do searches.
-/

namespace TagCatalog

namespace Client

variable {may : WireFormat → TagDictionary → Prop} {c c' c'' : Client}

/-- A client comes from another so that it asked for tags right after each answer with images for
which names were needed and none were known. -/
def Completes (c c' : Client) : Prop :=
  ∀ l₁ a l₂, c.added c' = l₁ ++ a :: l₂ → a.FindsImages c.settings →
    c.settings.wireFormat = .table → (c.tags.after c.settings l₁).Nameless →
      ∃ b ∈ l₂.head?, b.request.AsksTags c.settings

namespace Completes

lemma refl (c : Client) : c.Completes c := by
  intro l₁ a l₂ h
  simp [added_self] at h

lemma trans (hf : c.Follows may c') (hf' : c'.Follows may c'') (h : c.Completes c')
    (h' : c'.Completes c'') : c.Completes c'' := by
  intro l₁ a l₂ hl ha hformat hnameless
  rw [added_trans hf.grows hf'.grows] at hl
  obtain ⟨l, hfirst, rfl⟩ | ⟨l, rfl, hsecond⟩ := append_eq_append_cons hl
  · obtain ⟨b, hb, hasks⟩ := h l₁ a l hfirst ha hformat hnameless
    refine ⟨b, ?_, hasks⟩
    obtain ⟨b', l, rfl⟩ :=
      List.exists_cons_of_ne_nil (List.ne_nil_of_mem (List.mem_of_mem_head? hb))
    exact hb
  · rw [TagDictionary.after_append, ← hf.tags_eq] at hnameless
    have hcompletes := h' l a l₂ hsecond
    rw [hf.settings_eq] at hcompletes
    exact hcompletes ha hformat hnameless

end Completes

end Client

namespace Session

open Client

variable {α : Type} {may : WireFormat → TagDictionary → Prop} {c : Client}

/-- Tags may be asked for when names are needed and none are known. -/
def NeedsTags (format : WireFormat) (tags : TagDictionary) : Prop :=
  format = .table ∧ tags.Nameless

/-- An operation that leaves the client as it is does not matter to it. -/
lemma snd_bind {β : Type} {s : Session α} {f : α → Session β} (hf : ∀ a c, (f a c).2 = c)
    (c : Client) : ((s >>= f) c).2 = (s c).2 := by
  rcases h : s c with ⟨e | a, c'⟩
  · rw [bind_of_error h]
  · rw [bind_of_ok h, hf]

/-- The names of tags are fetched if none are known. -/
lemma tagDictionary_eq (c : Client) : tagDictionary c =
    if c.tags.isEmpty then ((listTags c).1.map fun _ => (listTags c).2.tags, (listTags c).2)
    else (.ok c.tags, c) := by
  have hget : (get : Session Client) c = (.ok c, c) := rfl
  rw [tagDictionary, bind_of_ok hget]
  split_ifs
  · rcases h : listTags c with ⟨e | tags, c'⟩
    · rw [bind_of_error h]
      rfl
    · rw [bind_of_ok h]
      rfl
  · rfl

/-- Names are fetched for a response if they are needed. -/
lemma snd_decodeResult (a : Response) (c : Client) : (decodeResult a c).2 =
    if c.settings.wireFormat = .table ∧ c.tags.isEmpty = true then (listTags c).2 else c := by
  have hget : (get : Session Client) c = (.ok c, c) := rfl
  rw [decodeResult, bind_of_ok hget, snd_bind]
  · cases hformat : c.settings.wireFormat with
    | flat => exact (if_neg fun h => by cases h.1).symm
    | table =>
      rw [namesFor, tagDictionary_eq]
      by_cases hempty : c.tags.isEmpty = true <;> simp [hempty]
  · intro dict c'
    cases WireFormat.decode _ dict a.body <;> rfl

/-- Listing the tags makes attempts, all of which ask for tags. -/
lemma added_listTags (c : Client) :
    c.added (listTags c).2 ≠ [] ∧ ∀ a ∈ c.added (listTags c).2, a.request.AsksTags c.settings := by
  obtain ⟨result, l, net, hburst, hne, hl, hlist⟩ := exists_listTags c
  have hadded : c.added (listTags c).2 = l := by
    obtain ⟨e, hlist, -⟩ | ⟨tags, hlist, -⟩ := hlist
    · rw [hlist]
      exact added_eq hl
    · rw [hlist]
      exact added_eq hl
  rw [hadded]
  exact ⟨hne, fun a ha => by rw [hburst.request_eq a ha]; exact ⟨rfl, rfl⟩⟩

/-- Requests that are no searches, and searches without a good answer, call for no names. -/
lemma completes_of_burst {r : Request} {l : List Attempt} {result : Except SendError Response}
    {net : Network} (hburst : Burst r l result) (hl : net.attempts = c.network.attempts ++ l)
    (hresult : r.AsksImages c.settings → ∀ a, result = .ok a → ¬ a.IsGood) :
    c.Completes { c with network := net } := by
  rintro l₁ a l₂ h ⟨hasks, answer, hanswer, hgood⟩
  rw [added_eq hl] at h
  subst h
  rw [hburst.request_eq a (by simp)] at hasks
  exact absurd hgood (hresult hasks answer (hburst.of_eq_append.2 answer hanswer).1)

/-- To ask for tags when they are needed passes to all operations that send no search by
themselves. -/
lemma closed_completes (may : WireFormat → TagDictionary → Prop) :
    Closed (fun c result => c.Follows may result.2 ∧ c.Completes result.2)
      (fun c r => Plain c r ∧ ¬ r.AsksImages c.settings) (fun _ => True) where
  ok _ c := ⟨.refl may c, .refl c⟩
  fail _ c := ⟨.refl may c, .refl c⟩
  answer {build c} h cancel := by
    refine ⟨(closed_follows may).answer h.1 cancel, ?_⟩
    obtain ⟨result, l, net, hburst, hanswer, hl, -⟩ := exists_burst_answer build cancel c
    rw [hanswer]
    exact completes_of_burst hburst hl fun hasks => absurd hasks h.2
  trans h h' := ⟨h.1.trans h'.1, .trans h.1 h'.1 h.2 h'.2⟩
  error h := h
  fails _ := trivial

/-- Searching asks for tags only when they are needed. -/
lemma follows_search (q : SearchQuery) (cancel : Cancellation) (c : Client) :
    c.Follows NeedsTags (search q cancel c).2 :=
  (closed_follows NeedsTags).search
    (fun c hformat hempty => follows_listTags ⟨hformat, c.tags.isEmpty_iff_nameless.1 hempty⟩)
    ⟨rfl, fun h => by cases h.1⟩ (fun _ _ => trivial) cancel

/-- Reading a result asks for tags, if for anything. -/
lemma asksTags_of_mem_added_decodeResult {a : Response} {b : Attempt}
    (hb : b ∈ c.added (decodeResult a c).2) : b.request.AsksTags c.settings := by
  rw [snd_decodeResult] at hb
  split_ifs at hb
  · exact (added_listTags c).2 b hb
  · rw [added_self] at hb
    cases hb

/-- Reading the result in an answer asks for tags right after it, if they are needed. -/
lemma completes_of_answer {r : Request} {l : List Attempt} {a : Response} {net : Network}
    (hburst : Burst r l (.ok a)) (hl : net.attempts = c.network.attempts ++ l) :
    c.Completes (decodeResult a { c with network := net }).2 := by
  rintro l₁ b l₂ h hfinds hformat hnameless
  have hgrows := closed_grows.decodeResult (c := { c with network := net })
    (fun _ _ => grows_listTags _) a
  have hfirst : c.network.attempts <+: ({ c with network := net } : Client).network.attempts :=
    hl ▸ List.prefix_append ..
  rw [added_trans hfirst hgrows, added_eq hl] at h
  obtain ⟨l, rfl, rfl⟩ | ⟨l, rfl, hsecond⟩ := append_eq_append_cons h
  · obtain ⟨hfailed, hlast⟩ := hburst.of_eq_append
    obtain ⟨answer, hanswer, -⟩ := hfinds.2
    -- the answer ends its burst, so what follows it is what reading it adds
    obtain ⟨-, rfl⟩ := hlast answer hanswer
    have htags : c.tags.after c.settings l₁ = c.tags := TagDictionary.after_eq_self fun b hb =>
      (hfailed b hb).elim fun _ hf => Attempt.tags?_of_error hf
    rw [htags] at hnameless
    obtain ⟨hne, hasks⟩ := added_listTags { c with network := net }
    obtain ⟨b, rest, hcons⟩ := List.exists_cons_of_ne_nil hne
    rw [snd_decodeResult, if_pos ⟨hformat, c.tags.isEmpty_iff_nameless.2 hnameless⟩,
      List.nil_append, hcons]
    exact ⟨b, rfl, hasks b (by rw [hcons]; exact List.mem_cons_self ..)⟩
  · -- no search is sent while a result is read
    have hasks := asksTags_of_mem_added_decodeResult (a := a) (b := b) (by
      rw [hsecond]
      exact List.mem_append_right _ (List.mem_cons_self ..))
    cases hfinds.1.1.symm.trans hasks.1

/-- Searching asks for tags when they are needed. -/
lemma completes_search (q : SearchQuery) (cancel : Cancellation) (c : Client) :
    c.Completes (search q cancel c).2 := by
  rw [search]
  cases q.fault? with
  | some fault => exact .refl c
  | none =>
    obtain ⟨result, l, net, hburst, hanswer, hl, -⟩ :=
      exists_burst_answer (·.post "/api/search_images" q.toJson) cancel c
    dsimp only
    rw [succeed, bind_assoc]
    cases result with
    | error e =>
      rw [bind_of_error hanswer]
      exact completes_of_burst hburst hl fun _ a ha => by cases ha
    | ok a =>
      rw [bind_of_ok hanswer, accept]
      by_cases ha : a.isSuccess
      · rw [if_pos ha, pure_bind]
        exact completes_of_answer hburst hl
      · rw [if_neg ha]
        exact completes_of_burst hburst hl fun _ b hb hgood => by
          cases hb
          exact ha (a.isSuccess_iff_isGood.2 hgood)

/-- A page of images is read as a search is. -/
lemma completes_searchPage (filter : Option Operator) (select : List Selection)
    (limit start : UInt64) (c : Client) :
    c.Follows NeedsTags (searchPage filter select limit start c).2 ∧
      c.Completes (searchPage filter select limit start c).2 := by
  rw [searchPage, snd_bind fun _ _ => rfl]
  exact ⟨follows_search _ _ c, completes_search _ _ c⟩

/-- Reading all images asks for tags exactly when they are needed. -/
lemma completes_searchAll (filter : Option Operator) (select : List Selection)
    (batch : Option UInt64) (c : Client) :
    c.Follows NeedsTags (searchAll filter select batch c).2 ∧
      c.Completes (searchAll filter select batch c).2 :=
  (closed_completes NeedsTags).paged (completes_searchPage filter select _)
    (fun _ _ _ => trivial) 0

end Session

end TagCatalog
