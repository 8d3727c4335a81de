import Mathlib.Tactic
import TagCatalog.Proofs.Session.Attempts
import TagCatalog.Proofs.TagDictionary

/-!
What a client comes to know by the attempts that it makes.

* `Attempt.tags?`: the tags that an attempt brings, in a good answer to a request for them.
* `TagDictionary.renewed`, `TagDictionary.after`: the names known after lists of tags, and after the
  attempts that bring them: those in the last list.
* `Client.Follows`: a client that comes from another by requests that carry its token: it knows the
  names that the attempts brought, and asked for tags only when it might.
* `Session.closed_follows`: this passes to all operations but those that change the token, or give
  up the names of tags; `Session.follows_listTags` is where tags are asked for.
-/

namespace TagCatalog

/-! ### What attempts bring -/

namespace Request

/-- A request asks for the tags of a service. -/
def AsksTags (r : Request) (s : Settings) : Prop :=
  r.method = .get ∧ r.url = s.endpoint "/api/tags"

/-- A request searches for images. -/
def AsksImages (r : Request) (s : Settings) : Prop :=
  r.method = .post ∧ r.url = s.endpoint "/api/search_images"

instance (r : Request) (s : Settings) : Decidable (r.AsksTags s) :=
  inferInstanceAs (Decidable (_ ∧ _))

end Request

/-- An answer is good if its status is one of success. -/
def Response.IsGood (r : Response) : Prop := 200 ≤ r.status ∧ r.status < 300

instance (r : Response) : Decidable r.IsGood := inferInstanceAs (Decidable (_ ∧ _))

lemma Response.isSuccess_iff_isGood (r : Response) : r.isSuccess = true ↔ r.IsGood := by
  simp [isSuccess, IsGood]

namespace Attempt

/-- The tags that an attempt brings: those in a good answer to a request for them. -/
def tags? (a : Attempt) (s : Settings) : Option (List ServiceTag) :=
  match a.outcome with
  | .ok r =>
    if a.request.AsksTags s ∧ r.IsGood then (Shape.list ServiceTag.shape).read r.body else none
  | .error _ => none

/-- An attempt finds images: it is a search, and the answer is a good one. -/
def FindsImages (a : Attempt) (s : Settings) : Prop :=
  a.request.AsksImages s ∧ ∃ r, a.outcome = .ok r ∧ r.IsGood

variable {a : Attempt} {s : Settings}

lemma tags?_of_not_asksTags (h : ¬ a.request.AsksTags s) : a.tags? s = none := by
  rw [tags?]
  split
  · exact if_neg fun hand => h hand.1
  · rfl

lemma tags?_of_error {f : Failure} (h : a.outcome = .error f) : a.tags? s = none := by
  rw [tags?, h]

end Attempt

namespace TagDictionary

/-- The names known after some lists of tags: those in the last one, given in order, or what was
known before if there is none. -/
def renewed (d : TagDictionary) (lists : List (List ServiceTag)) : TagDictionary :=
  lists.getLast?.elim d fun tags => .ofList (tags.map fun t => (t.id, t.name))

/-- The names known after attempts. -/
def after (d : TagDictionary) (s : Settings) (l : List Attempt) : TagDictionary :=
  d.renewed (l.filterMap (·.tags? s))

variable {d : TagDictionary} {s : Settings} {l : List Attempt}

/-- Later lists go on from what earlier ones leave. -/
lemma renewed_append (d : TagDictionary) (lists lists' : List (List ServiceTag)) :
    d.renewed (lists ++ lists') = (d.renewed lists).renewed lists' := by
  rw [renewed, renewed, List.getLast?_append]
  cases lists'.getLast? <;> rfl

lemma after_append (d : TagDictionary) (s : Settings) (l l' : List Attempt) :
    d.after s (l ++ l') = (d.after s l).after s l' := by
  rw [after, List.filterMap_append, renewed_append]
  rfl

lemma after_singleton (d : TagDictionary) (s : Settings) (a : Attempt) :
    d.after s [a] = d.renewed (a.tags? s).toList := by
  rw [after, List.filterMap_cons]
  cases a.tags? s <;> rfl

/-- Attempts that bring no tags leave the names that are known. -/
lemma after_eq_self (h : ∀ a ∈ l, a.tags? s = none) : d.after s l = d := by
  rw [after, List.filterMap_eq_nil_iff.2 h]
  rfl

end TagDictionary

namespace Burst

variable {r : Request} {l l₁ l₂ : List Attempt} {a : Attempt} {s : Settings}
  {result : Except SendError Response}

/-- The attempts before one fail, and one that is answered is the last and has the result. -/
lemma of_eq_append (h : Burst r (l₁ ++ a :: l₂) result) :
    (∀ b ∈ l₁, ∃ f, b.outcome = .error f) ∧
      ∀ answer, a.outcome = .ok answer → result = .ok answer ∧ l₂ = [] := by
  generalize hl : l₁ ++ a :: l₂ = l at h
  cases h with
  | failed h =>
    subst hl
    obtain ⟨-, f, hf⟩ := h a (by simp)
    exact ⟨fun b hb => (h b (by simp [hb])).2, fun answer ha => by cases hf.symm.trans ha⟩
  | @answered l t answer h =>
    obtain rfl | ⟨l₂, b, rfl⟩ := l₂.eq_nil_or_concat
    · obtain ⟨rfl, hlast⟩ := List.append_inj' hl rfl
      cases hlast
      exact ⟨fun b hb => (h b hb).2, fun answer ha => ⟨congrArg _ (Except.ok.inj ha), rfl⟩⟩
    · rw [List.concat_eq_append, ← List.cons_append, ← List.append_assoc] at hl
      obtain ⟨rfl, -⟩ := List.append_inj' hl rfl
      obtain ⟨-, f, hf⟩ := h a (by simp)
      exact ⟨fun b hb => (h b (by simp [hb])).2, fun answer ha => by cases hf.symm.trans ha⟩

/-- Attempts that bring no answer bring no tags. -/
lemma tags?_of_error {e : SendError} (h : Burst r l (.error e)) : ∀ a ∈ l, a.tags? s = none := by
  cases h with
  | failed h => exact fun a ha => (h a ha).2.elim fun _ hf => Attempt.tags?_of_error hf

/-- The names known after an answer are those of the tags that it brings, if any. -/
lemma after_of_ok {d : TagDictionary} {answer : Response} (h : Burst r l (.ok answer)) :
    d.after s l = d.renewed ((if r.AsksTags s ∧ answer.IsGood then
      (Shape.list ServiceTag.shape).read answer.body else none).toList) := by
  cases h with
  | answered h =>
    have hfailed := fun a ha => (h a ha).2.elim fun _ hf => Attempt.tags?_of_error (s := s) hf
    rw [TagDictionary.after_append, TagDictionary.after_eq_self hfailed,
      TagDictionary.after_singleton]
    rfl

end Burst

/-! ### Clients that come from one another -/

namespace Client

/-- A client comes from another by requests that carry its token. It knows the names of the tags that
the attempts brought, and asked for them only when it might: at a format and names known by then. -/
structure Follows (may : WireFormat → TagDictionary → Prop) (c c' : Client) : Prop where
  settings_eq : c'.settings = c.settings
  token_eq : c'.token = c.token
  grows : c.network.attempts <+: c'.network.attempts
  bearer_eq : ∀ a ∈ c.added c', a.request.bearer = c.token
  tags_eq : c'.tags = c.tags.after c.settings (c.added c')
  asks : ∀ l₁ a l₂, c.added c' = l₁ ++ a :: l₂ → a.request.AsksTags c.settings →
    may c.settings.wireFormat (c.tags.after c.settings l₁)

variable {may : WireFormat → TagDictionary → Prop} {c c' c'' : Client}

lemma added_trans (h : c.network.attempts <+: c'.network.attempts)
    (h' : c'.network.attempts <+: c''.network.attempts) :
    c.added c'' = c.added c' ++ c'.added c'' := by
  obtain ⟨l, hl⟩ := h
  obtain ⟨l', hl'⟩ := h'
  rw [added_eq hl.symm, added_eq hl'.symm, added_eq]
  rw [← hl', ← hl, List.append_assoc]

/-- An attempt among two lists of them is in the first or in the second. -/
lemma append_eq_append_cons {A B l₁ l₂ : List Attempt} {a : Attempt}
    (h : A ++ B = l₁ ++ a :: l₂) :
    (∃ l, A = l₁ ++ a :: l ∧ l₂ = l ++ B) ∨ ∃ l, l₁ = A ++ l ∧ B = l ++ a :: l₂ := by
  obtain ⟨l, rfl, hB⟩ | ⟨l, rfl, hl⟩ := List.append_eq_append_iff.1 h
  · exact .inr ⟨l, rfl, hB⟩
  · cases l with
    | nil => exact .inr ⟨[], by simp, by simpa using hl.symm⟩
    | cons b l =>
      obtain ⟨rfl, rfl⟩ := List.cons.inj hl
      exact .inl ⟨l, rfl, rfl⟩

namespace Follows

lemma refl (may : WireFormat → TagDictionary → Prop) (c : Client) : c.Follows may c where
  settings_eq := rfl
  token_eq := rfl
  grows := List.prefix_rfl
  bearer_eq := by simp [added_self]
  tags_eq := by rw [added_self]; rfl
  asks := by simp [added_self]

lemma trans (h : c.Follows may c') (h' : c'.Follows may c'') : c.Follows may c'' := by
  have hadded := added_trans h.grows h'.grows
  constructor
  · rw [h'.settings_eq, h.settings_eq]
  · rw [h'.token_eq, h.token_eq]
  · exact h.grows.trans h'.grows
  · intro a ha
    rw [hadded, List.mem_append] at ha
    obtain ha | ha := ha
    · exact h.bearer_eq a ha
    · exact (h'.bearer_eq a ha).trans h.token_eq
  · rw [h'.tags_eq, hadded, TagDictionary.after_append, ← h.tags_eq, h.settings_eq]
  · intro l₁ a l₂ hl ha
    rw [hadded] at hl
    obtain ⟨l, hfirst, -⟩ | ⟨l, rfl, hsecond⟩ := append_eq_append_cons hl
    · exact h.asks l₁ a l hfirst ha
    · have hasks := h'.asks l a l₂ hsecond
      rw [h.settings_eq] at hasks
      rw [TagDictionary.after_append, ← h.tags_eq]
      exact hasks ha

/-- A client follows another if the network differs by one burst, which brings the names that are
known now. -/
lemma of_burst {r : Request} {l : List Attempt} {result : Except SendError Response}
    {net : Network} {tags : TagDictionary} (hburst : Burst r l result)
    (hbearer : r.bearer = c.token) (hl : net.attempts = c.network.attempts ++ l)
    (hasks : r.AsksTags c.settings → may c.settings.wireFormat c.tags)
    (htags : c.tags.after c.settings l = tags) :
    c.Follows may { c with network := net, tags := tags } := by
  have hadded : c.added { c with network := net, tags := tags } = l := added_eq hl
  constructor
  · rfl
  · rfl
  · exact hl ▸ List.prefix_append ..
  · intro a ha
    rw [hadded] at ha
    rw [hburst.request_eq a ha, hbearer]
  · rw [hadded, htags]
  · intro l₁ a l₂ h ha
    rw [hadded] at h
    subst h
    rw [hburst.request_eq a (by simp)] at ha
    have hfailed : ∀ b ∈ l₁, b.tags? c.settings = none := fun b hb =>
      (hburst.of_eq_append.1 b hb).elim fun _ hf => Attempt.tags?_of_error hf
    rw [TagDictionary.after_eq_self hfailed]
    exact hasks ha

end Follows

end Client

namespace Session

open Client

variable {α : Type} {may : WireFormat → TagDictionary → Prop} {c : Client}

/-- A request that carries the token and does not ask for tags. -/
def Plain (c : Client) (r : Request) : Prop := r.bearer = c.token ∧ ¬ r.AsksTags c.settings

/-- To follow a client passes to all operations that send plain requests, and ask for tags only when
they may. -/
lemma closed_follows (may : WireFormat → TagDictionary → Prop) :
    Closed (fun c result => c.Follows may result.2) Plain (fun _ => True) where
  ok _ c := .refl may c
  fail _ c := .refl may c
  answer {build c} h cancel := by
    obtain ⟨result, l, net, hburst, hanswer, hl, -⟩ := exists_burst_answer build cancel c
    rw [hanswer]
    refine .of_burst hburst h.1 hl (fun ha => absurd ha h.2) (TagDictionary.after_eq_self ?_)
    intro a ha
    refine Attempt.tags?_of_not_asksTags ?_
    rw [hburst.request_eq a ha]
    exact h.2
  trans h h' := h.trans h'
  error h := h
  fails _ := trivial

/-- Listing the tags asks for them. If it fails, no names are brought; if not, they are known from
then on. -/
lemma exists_listTags (c : Client) :
    ∃ result l net, Burst (c.get "/api/tags") l result ∧ l ≠ [] ∧
      net.attempts = c.network.attempts ++ l ∧
      ((∃ e, listTags c = (.error e, { c with network := net }) ∧
          c.tags.after c.settings l = c.tags) ∨
        ∃ tags, listTags c =
            (.ok tags, { c with network := net, tags := dictionaryOfTags tags }) ∧
          c.tags.after c.settings l = dictionaryOfTags tags) := by
  obtain ⟨result, l, net, hburst, hanswer, hl, hne⟩ :=
    exists_burst_answer (·.get "/api/tags") .never c
  have hasks : (c.get "/api/tags").AsksTags c.settings := ⟨rfl, rfl⟩
  refine ⟨result, l, net, hburst, hne rfl, hl, ?_⟩
  cases result with
  | error e =>
    refine .inl ⟨.unsent e, ?_, TagDictionary.after_eq_self hburst.tags?_of_error⟩
    rw [listTags, succeed, bind_assoc, bind_of_error hanswer]
  | ok a =>
    rw [hburst.after_of_ok, listTags, succeed, bind_assoc, bind_of_ok hanswer, accept]
    by_cases ha : a.isSuccess
    · rw [if_pos ha, pure_bind, parse, if_pos ⟨hasks, a.isSuccess_iff_isGood.1 ha⟩]
      cases (Shape.list ServiceTag.shape).read a.body with
      | some tags => exact .inr ⟨tags, rfl, rfl⟩
      | none => exact .inl ⟨.notJson, rfl, rfl⟩
    · rw [if_neg ha, if_neg fun h => ha (a.isSuccess_iff_isGood.2 h.2)]
      exact .inl ⟨_, rfl, rfl⟩

/-- A client that lists the tags follows if it may ask for them. -/
lemma follows_listTags (hmay : may c.settings.wireFormat c.tags) :
    c.Follows may (listTags c).2 := by
  obtain ⟨result, l, net, hburst, -, hl, ⟨e, hlist, htags⟩ | ⟨tags, hlist, htags⟩⟩ :=
    exists_listTags c
  · rw [hlist]
    exact .of_burst hburst rfl hl (fun _ => hmay) htags
  · rw [hlist]
    exact .of_burst hburst rfl hl (fun _ => hmay) htags

end Session

end TagCatalog
