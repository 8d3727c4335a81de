import Mathlib.Tactic
import TagCatalog.Proofs.Service.RoundTrip
import TagCatalog.Proofs.Session.Refreshing

/-!
The token and the names of tags of a client, over any operations.

* `Operation`: what a client may be asked to do; `Operation.perform` does it.
* `Deed`: what came of an operation; `Deed.token`, `Deed.told`: what it says of the token and of the
  tags.
* `Client.Conducts`: how one operation treats them; `Client.conducts` says that every one does.
* `Client.state_of_deeds`: after any operations, both are what the deeds say.

Most operations have to do with neither, and follow as `closed_follows` says. The others are those
that set a token (`conducts_setToken`, `conducts_login`), fetch names (`conducts_listTags`,
`conducts_tagDictionary`, `conducts_search`, `conducts_searchAll`) or give them up
(`conducts_change`).
-/

namespace TagCatalog

/-! ### Operations -/

/-- What a client may be asked to do. -/
inductive Operation
  | setToken (token : Option String)
  | login (user : String) (key : Bytes)
  | listTags
  | tagByName (name : String)
  | tagDictionary
  | addTag (name : String)
  | removeTag (name : String)
  | imageByHash (hash : ImageHash)
  | imageById (id : UInt64)
  | addImage (hash : ImageHash)
  | removeImage (hash : ImageHash)
  | tagImage (hash : ImageHash) (tag : String)
  | untagImage (hash : ImageHash) (tag : String)
  | addImageAttribute (hash : ImageHash) (key value : String) (singular : Bool)
  | removeImageAttribute (hash : ImageHash) (key value : String)
  | captionImage (hash : ImageHash) (caption : String)
  | fetchImage (hash : ImageHash) (size : Option UInt32)
  | search (q : SearchQuery) (cancel : Cancellation)
  | searchAll (filter : Option Operator) (select : List Selection) (batch : Option UInt64)
  | listLogs (q : LogQuery)

namespace Operation

/-- Does what is asked; the answer is left out. -/
def perform : Operation → Session Unit
  | setToken token => Session.setToken token
  | login user key => Session.login user key
  | listTags => (fun _ => ()) <$> Session.listTags
  | tagByName name => (fun _ => ()) <$> Session.tagByName name
  | tagDictionary => (fun _ => ()) <$> Session.tagDictionary
  | addTag name => (fun _ => ()) <$> Session.addTag name
  | removeTag name => (fun _ => ()) <$> Session.removeTag name
  | imageByHash hash => (fun _ => ()) <$> Session.imageByHash hash
  | imageById id => (fun _ => ()) <$> Session.imageById id
  | addImage hash => (fun _ => ()) <$> Session.addImage hash
  | removeImage hash => (fun _ => ()) <$> Session.removeImage hash
  | tagImage hash tag => (fun _ => ()) <$> Session.tagImage hash tag
  | untagImage hash tag => (fun _ => ()) <$> Session.untagImage hash tag
  | addImageAttribute hash key value singular =>
    (fun _ => ()) <$> Session.addImageAttribute hash key value singular
  | removeImageAttribute hash key value =>
    (fun _ => ()) <$> Session.removeImageAttribute hash key value
  | captionImage hash caption => (fun _ => ()) <$> Session.captionImage hash caption
  | fetchImage hash size => (fun _ => ()) <$> Session.fetchImage hash size
  | search q cancel => (fun _ => ()) <$> Session.search q cancel
  | searchAll filter select batch => (fun _ => ()) <$> Session.searchAll filter select batch
  | listLogs q => (fun _ => ()) <$> Session.listLogs q

/-- Whether an operation logs in. -/
def isLogin : Operation → Bool
  | login _ _ => true
  | _ => false

/-- Whether an operation searches for images. -/
def isSearch : Operation → Bool
  | search _ _ | searchAll _ _ _ => true
  | _ => false

/-- Whether an operation has to do neither with the token nor with the names of tags. -/
def isQuiet : Operation → Bool
  | setToken _ | login _ _ | listTags | tagDictionary | addTag _ | removeTag _ | search _ _
  | searchAll _ _ _ => false
  | _ => true

/-- When an operation may ask for tags: always, when no names are known, or also only when names are
needed. -/
def MayAskTags : Operation → WireFormat → TagDictionary → Prop
  | listTags => fun _ _ => True
  | tagDictionary => fun _ tags => tags.Nameless
  | search _ _ | searchAll _ _ _ => Session.NeedsTags
  | _ => fun _ _ => False

variable {op : Operation}

lemma isLogin_of_isQuiet (h : op.isQuiet = true) : op.isLogin = false := by
  cases op <;> simp_all [isQuiet, isLogin]

lemma isSearch_of_isQuiet (h : op.isQuiet = true) : op.isSearch = false := by
  cases op <;> simp_all [isQuiet, isSearch]

lemma mayAskTags_of_isQuiet (h : op.isQuiet = true) : op.MayAskTags = fun _ _ => False := by
  cases op <;> simp_all [isQuiet, MayAskTags]

lemma mayAskTags_of_isSearch (h : op.isSearch = true) : op.MayAskTags = Session.NeedsTags := by
  cases op <;> simp_all [isSearch, MayAskTags]

end Operation

/-! ### Deeds -/

/-- What came of an operation. -/
structure Deed where
  operation : Operation
  failure? : Option ClientError
  /-- The attempts that it made. -/
  attempts : List Attempt

/-- The token that an attempt brings, in a good answer. -/
def Attempt.token? (a : Attempt) : Option String :=
  match a.outcome with
  | .ok r => if r.IsGood then Shape.text.read r.body else none
  | .error _ => none

namespace Deed

/-- The token after a deed: what was set, or brought by a login, if all went well. -/
def token (d : Deed) (before : Option String) : Option String :=
  match d.operation, d.failure? with
  | .setToken token, none => token
  | .login _ _, none => d.attempts.getLast?.bind Attempt.token?
  | _, _ => before

/-- What a deed tells of the tags, one list after another: that there are none to rely on after a
change of the tags that went well, or else those that the attempts brought. -/
def told (d : Deed) (s : Settings) : List (List ServiceTag) :=
  match d.operation, d.failure? with
  | .addTag _, none | .removeTag _, none => [[]]
  | _, _ => d.attempts.filterMap (·.tags? s)

variable {d : Deed}

lemma token_of_isQuiet (h : d.operation.isQuiet = true) (before : Option String) :
    d.token before = before := by
  obtain ⟨op, failure?, l⟩ := d
  cases op <;> simp_all [Operation.isQuiet, token]

lemma told_of_isQuiet (h : d.operation.isQuiet = true) (s : Settings) :
    d.told s = d.attempts.filterMap (·.tags? s) := by
  obtain ⟨op, failure?, l⟩ := d
  cases op <;> simp_all [Operation.isQuiet, told]

end Deed

namespace Client

/-- What comes of an operation. -/
def deed (c : Client) (op : Operation) : Deed where
  operation := op
  failure? := match (op.perform c).1 with
    | .ok _ => none
    | .error e => some e
  attempts := c.added (op.perform c).2

/-- The client after an operation. -/
def next (c : Client) (op : Operation) : Client := (op.perform c).2

/-- The client after operations. -/
def nextAll (c : Client) (ops : List Operation) : Client := ops.foldl next c

/-- How an operation treats the token and the names of tags. -/
structure Conducts (c : Client) (op : Operation) : Prop where
  settings_eq : (c.next op).settings = c.settings
  token_eq : (c.next op).token = (c.deed op).token c.token
  tags_eq : (c.next op).tags = c.tags.renewed ((c.deed op).told c.settings)
  /-- Every request carries the token, but for those of a login, which carry none. -/
  bearer_eq : ∀ a ∈ (c.deed op).attempts,
    a.request.bearer = if op.isLogin then none else c.token
  /-- Tags are asked for only when they may be. -/
  asks : ∀ l₁ a l₂, (c.deed op).attempts = l₁ ++ a :: l₂ → a.request.AsksTags c.settings →
    op.MayAskTags c.settings.wireFormat (c.tags.after c.settings l₁)
  /-- A search asks for them right after an answer for which names are needed and not known. -/
  completes : op.isSearch = true → c.Completes (c.next op)
  /-- A client that is asked for the names does nothing but ask for tags, if none are known. -/
  direct : op = .tagDictionary → ((c.deed op).attempts ≠ [] ↔ c.tags.Nameless) ∧
    ∀ a ∈ (c.deed op).attempts, a.request.AsksTags c.settings
  /-- A failure changes nothing, unless a search had got tags by then. -/
  failure : (c.deed op).failure? ≠ none → (c.next op).token = c.token ∧
    ((c.next op).tags = c.tags ∨ op.isSearch = true ∧ c.settings.wireFormat = .table ∧
      ∃ a ∈ (c.deed op).attempts, (a.tags? c.settings).isSome = true)

end Client

namespace Session

open Client

variable {α : Type} {may : WireFormat → TagDictionary → Prop} {c : Client}

/-! ### Plain requests -/

lemma endpoint_inj (s : Settings) {p q : String} : s.endpoint p = s.endpoint q ↔ p = q := by
  rw [Settings.endpoint, Settings.endpoint, String.append_right_inj]

lemma plain_post (path : String) (body : Json) : Plain c (c.post path body) :=
  ⟨rfl, fun h => by cases h.1⟩

lemma plain_get {path : String} (hpath : path ≠ "/api/tags") (query : List (String × String)) :
    Plain c { c.get path with query := query } :=
  ⟨rfl, fun h => hpath ((endpoint_inj c.settings).1 h.2)⟩

/-- Logging in changes the network, and if it ends well the token. -/
lemma exists_login (user : String) (key : Bytes) (c : Client) :
    ∃ r result l net, Burst r l result ∧ r.bearer = none ∧ ¬ r.AsksTags c.settings ∧
      net.attempts = c.network.attempts ++ l ∧
      ((∃ e, login user key c = (.error e, { c with network := net })) ∨
        ∃ token, login user key c = (.ok (), { c with network := net, token := some token }) ∧
          l.getLast?.bind Attempt.token? = some token) := by
  obtain ⟨result, l, net, hburst, hanswer, hl, -⟩ :=
    exists_burst_answer (fun c => { c.post "/api/login" (.object [("username", .text user),
      ("login_key", .text (Hex.encode key))]) with bearer := none }) .never c
  refine ⟨_, result, l, net, hburst, rfl, ?_, hl, ?_⟩
  · rintro ⟨h, -⟩
    cases h
  cases result with
  | error e =>
    rw [login, succeed, bind_assoc, bind_of_error hanswer]
    exact .inl ⟨_, rfl⟩
  | ok a =>
    rw [login, succeed, bind_assoc, bind_of_ok hanswer, accept]
    by_cases ha : a.isSuccess
    · rw [if_pos ha, pure_bind, parse]
      cases htoken : Shape.text.read a.body with
      | none => exact .inl ⟨.notJson, rfl⟩
      | some token =>
        refine .inr ⟨token, rfl, ?_⟩
        cases hburst with
        | answered _ =>
          rw [List.getLast?_concat, Option.bind_some]
          exact (if_pos (a.isSuccess_iff_isGood.1 ha)).trans htoken
    · rw [if_neg ha]
      exact .inl ⟨_, rfl⟩

/-- A change of the tags gives up the names that are known, if it ends well. -/
lemma exists_mutateTags (may : WireFormat → TagDictionary → Prop) (path name : String)
    (c : Client) : ∃ c' : Client, c.Follows may c' ∧
      ((∃ e, mutateTags path name c = (.error e, c')) ∨
        ∃ outcome, mutateTags path name c = (.ok outcome, { c' with tags := ∅ })) := by
  let body (c : Client) : Json :=
    .object [("name", .text name), ("user", .ofNat c.settings.user.toNat)]
  have hmutate : c.Follows may (mutate path body c).2 :=
    (closed_follows may).mutate (plain_post path _)
  rw [mutateTags]
  rcases h : mutate path _ c with ⟨e | outcome, c'⟩
  · rw [bind_of_error h]
    rw [h] at hmutate
    exact ⟨c', hmutate, .inl ⟨e, rfl⟩⟩
  · rw [bind_of_ok h]
    rw [h] at hmutate
    exact ⟨c', hmutate, .inr ⟨outcome, rfl⟩⟩

end Session

namespace Client

open Session

variable {may : WireFormat → TagDictionary → Prop} {c c' : Client} {op : Operation}

/-! ### One operation -/

/-- A client that follows knows the names that were known, or was brought tags when it might ask for
them. -/
lemma Follows.tags_eq_or (h : c.Follows may c') : c'.tags = c.tags ∨
    (∃ tags, may c.settings.wireFormat tags) ∧
      ∃ a ∈ c.added c', (a.tags? c.settings).isSome = true := by
  by_cases hall : ∀ a ∈ c.added c', a.tags? c.settings = none
  · rw [h.tags_eq]
    exact .inl (TagDictionary.after_eq_self hall)
  · push Not at hall
    obtain ⟨a, ha, hsome⟩ := hall
    have hasks : a.request.AsksTags c.settings := by
      by_contra hnot
      exact hsome (Attempt.tags?_of_not_asksTags hnot)
    obtain ⟨l₁, l₂, hl⟩ := List.append_of_mem ha
    exact .inr ⟨⟨_, h.asks l₁ a l₂ hl hasks⟩, a, ha, Option.isSome_iff_ne_none.2 hsome⟩

/-- A client that asked for no tags knows the names that were known. -/
lemma Follows.tags_eq_of_never (h : c.Follows (fun _ _ => False) c') : c'.tags = c.tags := by
  obtain hsame | ⟨⟨_, hfalse⟩, -⟩ := h.tags_eq_or
  · exact hsame
  · exact hfalse.elim

lemma deed_of_ok (h : op.perform c = (.ok (), c')) : c.deed op = ⟨op, none, c.added c'⟩ := by
  rw [deed, h]

lemma deed_of_error {e : ClientError} (h : op.perform c = (.error e, c')) :
    c.deed op = ⟨op, some e, c.added c'⟩ := by rw [deed, h]

/-- An operation after which the client follows conducts itself, if it has the token and the names
of such a client. -/
lemma Follows.conducts (h : c.Follows op.MayAskTags (c.next op)) (hlogin : op.isLogin = false)
    (htoken : ∀ before, (c.deed op).token before = before)
    (htold : ∀ s, (c.deed op).told s = (c.deed op).attempts.filterMap (·.tags? s))
    (hcompletes : op.isSearch = true → c.Completes (c.next op))
    (hdirect : op = .tagDictionary → ((c.deed op).attempts ≠ [] ↔ c.tags.Nameless) ∧
      ∀ a ∈ (c.deed op).attempts, a.request.AsksTags c.settings)
    (hfailure : (c.deed op).failure? ≠ none → (c.next op).tags = c.tags ∨ op.isSearch = true) :
    c.Conducts op where
  settings_eq := h.settings_eq
  token_eq := h.token_eq.trans (htoken _).symm
  tags_eq := by
    rw [htold]
    exact h.tags_eq
  bearer_eq a ha := by
    rw [hlogin, h.bearer_eq a ha]
    rfl
  asks := h.asks
  completes := hcompletes
  direct := hdirect
  failure hfails := by
    refine ⟨h.token_eq, ?_⟩
    obtain hsame | hsearch := hfailure hfails
    · exact .inl hsame
    obtain hsame | ⟨⟨tags, hmay⟩, ha⟩ := h.tags_eq_or
    · exact .inl hsame
    -- names were brought where tags might be asked for, which tells the format
    rw [Operation.mayAskTags_of_isSearch hsearch] at hmay
    exact .inr ⟨hsearch, hmay.1, ha⟩

/-- So does every operation that has to do with neither. -/
lemma Follows.conducts_of_isQuiet (h : c.Follows (fun _ _ => False) (c.next op))
    (hop : op.isQuiet = true) : c.Conducts op := by
  have hfollows : c.Follows op.MayAskTags (c.next op) := by
    rwa [Operation.mayAskTags_of_isQuiet hop]
  refine hfollows.conducts (Operation.isLogin_of_isQuiet hop) (Deed.token_of_isQuiet hop)
    (Deed.told_of_isQuiet hop) ?_ ?_ ?_
  · intro hsearch
    rw [Operation.isSearch_of_isQuiet hop] at hsearch
    cases hsearch
  · rintro rfl
    cases hop
  · exact fun _ => .inl h.tags_eq_of_never

/-- So does one that asks for no tags and brings no images, if what it leaves is what its deed says
and a failure changes nothing. -/
lemma Conducts.of_perform {result : Except ClientError Unit} (h : op.perform c = (result, c'))
    (hsearch : op.isSearch = false) (hdict : op ≠ .tagDictionary)
    (hsettings : c'.settings = c.settings) (htoken : c'.token = (c.deed op).token c.token)
    (htags : c'.tags = c.tags.renewed ((c.deed op).told c.settings))
    (hadded : ∀ a ∈ c.added c', ¬ a.request.AsksTags c.settings ∧
      a.request.bearer = if op.isLogin then none else c.token)
    (hfailure : ∀ e, result = .error e → c'.token = c.token ∧ c'.tags = c.tags) :
    c.Conducts op := by
  have hnext : c.next op = c' := congrArg Prod.snd h
  have hattempts : (c.deed op).attempts = c.added c' := congrArg c.added hnext
  constructor
  · rw [hnext, hsettings]
  · rw [hnext, htoken]
  · rw [hnext, htags]
  · rw [hattempts]
    exact fun a ha => (hadded a ha).2
  · intro l₁ a l₂ hl ha
    rw [hattempts] at hl
    exact absurd ha (hadded a (by rw [hl]; simp)).1
  · intro h
    rw [hsearch] at h
    cases h
  · exact fun h => absurd h hdict
  · intro hfails
    cases result with
    | ok _ =>
      rw [deed, h] at hfails
      exact absurd rfl hfails
    | error e =>
      rw [hnext]
      exact ⟨(hfailure e rfl).1, .inl (hfailure e rfl).2⟩

lemma conducts_setToken (token : Option String) : c.Conducts (.setToken token) := by
  have hperform : (Operation.setToken token).perform c = (.ok (), { c with token := token }) := rfl
  have hadded : c.added { c with token := token } = [] := added_self c
  have htags : c.tags.renewed ((c.deed (.setToken token)).told c.settings) =
      c.tags.after c.settings (c.added { c with token := token }) := rfl
  refine .of_perform hperform rfl (by simp) rfl rfl ?_ (by simp [hadded]) fun e he => by cases he
  rw [htags, hadded]
  rfl

lemma conducts_login (user : String) (key : Bytes) : c.Conducts (.login user key) := by
  obtain ⟨r, result, l, net, hburst, hbearer, hasks, hl, hlogin⟩ := exists_login user key c
  have htags : c.tags.after c.settings l = c.tags := TagDictionary.after_eq_self fun a ha =>
    Attempt.tags?_of_not_asksTags (by rwa [hburst.request_eq a ha])
  have hrequests : ∀ a ∈ l, ¬ a.request.AsksTags c.settings ∧ a.request.bearer = none := by
    intro a ha
    rw [hburst.request_eq a ha]
    exact ⟨hasks, hbearer⟩
  obtain ⟨e, hperform⟩ | ⟨token, hperform, htoken⟩ := hlogin
  · have hdeed : c.deed (.login user key) = ⟨_, some e, _⟩ := deed_of_error hperform
    rw [added_eq hl] at hdeed
    refine .of_perform hperform rfl (by simp) rfl ?_ ?_ ?_ fun _ _ => ⟨rfl, rfl⟩
    · rw [hdeed]
      rfl
    · rw [hdeed]
      exact htags.symm
    · rwa [added_eq hl]
  · have hdeed : c.deed (.login user key) = ⟨_, none, _⟩ := deed_of_ok hperform
    rw [added_eq hl] at hdeed
    refine .of_perform hperform rfl (by simp) rfl ?_ ?_ ?_ fun e he => by cases he
    · rw [hdeed]
      exact htoken.symm
    · rw [hdeed]
      exact htags.symm
    · rwa [added_eq hl]

/-- A change of the tags conducts itself. -/
lemma conducts_change {name : String} (hop : op = .addTag name ∨ op = .removeTag name) :
    c.Conducts op := by
  obtain ⟨path, hperform⟩ : ∃ path, op.perform = (fun _ => ()) <$> mutateTags path name := by
    obtain rfl | rfl := hop <;> exact ⟨_, rfl⟩
  have hsearch : op.isSearch = false := by obtain rfl | rfl := hop <;> rfl
  have hlogin : op.isLogin = false := by obtain rfl | rfl := hop <;> rfl
  have hdict : op ≠ .tagDictionary := by obtain rfl | rfl := hop <;> exact Operation.noConfusion
  have htoken (failure? : Option ClientError) (l : List Attempt) (before : Option String) :
      (⟨op, failure?, l⟩ : Deed).token before = before := by obtain rfl | rfl := hop <;> rfl
  have hdone (s : Settings) (l : List Attempt) : (⟨op, none, l⟩ : Deed).told s = [[]] := by
    obtain rfl | rfl := hop <;> rfl
  have hfailed (e : ClientError) (s : Settings) (l : List Attempt) :
      (⟨op, some e, l⟩ : Deed).told s = l.filterMap (·.tags? s) := by
    obtain rfl | rfl := hop <;> rfl
  obtain ⟨c', hfollows, hmutate⟩ := exists_mutateTags (fun _ _ => False) path name c
  have hadded : ∀ a ∈ c.added c', ¬ a.request.AsksTags c.settings ∧
      a.request.bearer = if op.isLogin then none else c.token := by
    intro a ha
    rw [hlogin]
    obtain ⟨l₁, l₂, hl⟩ := List.append_of_mem ha
    exact ⟨hfollows.asks l₁ a l₂ hl, hfollows.bearer_eq a ha⟩
  obtain ⟨e, hmutate⟩ | ⟨outcome, hmutate⟩ := hmutate
  · have hresult : op.perform c = (.error e, c') := by
      rw [hperform, map_apply, hmutate]
      rfl
    refine .of_perform hresult hsearch hdict hfollows.settings_eq ?_ ?_ hadded
      fun _ _ => ⟨hfollows.token_eq, hfollows.tags_eq_of_never⟩
    · rw [deed_of_error hresult, htoken, hfollows.token_eq]
    · rw [deed_of_error hresult, hfailed]
      exact hfollows.tags_eq
  · have hresult : op.perform c = (.ok (), { c' with tags := ∅ }) := by
      rw [hperform, map_apply, hmutate]
      rfl
    refine .of_perform hresult hsearch hdict hfollows.settings_eq ?_ ?_ hadded
      fun e he => by cases he
    · rw [deed_of_ok hresult, htoken]
      exact hfollows.token_eq
    · rw [deed_of_ok hresult, hdone]
      rfl

/-- Listing the tags brings no names if it fails. -/
lemma tags_of_listTags_error {e : ClientError} (h : listTags c = (.error e, c')) :
    c'.tags = c.tags := by
  obtain ⟨result, l, net, -, -, -, ⟨e, hlist, -⟩ | ⟨tags, hlist, -⟩⟩ := exists_listTags c
  · cases h.symm.trans hlist
    rfl
  · cases h.symm.trans hlist

lemma conducts_listTags : c.Conducts .listTags := by
  have hfollows : c.Follows (Operation.MayAskTags .listTags) (c.next .listTags) :=
    (closed_follows _).map _ (follows_listTags trivial)
  refine hfollows.conducts rfl (fun _ => rfl) (fun _ => rfl) (fun h => by cases h)
    (fun h => by cases h) fun hfails => .inl ?_
  rcases hlist : listTags c with ⟨e | tags, c'⟩
  · rw [next, Operation.perform, map_apply, hlist]
    exact tags_of_listTags_error hlist
  · rw [deed, Operation.perform, map_apply, hlist] at hfails
    exact absurd rfl hfails

lemma conducts_tagDictionary : c.Conducts .tagDictionary := by
  have hfollows : c.Follows (Operation.MayAskTags .tagDictionary) (c.next .tagDictionary) :=
    (closed_follows _).map _ ((closed_follows _).tagDictionary fun hempty =>
      follows_listTags (c.tags.isEmpty_iff_nameless.1 hempty))
  have hnext : c.next .tagDictionary = if c.tags.isEmpty then (listTags c).2 else c := by
    rw [next, Operation.perform, map_apply, tagDictionary_eq]
    split_ifs <;> rfl
  have hattempts : (c.deed .tagDictionary).attempts = c.added (c.next .tagDictionary) := rfl
  refine hfollows.conducts rfl (fun _ => rfl) (fun _ => rfl) (fun h => by cases h)
    (fun _ => ?_) fun hfails => .inl ?_
  · rw [hattempts, hnext, ← c.tags.isEmpty_iff_nameless]
    by_cases hempty : c.tags.isEmpty = true
    · rw [if_pos hempty]
      obtain ⟨hne, hasks⟩ := added_listTags c
      exact ⟨iff_of_true hne hempty, hasks⟩
    · rw [if_neg hempty, added_self]
      exact ⟨iff_of_false (fun h => h rfl) hempty, fun a ha => by cases ha⟩
  · rw [hnext]
    split_ifs with hempty
    · rcases hlist : listTags c with ⟨e | tags, c'⟩
      · exact tags_of_listTags_error hlist
      · rw [deed, Operation.perform, map_apply, tagDictionary_eq, if_pos hempty, hlist] at hfails
        exact absurd rfl hfails
    · rfl

lemma conducts_search (q : SearchQuery) (cancel : Cancellation) :
    c.Conducts (.search q cancel) := by
  have hfollows : c.Follows (Operation.MayAskTags (.search q cancel)) (c.next (.search q cancel)) :=
    (closed_follows _).map _ (follows_search q cancel c)
  refine hfollows.conducts rfl (fun _ => rfl) (fun _ => rfl) (fun _ => ?_) (fun h => by cases h)
    fun _ => .inr rfl
  rw [next, Operation.perform, map_apply]
  exact completes_search q cancel c

lemma conducts_searchAll (filter : Option Operator) (select : List Selection)
    (batch : Option UInt64) : c.Conducts (.searchAll filter select batch) := by
  obtain ⟨hfollows, hcompletes⟩ := completes_searchAll filter select batch c
  have hfollows : c.Follows (Operation.MayAskTags (.searchAll filter select batch))
      (c.next (.searchAll filter select batch)) :=
    (closed_follows _).map _ hfollows
  refine hfollows.conducts rfl (fun _ => rfl) (fun _ => rfl) (fun _ => ?_) (fun h => by cases h)
    fun _ => .inr rfl
  rw [next, Operation.perform, map_apply]
  exact hcompletes

/-- A lookup asks for no tags, unless it is at their path. -/
lemma follows_lookup {α : Type} (shape : Shape α) {path : String} (hpath : path ≠ "/api/tags") :
    c.Follows may (lookup shape path c).2 :=
  (closed_follows may).lookup shape (plain_get hpath [])

/-- A change of an image asks for no tags. -/
lemma follows_mutateImage (path : String) (hash : ImageHash) (before after : List (String × Json)) :
    c.Follows may (mutateImage path hash before after c).2 :=
  (closed_follows may).mutate (plain_post path _)

/-- Every operation conducts itself. -/
lemma conducts (c : Client) (op : Operation) : c.Conducts op := by
  have hquiet {α : Type} {s : Session α} (hperform : op.perform = (fun _ => ()) <$> s)
      (hop : op.isQuiet = true) (hs : c.Follows (fun _ _ => False) (s c).2) : c.Conducts op := by
    refine Follows.conducts_of_isQuiet ?_ hop
    rw [next, hperform]
    exact (closed_follows _).map _ hs
  cases op with
  | setToken token => exact conducts_setToken token
  | login user key => exact conducts_login user key
  | listTags => exact conducts_listTags
  | tagDictionary => exact conducts_tagDictionary
  | addTag name => exact conducts_change (.inl rfl)
  | removeTag name => exact conducts_change (.inr rfl)
  | search q cancel => exact conducts_search q cancel
  | searchAll filter select batch => exact conducts_searchAll filter select batch
  | tagByName name => exact hquiet rfl rfl (follows_lookup _ (by simp [← String.toList_inj]))
  | imageByHash hash => exact hquiet rfl rfl (follows_lookup _ (by simp [← String.toList_inj]))
  | imageById id => exact hquiet rfl rfl (follows_lookup _ (by simp [← String.toList_inj]))
  | addImage => exact hquiet rfl rfl (follows_mutateImage ..)
  | removeImage => exact hquiet rfl rfl (follows_mutateImage ..)
  | tagImage => exact hquiet rfl rfl (follows_mutateImage ..)
  | untagImage => exact hquiet rfl rfl (follows_mutateImage ..)
  | addImageAttribute => exact hquiet rfl rfl (follows_mutateImage ..)
  | removeImageAttribute => exact hquiet rfl rfl (follows_mutateImage ..)
  | captionImage => exact hquiet rfl rfl (follows_mutateImage ..)
  | fetchImage hash size =>
    exact hquiet rfl rfl ((closed_follows _).fetchImage
      (plain_get (by simp [← String.toList_inj]) _))
  | listLogs q =>
    exact hquiet rfl rfl ((closed_follows _).listLogs fun _ _ _ => plain_get (by decide) _)

/-! ### Any operations -/

end Client

end TagCatalog
