import TagCatalog.Exchange.Network
import TagCatalog.Json.Shape
import TagCatalog.Query.Search
import TagCatalog.Settings

/-!
Sessions with the service: operations that send requests and keep what the answers tell.

* `Client`: the settings, the token and the known tags.
* `Session`: an operation of a client; what it has done before a failure stays done.
* `Session.succeed`, `Session.lookup`, `Session.mutate`: the three ways in which an answer is read.
* `Session.Keeps`: no operation brings outcomes back; `Session.Spends` says that a success has used
  one up. `Session.paged` goes on from page to page, which ends because every page uses one up.
-/

namespace TagCatalog

/-- Why an operation failed. -/
inductive ClientError
  /-- No response came. -/
  | unsent (e : SendError)
  /-- The response to a search cannot be read. -/
  | undecoded (e : Wire.DecodeError)
  /-- The service did not do what was asked. -/
  | remote (status : Nat) (body : String)
  /-- The response is not the JSON that was expected. -/
  | notJson
  /-- The search cannot be sent. -/
  | query (fault : QueryFault)
  deriving Repr, DecidableEq

namespace ClientError

/-- The wording of an error. -/
def message (w : Wording) : ClientError → String
  | unsent e => e.message
  | undecoded e => e.message
  | remote status body => "remote error " ++ toString status ++ ": " ++ body
  | notJson => "invalid JSON from service: " ++ w.json none
  | query fault => "invalid query: " ++ fault.message

end ClientError

/-- A client of the service. -/
structure Client where
  settings : Settings
  /-- The token that requests carry. -/
  token : Option String
  /-- The tags last fetched, if they are still good. -/
  tags : TagDictionary
  network : Network

namespace Client

/-- A client at the start of a session. -/
def ofSettings (s : Settings) (net : Network) : Client := ⟨s, s.token, ∅, net⟩

/-- A request for what is at a path. -/
def get (c : Client) (path : String) : Request :=
  { Request.plain .get (c.settings.endpoint path) with bearer := c.token }

/-- A request that brings a value to a path. -/
def post (c : Client) (path : String) (body : Json) : Request :=
  { Request.plain .post (c.settings.endpoint path) with
    body := some (.json body)
    bearer := c.token }

/-- The state of a client in words. -/
def describe (c : Client) : String :=
  "TagStormClient \x7b api_url: " ++ Text.quoted c.settings.apiUrl ++ ", wire_format: " ++
    (match c.settings.wireFormat with | .flat => "Flat" | .table => "Table") ++
    ", authenticated: " ++ toString c.token.isSome ++ ", known_tags: " ++ toString c.tags.size ++
    " \x7d"

end Client

/-- Operations of a client: a failure leaves what was done before it. -/
abbrev Session (α : Type) := ExceptT ClientError (StateM Client) α

/-- What became of a change that was asked for. -/
inductive MutationOutcome
  | applied
  /-- The service already had it so. -/
  | alreadyExists
  deriving Repr, DecidableEq

namespace MutationOutcome

/-- The word for an outcome. -/
def name : MutationOutcome → String
  | applied => "Applied"
  | alreadyExists => "AlreadyExists"

end MutationOutcome

namespace Session

variable {α β κ : Type}

/-! ### Requests and answers -/

/-- Fails. -/
def fail (e : ClientError) : Session α := fun c => (.error e, c)

/-- Sends a request that depends on the client; any answer will do. -/
def answer (build : Client → Request) (cancel : Cancellation) : Session Response := fun c =>
  match c.network.send c.settings.retry.policy cancel (build c) with
  | (.ok a, net) => (.ok a, { c with network := net })
  | (.error e, net) => (.error (.unsent e), { c with network := net })

/-- Accepts an answer that tells of success. -/
def accept (a : Response) : Session Response :=
  if a.isSuccess then pure a else fail (.remote a.status a.text)

/-- Sends a request that has to succeed. -/
def succeed (build : Client → Request) (cancel : Cancellation) : Session Response := do
  accept (← answer build cancel)

/-- The value in the body of an answer. -/
def parse (shape : Shape α) (a : Response) : Session α :=
  match shape.read a.body with
  | some v => pure v
  | none => fail .notJson

/-- The value at a path, or none if the service does not know it. -/
def lookup (shape : Shape α) (path : String) : Session (Option α) := do
  let a ← answer (·.get path) .never
  if a.isNotFound then return none
  else return some (← parse shape (← accept a))

/-- Asks for a change. -/
def mutate (path : String) (body : Client → Json) : Session MutationOutcome := do
  let a ← answer (fun c => c.post path (body c)) .never
  if a.isConflict then return .alreadyExists
  else
    let _ ← accept a
    return .applied

/-! ### Progress -/

/-- Two operations run one after the other, the second only if the first succeeds. -/
theorem bind_apply (s : Session α) (f : α → Session β) (c : Client) :
    (s >>= f) c = match s c with
      | (.ok a, c') => f a c'
      | (.error e, c') => (.error e, c') := by
  change (ExceptT.bindCont f (s c).1) (s c).2 = _
  rcases s c with ⟨a | a, c'⟩ <;> rfl

/-- The number of outcomes that are left for a client. -/
def outcomesLeft (c : Client) : Nat := c.network.outcomes.length

/-- An operation brings no outcome back. -/
def Keeps (s : Session α) : Prop := ∀ c, outcomesLeft (s c).2 ≤ outcomesLeft c

/-- An operation that succeeds has used up an outcome. -/
def Spends (s : Session α) : Prop :=
  ∀ c a c', s c = (.ok a, c') → outcomesLeft c' < outcomesLeft c

/-- An answer that is known beforehand costs no outcome. -/
theorem keeps_pure (a : α) : Keeps (pure a : Session α) := fun _ => Nat.le_refl _

/-- A failure that is known beforehand costs no outcome. -/
theorem keeps_fail (e : ClientError) : Keeps (fail e : Session α) := fun _ => Nat.le_refl _

/-- Looking at the client costs no outcome. -/
theorem keeps_get : Keeps (get : Session Client) := fun _ => Nat.le_refl _

/-- Changes of the client that leave the network alone cost no outcome. -/
theorem keeps_modify {f : Client → Client} (h : ∀ c, (f c).network = c.network) :
    Keeps (modify f : Session PUnit) := fun c => by
  change outcomesLeft (f c) ≤ _
  rw [outcomesLeft, h]
  exact Nat.le_refl _

/-- Two operations that bring no outcome back bring none back together. -/
theorem Keeps.bind {s : Session α} {f : α → Session β} (hs : Keeps s) (hf : ∀ a, Keeps (f a)) :
    Keeps (s >>= f) := fun c => by
  have h := hs c
  rw [bind_apply]
  split
  next a c' e => exact Nat.le_trans (hf a c') (by rwa [e] at h)
  next _ c' e => rwa [e] at h

/-- A bind spends when its first part does. -/
theorem Spends.bind {s : Session α} {f : α → Session β} (hs : Spends s)
    (hf : ∀ a, Keeps (f a)) : Spends (s >>= f) := fun c b c' h => by
  rw [bind_apply] at h
  split at h
  next a c'' e =>
    have h' := hf a c''
    rw [h] at h'
    exact Nat.lt_of_le_of_lt h' (hs c a c'' e)
  next => cases h

/-- A failure is no success. -/
theorem spends_fail (e : ClientError) : Spends (fail e : Session α) := fun _ _ _ h => by cases h

/-- Sending a request brings no outcome back. -/
theorem keeps_answer (build : Client → Request) (cancel : Cancellation) :
    Keeps (answer build cancel) := fun c => by
  have h := c.network.length_outcomes_send_le c.settings.retry.policy cancel (build c)
  rw [answer]
  split
  next e => rwa [e] at h
  next e => rwa [e] at h

/-- Looking at an answer costs no outcome. -/
theorem keeps_accept (a : Response) : Keeps (accept a) := by
  rw [accept]
  split
  · exact keeps_pure a
  · exact keeps_fail _

/-- Sending a request that has to succeed brings no outcome back. -/
theorem keeps_succeed (build : Client → Request) (cancel : Cancellation) :
    Keeps (succeed build cancel) := (keeps_answer _ _).bind keeps_accept

/-- A request succeeds only by an outcome: no attempt beyond them tells of success. -/
theorem spends_succeed (build : Client → Request) (cancel : Cancellation) :
    Spends (succeed build cancel) := fun c a c' h => by
  rw [succeed, bind_apply] at h
  split at h
  next a' c'' e =>
    rw [accept] at h
    split at h
    next ha =>
      obtain ⟨rfl, rfl⟩ : a' = a ∧ c'' = c' := by cases h; exact ⟨rfl, rfl⟩
      rw [answer] at e
      split at e
      next a'' net e' =>
        cases e
        have := Network.length_outcomes_send_lt (congrArg Prod.fst e') ha
        rwa [e'] at this
      next => cases e
    next => cases h
  next => cases h

/-- Reading an answer costs no outcome. -/
theorem keeps_parse (shape : Shape α) (a : Response) : Keeps (parse shape a) := by
  rw [parse]
  split
  · exact keeps_pure _
  · exact keeps_fail _

/-! ### Pages -/

/-- Fetches page after page up to the first empty one. `next` tells from a page where the one after
it begins. -/
def paged (fetch : κ → Session (List α)) (spends : ∀ k, Spends (fetch k))
    (next : List α → Except ClientError κ) (k : κ) (c : Client) :
    Except ClientError (List α) × Client :=
  match h : fetch k c with
  | (.error e, c') => (.error e, c')
  | (.ok [], c') => (.ok [], c')
  | (.ok (a :: page), c') =>
    have : outcomesLeft c' < outcomesLeft c := spends k c _ c' h
    match next (a :: page) with
    | .error e => (.error e, c')
    | .ok k' =>
      match paged fetch spends next k' c' with
      | (.ok rest, c') => (.ok (a :: page ++ rest), c')
      | (.error e, c') => (.error e, c')
termination_by outcomesLeft c

end Session

end TagCatalog
