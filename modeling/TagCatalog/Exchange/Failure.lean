/-!
What can keep a response from coming.

* `Failure`: one attempt brought no response.
* `SendError`: no attempt brought one, or the request was given up.
-/

namespace TagCatalog

/-- Why an attempt brought no response. -/
inductive Failure
  | connect (detail : String)
  | timeout (detail : String)
  | io (detail : String)
  /-- The request itself cannot be sent. -/
  | invalidRequest (detail : String)
  deriving Repr, DecidableEq

namespace Failure

/-- The wording of a failure. -/
def message : Failure → String
  | connect detail => "connection failed: " ++ detail
  | timeout detail => "request timed out: " ++ detail
  | io detail => "transport I/O error: " ++ detail
  | invalidRequest detail => "invalid request: " ++ detail

/-- Whether another attempt may bring a response. -/
def isRetryable : Failure → Bool
  | invalidRequest _ => false
  | _ => true

end Failure

/-- Why a request brought no response. -/
inductive SendError
  /-- Every attempt that the policy allows has failed. -/
  | exhausted (attempts : Nat) (last : Failure)
  /-- The request was given up after so many attempts. -/
  | cancelled (attempts : Nat)
  /-- An attempt failed in a way that no other attempt mends. -/
  | final (attempts : Nat) (failure : Failure)
  deriving Repr, DecidableEq

namespace SendError

/-- The number of attempts made. -/
def attempts : SendError → Nat
  | exhausted n _ | cancelled n | final n _ => n

/-- The wording of an error. -/
def message : SendError → String
  | exhausted n last => "gave up after " ++ toString n ++ " attempts: " ++ last.message
  | cancelled n => "cancelled after " ++ toString n ++ " attempts"
  | final n failure => "request failed on attempt " ++ toString n ++ ": " ++ failure.message

end SendError

end TagCatalog
