import TagCatalog.Cache.Memo
import TagCatalog.Session.Images

/-!
A worker that computes a value of each image and keeps those last used.

* `Worker.valueFor`: the value of a hash, computed from the hash alone.
* `Worker.valueFromImageM`: the value of a hash, computed from the bytes of the image, which are
  fetched only if no value is kept. Of a failure nothing is kept.
* `Worker.valueFromImage`: the same, with whether the computation was run.
-/

namespace TagCatalog

/-- Why a worker has no value. -/
inductive WorkerError (ε : Type := String)
  | client (e : ClientError)
  | imageNotFound (hash : ImageHash)
  /-- The computation failed. -/
  | compute (error : ε)
  deriving DecidableEq

/-- The wording of an error. -/
def WorkerError.message {ε : Type} [ToString ε] (w : Wording) : WorkerError ε → String
  | client e => e.message w
  | imageNotFound hash => "image " ++ hash.toHex ++ " not found"
  | compute error => "embedding failed: " ++ toString error

/-- The values that a worker keeps. -/
abbrev Worker (α : Type) := Memo ImageHash α

namespace Worker

variable {α ε : Type}

/-- The value of a hash, computed from the hash if none is kept. -/
def valueFor (w : Worker α) (hash : ImageHash) (compute : ImageHash → α) :
    Memo.Found α WorkerError × Worker α :=
  w.getOrTry hash fun h => .ok (compute h)

/-- The value of a hash, computed from the bytes of the image if none is kept. The computation may
act in any monad. -/
def valueFromImageM {μ : Type → Type} [Monad μ] (w : Worker α) (hash : ImageHash)
    (compute : Bytes → μ (Except ε α)) (c : Client) :
    μ (Except (WorkerError ε) α × Worker α × Client) :=
  match w.get hash with
  | (some a, w) => pure (.ok a, w, c)
  | (none, w) =>
    match Session.fetchImage hash none c with
    | (.error e, c) => pure (.error (.client e), w, c)
    | (.ok none, c) => pure (.error (.imageNotFound hash), w, c)
    | (.ok (some bytes), c) => do
      match ← compute bytes with
      | .error e => return (.error (.compute e), w, c)
      | .ok a => return (.ok a, w.insert hash a, c)

/-- The value of a hash, computed from the bytes of the image if none is kept, and whether it was
computed. -/
def valueFromImage (w : Worker α) (hash : ImageHash) (compute : Bytes → Except ε α) (c : Client) :
    Memo.Found α (WorkerError ε) × Worker α × Client :=
  let ((result, w, c), runs) := (w.valueFromImageM hash (Memo.counted compute) c).run 0
  (⟨runs ≠ 0, result⟩, w, c)

end Worker

end TagCatalog
