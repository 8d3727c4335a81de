import TagCatalog.Image.Record
import TagCatalog.Json.Reader

/-!
Values of given types read out of JSON.

* `Shape`: a reader of values, told how many lists and objects it may still open.
* `Shape.list`, `Shape.map`, `Shape.choice`: lists, maps and words.
* `Fields`: the fields of a structure, given as an object or as a list in their order. A field given
  twice is refused and one that is not known is passed over.
* `Shape.read`: a whole text; values nest at most `Shape.maxDepth` deep.
-/

namespace TagCatalog

/-- A reader of values of a type, given how many lists and objects it may still open. -/
abbrev Shape (α : Type) := Nat → Json → Option α

namespace Shape

variable {α : Type}

/-- The most lists and objects inside each other. -/
def maxDepth : Nat := 127

/-- A string. -/
def text : Shape String
  | _, .text s => some s
  | _, _ => none

/-- A truth value. -/
def bool : Shape Bool
  | _, .bool b => some b
  | _, _ => none

/-- An integer from zero up to, but not including, `bound`. -/
def natBelow (bound : Nat) : Shape Nat
  | _, .int (.ofNat n) => if n < bound then some n else none
  | _, _ => none

/-- An unsigned word of 64 bits. -/
def word64 : Shape UInt64 := fun room j => (natBelow UInt64.size room j).map UInt64.ofNat

/-- An unsigned word of 32 bits. -/
def word32 : Shape UInt32 := fun room j => (natBelow UInt32.size room j).map UInt32.ofNat

/-- A signed word of 64 bits. -/
def signed64 : Shape Int64
  | _, .int n =>
    if Int64.minValue.toInt ≤ n ∧ n ≤ Int64.maxValue.toInt then some (Int64.ofInt n) else none
  | _, _ => none

/-- A hash by its digits. -/
def hash : Shape ImageHash := fun room j => do
  (ImageHash.parse (← text room j)).toOption

/-- A value, or `null` for none. -/
def optional (shape : Shape α) : Shape (Option α)
  | _, .null => some none
  | room, j => some <$> shape room j

/-- A list of values. -/
def list (shape : Shape α) : Shape (List α)
  | room + 1, .list items => items.mapM (shape room)
  | _, _ => none

/-- An object as a map; of two members with one key the later counts. -/
def map (shape : Shape α) : Shape (OrderedMap String α)
  | room + 1, .object members => do
    return OrderedMap.ofList (← members.mapM fun m => do return (m.1, ← shape room m.2))
  | _, _ => none

/-- One of a few words, alone or as the key of `null`. -/
def choice (words : List (String × α)) : Shape α
  | _, .text s => words.lookup s
  | _ + 1, .object [(s, .null)] => words.lookup s
  | _, _ => none

end Shape

/-! ### Structures -/

/-- The fields that are given of a structure, and how deep their values may go. -/
structure Fields where
  values : List (String × Json)
  room : Nat

namespace Fields

variable {α : Type}

/-- The fields given by a value, if `names` are the fields that are known, in order. -/
def ofJson (names : List String) : Shape Fields
  | room + 1, .object members =>
    let known := members.filter fun m => m.1 ∈ names
    if (known.map (·.1)).Nodup then some ⟨known, room⟩ else none
  | room + 1, .list items =>
    if items.length ≤ names.length then some ⟨names.zip items, room⟩ else none
  | _, _ => none

/-- A field that has to be given. -/
def required (f : Fields) (name : String) (shape : Shape α) : Option α := do
  shape f.room (← f.values.lookup name)

/-- A field that stands for a value when it is not given. -/
def withDefault (f : Fields) (name : String) (shape : Shape α) (default : α) : Option α :=
  match f.values.lookup name with
  | some j => shape f.room j
  | none => some default

end Fields

/-- The value of a whole text. -/
def Shape.read {α : Type} (shape : Shape α) (bytes : Bytes) : Option α := do
  shape maxDepth (← Json.parse bytes)

end TagCatalog
