import Mathlib.Tactic
import TagCatalog.Proofs.Json.RoundTrip
import TagCatalog.Query.Search

/-!
Searches are read back from their JSON.

* `Operator.levels`: how many lists and objects the JSON of a filter opens inside each other.
* `Operator.shape_toJson`, `SearchQuery.shape_toJson`: filters and searches are read back, if there
  is room for them.
-/

namespace TagCatalog

namespace Shape

variable {α : Type} {room : Nat}

@[simp] lemma word64_ofNat (n : UInt64) : word64 room (.ofNat (UInt64.toNat n)) = some n := by
  have hlt : n.toNat < UInt64.size := n.toNat_lt_size
  simp [word64, natBelow, Json.ofNat, hlt]

@[simp] lemma text_text (s : String) : text room (.text s) = some s := by rw [text]

/-- A value that is not `null` is not taken for an absent one. -/
lemma optional_of_eq_some {shape : Shape α} {a : α} {j : Json} (h : shape room j = some a)
    (hne : j ≠ .null) : optional shape room j = some (some a) := by
  rw [optional, h]
  · rfl
  · exact hne

/-- A value that may be absent is read back, if no value is written as `null`. -/
lemma optional_ofOption {shape : Shape α} {toJson : α → Json} {o : Option α}
    (h : ∀ a ∈ o, shape room (toJson a) = some a ∧ toJson a ≠ .null) :
    optional shape room (.ofOption toJson o) = some o := by
  cases o with
  | none => rfl
  | some a => exact optional_of_eq_some (h a rfl).1 (h a rfl).2

@[simp] lemma optional_text (o : Option String) :
    optional text room (.ofOption .text o) = some o :=
  optional_ofOption fun s _ => ⟨text_text s, Json.noConfusion⟩

/-- A list is read back if its items are. -/
lemma list_map {shape : Shape α} {toJson : α → Json} {l : List α}
    (h : ∀ a ∈ l, shape room (toJson a) = some a) :
    list shape (room + 1) (.list (l.map toJson)) = some l := by
  rw [list, Json.mapM_map_eq_some h]

end Shape

namespace Operator

/-- How many lists and objects the JSON of a filter opens inside each other. -/
def levels : Operator → Nat
  | not inner => inner.levels + 1
  | and l r | or l r => max l.levels r.levels + 2
  | hasAttribute _ _ => 2
  | tag _ | minId _ | maxId _ => 1

/-- A part opens at most two for each that it nests, and two of its own. -/
lemma levels_le (op : Operator) : op.levels ≤ 2 * op.depth + 2 := by
  induction op with
  | not inner ih => simp only [levels, depth]; omega
  | and l r ihl ihr => simp only [levels, depth]; omega
  | or l r ihl ihr => simp only [levels, depth]; omega
  | _ => simp [levels, depth]

/-- A filter is read back if there is room for it. -/
theorem shape_toJson (op : Operator) {room : Nat} (h : op.levels ≤ room) :
    shape room op.toJson = some op := by
  induction op generalizing room with
  | not inner ih =>
    match room, h with
    | room + 1, h =>
      rw [toJson, shape.eq_def]
      simp [ih (Nat.le_of_succ_le_succ h)]
  | and l r ihl ihr =>
    match room, h with
    | room + 2, h =>
      have hmax := max_le_iff.1 (Nat.le_of_add_le_add_right h)
      simp [toJson, shape, ihl hmax.1, ihr hmax.2]
  | or l r ihl ihr =>
    match room, h with
    | room + 2, h =>
      have hmax := max_le_iff.1 (Nat.le_of_add_le_add_right h)
      simp [toJson, shape, ihl hmax.1, ihr hmax.2]
  | hasAttribute key value =>
    match room, h with
    | room + 2, _ =>
      simp [toJson, shape]
  | tag id =>
    match room, h with
    | room + 1, _ =>
      rw [toJson, shape.eq_def]
      simp
  | minId id =>
    match room, h with
    | room + 1, _ =>
      rw [toJson, shape.eq_def]
      simp
  | maxId id =>
    match room, h with
    | room + 1, _ =>
      rw [toJson, shape.eq_def]
      simp

lemma toJson_ne_null (op : Operator) : op.toJson ≠ .null := by
  cases op <;> exact Json.noConfusion

end Operator

/-! ### Searches -/

lemma Selection.shape_text (s : Selection) {room : Nat} :
    Selection.shape room (.text s.name) = some s := by
  cases s <;> rfl

lemma Order.shape_text (o : Order) {room : Nat} : Order.shape room (.text o.name) = some o := by
  cases o <;> rfl

/-- How many lists and objects the JSON of a search opens inside each other. -/
def SearchQuery.levels (q : SearchQuery) : Nat :=
  max 1 ((q.operator.map Operator.levels).getD 0) + 1

/-- A search is read back if there is room for it. -/
theorem SearchQuery.shape_toJson (q : SearchQuery) {room : Nat} (h : q.levels ≤ room) :
    shape room q.toJson = some q := by
  obtain ⟨room, rfl⟩ : ∃ k, room = k + 2 := Nat.exists_eq_add_of_le' (le_trans (by simp [levels]) h)
  obtain ⟨select, orderBy, limit, operator⟩ := q
  have hselect : Shape.list Selection.shape (room + 1)
      (.list (select.map fun s => .text s.name)) = some select :=
    Shape.list_map fun s _ => Selection.shape_text s
  have horder (o : Order) : Shape.optional Order.shape (room + 1) (.text o.name) = some (some o) :=
    Shape.optional_of_eq_some (Order.shape_text o) Json.noConfusion
  have hlimit (n : UInt64) :
      Shape.optional Shape.word64 (room + 1) (.ofNat n.toNat) = some (some n) :=
    Shape.optional_of_eq_some (Shape.word64_ofNat n) Json.noConfusion
  have hoperator (op : Operator) (hop : op ∈ operator) :
      Shape.optional Operator.shape (room + 1) op.toJson = some (some op) := by
    obtain rfl := Option.mem_def.1 hop
    refine Shape.optional_of_eq_some (Operator.shape_toJson op ?_) op.toJson_ne_null
    simp only [levels, Option.map_some, Option.getD_some] at h
    omega
  cases orderBy <;> cases limit <;> cases operator <;>
    simp [shape, toJson, Json.ofPresent, Fields.ofJson, Fields.required, Fields.withDefault,
      List.lookup_cons, hselect, horder, hlimit, hoperator]

end TagCatalog
