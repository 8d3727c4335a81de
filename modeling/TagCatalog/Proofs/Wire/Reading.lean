import Mathlib.Tactic
import TagCatalog.Wire.Cursor

/-!
Readers that accept exactly the written forms of a grammar.

A form is a piece of syntax with its bytes and its value. A reader of forms is
described in one equivalence: it answers `a` and leaves the cursor at `c'` if
and only if the bytes from `c` to `c'` are those of a form with the value `a`.
Both halves matter: from left to right nothing but the grammar is accepted, from
right to left all of it is, whatever bytes follow.

* `Cursor.Passes`: the bytes between two cursors; `passes_append` cuts them.
* `Read.bind_eq_ok_iff`: an answer of two readers in a row is an answer of each.
* `Reads`: a reader of forms; `Reads.bind`, `Reads.reindex` and `reads_when` put
  readers together as the syntax puts forms together.
* `Read.times`, `times_eq_ok_iff`: a step run a given number of times reads as
  many forms, folded into the state in the order in which they stand.
-/

namespace TagCatalog.Wire

/-! ### Bytes between two cursors -/

/-- From the cursor `c` to the cursor `c'` exactly the bytes `w` are passed
over. -/
def Cursor.Passes (c : Cursor) (w : Bytes) (c' : Cursor) : Prop :=
  c.rest = w ++ c'.rest ∧ c'.offset = c.offset + w.length

/-- A cursor in front of some bytes passes over them. -/
lemma passes_mk (w rest : Bytes) (offset : Nat) :
    Cursor.Passes ⟨w ++ rest, offset⟩ w ⟨rest, offset + w.length⟩ := ⟨rfl, rfl⟩

/-- Passing over no bytes is staying. -/
@[simp] lemma passes_nil {c c' : Cursor} : c.Passes [] c' ↔ c' = c := by
  obtain ⟨rest, offset⟩ := c
  obtain ⟨rest', offset'⟩ := c'
  simp [Cursor.Passes, eq_comm]

/-- The bytes between two cursors may be cut anywhere. -/
lemma passes_append {c c'' : Cursor} {v w : Bytes} :
    c.Passes (v ++ w) c'' ↔ ∃ c', c.Passes v c' ∧ c'.Passes w c'' := by
  constructor
  · rintro ⟨hr, ho⟩
    refine ⟨⟨w ++ c''.rest, c.offset + v.length⟩, ⟨?_, rfl⟩, rfl, ?_⟩
    · rw [hr, List.append_assoc]
    · rw [ho, List.length_append, Nat.add_assoc]
  · rintro ⟨c', ⟨hr, ho⟩, hr', ho'⟩
    refine ⟨?_, ?_⟩
    · rw [hr, hr', List.append_assoc]
    · rw [ho', ho, List.length_append, Nat.add_assoc]

/-- The bytes passed over are no longer to be read. -/
lemma Cursor.Passes.remaining_eq {c c' : Cursor} {w : Bytes} (h : c.Passes w c') :
    c.remaining = w.length + c'.remaining := by
  rw [Cursor.remaining, h.1, List.length_append, Cursor.remaining]

namespace Read

variable {α β σ τ υ : Type}

/-! ### Answers of composed readers -/

/-- A known answer leaves the cursor where it is. -/
@[simp] lemma pure_eq_ok_iff {a b : α} {c c' : Cursor} :
    (pure a : Read α) c = (.ok b, c') ↔ a = b ∧ c' = c := by
  change (Except.ok a, c) = (Except.ok b, c') ↔ a = b ∧ c' = c
  simp [eq_comm]

/-- A failure is no answer. -/
@[simp] lemma failAt_ne_ok {e : Cursor → DecodeError} {a : α} {c c' : Cursor} :
    (failAt e : Read α) c ≠ (.ok a, c') := by
  rintro ⟨⟩

/-- After an answer the second reader goes on where the first one ended. -/
lemma bind_of_ok {r : Read α} {f : α → Read β} {c c' : Cursor} {a : α} (h : r c = (.ok a, c')) :
    (r >>= f) c = f a c' := by
  rw [bind_apply, h]

/-- After a failure the second reader does not run. -/
lemma bind_of_error {r : Read α} {f : α → Read β} {c c' : Cursor} {e : DecodeError}
    (h : r c = (.error e, c')) : (r >>= f) c = (.error e, c') := by
  rw [bind_apply, h]

/-- Two readers in a row answer exactly when both do. -/
lemma bind_eq_ok_iff {r : Read α} {f : α → Read β} {c c'' : Cursor} {b : β} :
    (r >>= f) c = (.ok b, c'') ↔ ∃ a c', r c = (.ok a, c') ∧ f a c' = (.ok b, c'') := by
  constructor
  · intro h
    rw [bind_apply] at h
    split at h
    next a c' ha => exact ⟨a, c', ha, h⟩
    next => cases h
  · rintro ⟨a, c', ha, hb⟩
    rw [bind_of_ok ha, hb]

/-- What becomes of an answer does not move the cursor. -/
lemma map_eq_ok_iff {r : Read α} {g : α → β} {c c' : Cursor} {b : β} :
    (g <$> r) c = (.ok b, c') ↔ ∃ a, r c = (.ok a, c') ∧ g a = b := by
  rw [map_eq_pure_bind, bind_eq_ok_iff]
  constructor
  · rintro ⟨a, c₁, h, h'⟩
    obtain ⟨rfl, rfl⟩ := pure_eq_ok_iff.1 h'
    exact ⟨a, h, rfl⟩
  · rintro ⟨a, h, rfl⟩
    exact ⟨a, c', h, pure_eq_ok_iff.2 ⟨rfl, rfl⟩⟩

/-! ### Readers of forms -/

/-- A reader of the forms `t : τ`: its answers are the values of the forms that
stand at the front, and the bytes of the form are what it passes over. -/
def Reads (r : Read α) (bytes : τ → Bytes) (value : τ → α) : Prop :=
  ∀ c a c', r c = (.ok a, c') ↔ ∃ t, value t = a ∧ c.Passes (bytes t) c'

variable {r : Read α} {bytes : τ → Bytes} {value : τ → α}

/-- A form is read whatever follows it. -/
lemma Reads.apply (h : Reads r bytes value) (t : τ) (rest : Bytes) (offset : Nat) :
    r ⟨bytes t ++ rest, offset⟩ = (.ok (value t), ⟨rest, offset + (bytes t).length⟩) :=
  (h _ _ _).2 ⟨t, rfl, passes_mk _ _ _⟩

/-- Forms may be named otherwise as long as none is lost. -/
lemma Reads.reindex (h : Reads r bytes value) {g : σ → τ} (hg : Function.Surjective g) :
    Reads r (bytes ∘ g) (value ∘ g) := by
  intro c a c'
  rw [h c a c', hg.exists]
  rfl

/-- The value of a form may be read otherwise. -/
lemma Reads.map (h : Reads r bytes value) (g : α → β) :
    Reads (g <$> r) bytes (g ∘ value) := by
  intro c b c'
  rw [map_eq_ok_iff]
  constructor
  · rintro ⟨a, ha, rfl⟩
    obtain ⟨t, rfl, hp⟩ := (h _ _ _).1 ha
    exact ⟨t, rfl, hp⟩
  · rintro ⟨t, rfl, hp⟩
    exact ⟨value t, (h _ _ _).2 ⟨t, rfl, hp⟩, rfl⟩

/-- The same at the end of a sequence of readers. -/
lemma Reads.bind_pure (h : Reads r bytes value) (g : α → β) :
    Reads (r >>= fun a => pure (g a)) bytes (g ∘ value) := by
  have := h.map g
  rwa [map_eq_pure_bind] at this

/-- One form after another: the second reader may depend on the value of the
first form. -/
lemma Reads.bind {f : α → Read β} {bytes' : υ → Bytes} {value' : τ → υ → β}
    (hr : Reads r bytes value) (hf : ∀ t, Reads (f (value t)) bytes' (value' t)) :
    Reads (r >>= f) (fun p : τ × υ => bytes p.1 ++ bytes' p.2) fun p => value' p.1 p.2 := by
  intro c b c''
  rw [bind_eq_ok_iff]
  constructor
  · rintro ⟨a, c', ha, hb⟩
    obtain ⟨t, rfl, hp⟩ := (hr _ _ _).1 ha
    obtain ⟨u, rfl, hp'⟩ := (hf t _ _ _).1 hb
    exact ⟨(t, u), rfl, passes_append.2 ⟨c', hp, hp'⟩⟩
  · rintro ⟨⟨t, u⟩, rfl, hp⟩
    obtain ⟨c', hp, hp'⟩ := passes_append.1 hp
    exact ⟨value t, c', (hr _ _ _).2 ⟨t, rfl, hp⟩, (hf t _ _ _).2 ⟨u, rfl, hp'⟩⟩

/-! ### Repetition -/

/-- A step run `n` times from a state. -/
def times (step : σ → Read σ) : Nat → σ → Read σ
  | 0, s => pure s
  | n + 1, s => step s >>= times step n

/-- Steps that read forms into a state read, one after the other, a list of
forms, which is folded into the state from its front. -/
lemma times_eq_ok_iff {step : σ → Read σ} {put : σ → τ → σ}
    (h : ∀ s, Reads (step s) bytes (put s)) {n : Nat} {s s' : σ} {c c' : Cursor} :
    times step n s c = (.ok s', c') ↔
      ∃ l : List τ, l.length = n ∧ l.foldl put s = s' ∧ c.Passes (l.flatMap bytes) c' := by
  induction n generalizing s c with
  | zero =>
    rw [times, pure_eq_ok_iff]
    constructor
    · rintro ⟨rfl, rfl⟩
      exact ⟨[], rfl, rfl, passes_nil.2 rfl⟩
    · rintro ⟨l, hl, hs, hp⟩
      obtain rfl := List.length_eq_zero_iff.1 hl
      exact ⟨hs, passes_nil.1 hp⟩
  | succ n ih =>
    rw [times, bind_eq_ok_iff]
    constructor
    · rintro ⟨s₁, c₁, h₁, h₂⟩
      obtain ⟨t, rfl, hp⟩ := (h s _ _ _).1 h₁
      obtain ⟨l, rfl, hs, hp'⟩ := ih.1 h₂
      exact ⟨t :: l, rfl, hs, passes_append.2 ⟨c₁, hp, hp'⟩⟩
    · rintro ⟨l, hl, hs, hp⟩
      obtain ⟨t, l, rfl⟩ := List.exists_cons_of_length_eq_add_one hl
      obtain ⟨c₁, hp, hp'⟩ := passes_append.1 hp
      exact ⟨put s t, c₁, (h s _ _ _).2 ⟨t, rfl, hp⟩, ih.2 ⟨l, Nat.succ.inj hl, hs, hp'⟩⟩

end Read

end TagCatalog.Wire
