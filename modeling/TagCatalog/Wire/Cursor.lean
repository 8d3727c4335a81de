import TagCatalog.Wire.Error

/-!
Reading a byte string from its front.

* `Cursor`: the bytes not yet read, and where in the response they begin.
* `Read`: a reader, which may fail; what it has read before a failure stays read.
* `take`, `byte`, `uint`, `vli`, `count`, `string`: the readers from which all others are made.
* `Advances`: no reader gives bytes back; `Consumes` says that a success has read some.
-/

namespace TagCatalog.Wire

/-- Whether a list has at least `n` elements; at most `n` of them are looked at. -/
def hasAtLeast {α : Type} : Nat → List α → Bool
  | 0, _ => true
  | _ + 1, [] => false
  | n + 1, _ :: rest => hasAtLeast n rest

/-- A look at the first elements tells whether a list is long enough. -/
@[simp] theorem hasAtLeast_eq_true {α : Type} {n : Nat} {l : List α} :
    hasAtLeast n l = true ↔ n ≤ l.length := by
  induction n generalizing l with
  | zero => simp [hasAtLeast]
  | succ n ih => cases l <;> simp [hasAtLeast, ih]

/-- A place in a response. -/
structure Cursor where
  /-- The bytes not yet read. -/
  rest : Bytes
  /-- The position of the first of them in the response. -/
  offset : Nat
  deriving Repr, DecidableEq

/-- The number of bytes not yet read. -/
def Cursor.remaining (c : Cursor) : Nat := c.rest.length

/-- The cursor after `n` more bytes. -/
def Cursor.advance (c : Cursor) (n : Nat) : Cursor := ⟨c.rest.drop n, c.offset + n⟩

/-- Readers: a failure leaves the cursor where the last finished part ended. -/
abbrev Read (α : Type) := ExceptT DecodeError (StateM Cursor) α

namespace Read

/-- The cursor's position in the response. -/
def position : Read Nat := fun c => (.ok c.offset, c)

/-- Fails with an error that depends on the cursor. -/
def failAt {α : Type} (e : Cursor → DecodeError) : Read α := fun c => (.error (e c), c)

/-- The next `n` bytes. -/
def take (n : Nat) : Read Bytes := fun c =>
  if hasAtLeast n c.rest then (.ok (c.rest.take n), c.advance n)
  else (.error (.truncated c.offset n c.remaining), c)

/-- The next byte. -/
def byte : Read UInt8 := fun c =>
  match c.rest with
  | [] => (.error (.truncated c.offset 1 0), c)
  | b :: _ => (.ok b, c.advance 1)

/-- A number of `width` bytes. -/
def uint (width : Nat) : Read Nat := LittleEndian.decode <$> take width

/-- The number of bytes that follow a marker; a byte that is no marker stands for itself. -/
def markerWidth (marker : UInt8) : Option Nat :=
  if marker = 0xFD then some 2
  else if marker = 0xFE then some 4
  else if marker = 0xFF then some 8
  else none

/-- A number in one to nine bytes, in any form that holds it. -/
def vli : Read UInt64 := do
  let marker ← byte
  match markerWidth marker with
  | some width => return UInt64.ofNat (← uint width)
  | none => return marker.toUInt64

/-- The greatest number of bytes that an error names. -/
def maxNeeded : Nat := UInt64.size - 1

/-- Refuses what starts at `start` when fewer than `needed` bytes are left; nothing is read. -/
def ensure (start needed : Nat) : Read Unit := fun c =>
  if hasAtLeast needed c.rest then (.ok (), c)
  else (.error (.truncated start (min needed maxNeeded) c.remaining), c)

/-- A count of entries of at least `least` bytes each. A count for which too few bytes are left is
refused before any entry is read. -/
def count (least : Nat) : Read Nat := do
  let start ← position
  let n ← vli
  ensure start (n.toNat * least)
  return n.toNat

/-- A text with its length in front. -/
def string : Read String := do
  let start ← position
  let length ← vli
  if maxStringLength < length.toNat then
    failAt fun _ => .malformed start (.longString length.toNat)
  else
    let start ← position
    let bytes ← take length.toNat
    match Utf8.decode? bytes with
    | some s => return s
    | none => failAt fun _ => .malformed start (.notText (Utf8.fault bytes))

end Read

/-! ### Progress -/

/-- A cursor after no bytes stays where it is. -/
@[simp] theorem Cursor.advance_zero (c : Cursor) : c.advance 0 = c := rfl

/-- Two advances are one over both their bytes. -/
theorem Cursor.advance_advance (c : Cursor) (m n : Nat) :
    (c.advance m).advance n = c.advance (m + n) := by
  simp [Cursor.advance, List.drop_drop, Nat.add_assoc]

/-- The bytes passed over are no longer to be read. -/
@[simp] theorem Cursor.remaining_advance (c : Cursor) (n : Nat) :
    (c.advance n).remaining = c.remaining - n := by
  simp [Cursor.advance, Cursor.remaining]

namespace Read

variable {α β : Type}

/-- Two readers run one after the other, the second only if the first answers. -/
theorem bind_apply (r : Read α) (f : α → Read β) (c : Cursor) :
    (r >>= f) c = match r c with
      | (.ok a, c') => f a c'
      | (.error e, c') => (.error e, c') := by
  change (ExceptT.bindCont f (r c).1) (r c).2 = _
  rcases r c with ⟨a | a, c'⟩ <;> rfl

/-- A reader gives no bytes back, whatever its answer. -/
def Advances (r : Read α) : Prop := ∀ c, ∃ n ≤ c.remaining, (r c).2 = c.advance n

/-- A reader that answers has read at least one byte. -/
def Consumes (r : Read α) : Prop :=
  ∀ c a c', r c = (.ok a, c') → c'.remaining < c.remaining

/-- After a reader that gives no bytes back there are no more bytes than before. -/
theorem Advances.remaining_le {r : Read α} (h : Advances r) (c : Cursor) :
    (r c).2.remaining ≤ c.remaining := by
  obtain ⟨n, _, e⟩ := h c
  simp [e]

/-- An answer that is known beforehand reads nothing. -/
theorem advances_pure (a : α) : Advances (pure a : Read α) := fun _ => ⟨0, Nat.zero_le _, rfl⟩

/-- Asking for the position reads nothing. -/
theorem advances_position : Advances position := fun _ => ⟨0, Nat.zero_le _, rfl⟩

/-- Failing reads nothing. -/
theorem advances_failAt (e : Cursor → DecodeError) : Advances (failAt e : Read α) :=
  fun _ => ⟨0, Nat.zero_le _, rfl⟩

/-- Taking bytes passes over them, or over none if they are too few. -/
theorem advances_take (n : Nat) : Advances (take n) := fun c => by
  rw [take]
  split
  next h => exact ⟨n, hasAtLeast_eq_true.1 h, rfl⟩
  next => exact ⟨0, Nat.zero_le _, rfl⟩

/-- Asking whether enough bytes are left reads nothing. -/
theorem advances_ensure (start needed : Nat) : Advances (ensure start needed) := fun c => by
  rw [ensure]
  split <;> exact ⟨0, Nat.zero_le _, rfl⟩

/-- Reading a byte passes over one at most. -/
theorem advances_byte : Advances byte := fun c => by
  rw [byte]
  split
  next => exact ⟨0, Nat.zero_le _, rfl⟩
  next _ b rest h => exact ⟨1, by simp [Cursor.remaining, h], rfl⟩

/-- Two readers that give no bytes back give none back together. -/
theorem Advances.bind {r : Read α} {f : α → Read β} (hr : Advances r) (hf : ∀ a, Advances (f a)) :
    Advances (r >>= f) := fun c => by
  obtain ⟨m, hm, em⟩ := hr c
  rw [bind_apply]
  split
  next a c' h =>
    obtain ⟨n, hn, en⟩ := hf a c'
    have hc : c' = c.advance m := by rw [← em, h]
    subst hc
    refine ⟨m + n, ?_, by rw [en, Cursor.advance_advance]⟩
    rw [Cursor.remaining_advance] at hn
    omega
  next e c' h =>
    have hc : c' = c.advance m := by rw [← em, h]
    exact ⟨m, hm, hc⟩

/-- What becomes of an answer is no matter for the cursor. -/
theorem Advances.map {r : Read α} (f : α → β) (hr : Advances r) : Advances (f <$> r) := by
  rw [map_eq_pure_bind]
  exact hr.bind fun a => advances_pure (f a)

/-- A number of fixed width gives no bytes back. -/
theorem advances_uint (width : Nat) : Advances (uint width) := (advances_take width).map _

/-- A number in any form gives no bytes back. -/
theorem advances_vli : Advances vli := by
  refine advances_byte.bind fun marker => ?_
  split
  · exact (advances_uint _).bind fun n => advances_pure _
  · exact advances_pure _

/-- A count gives no bytes back, whatever it announces. -/
theorem advances_count (least : Nat) : Advances (count least) := by
  exact advances_position.bind fun start => advances_vli.bind fun n =>
    (advances_ensure _ _).bind fun _ => advances_pure _

/-- A text gives no bytes back. -/
theorem advances_string : Advances string := by
  refine advances_position.bind fun start => advances_vli.bind fun length => ?_
  split
  · exact advances_failAt _
  · refine advances_position.bind fun start => (advances_take _).bind fun bytes => ?_
    split
    · exact advances_pure _
    · exact advances_failAt _

/-- Bytes that are taken have been read. -/
theorem consumes_take {n : Nat} (hn : 0 < n) : Consumes (take n) := fun c a c' h => by
  rw [take] at h
  split at h
  next hl =>
    cases h
    have := hasAtLeast_eq_true.1 hl
    rw [Cursor.remaining_advance]
    simp only [Cursor.remaining] at *
    omega
  next => cases h

/-- A byte that is answered has been read. -/
theorem consumes_byte : Consumes byte := fun c a c' h => by
  rw [byte] at h
  split at h
  next => cases h
  next b rest e =>
    cases h
    simp [Cursor.remaining, e, Cursor.advance]

/-- A bind consumes when its first part does. -/
theorem Consumes.bind {r : Read α} {f : α → Read β} (hr : Consumes r)
    (hf : ∀ a, Advances (f a)) : Consumes (r >>= f) := fun c b c' h => by
  rw [bind_apply] at h
  split at h
  next a c'' e =>
    have h1 := hr c a c'' e
    have h2 := (hf a).remaining_le c''
    rw [h] at h2
    exact Nat.lt_of_le_of_lt h2 h1
  next => cases h

/-- A bind consumes when its second part does. -/
theorem Advances.bind_consumes {r : Read α} {f : α → Read β} (hr : Advances r)
    (hf : ∀ a, Consumes (f a)) : Consumes (r >>= f) := fun c b c' h => by
  rw [bind_apply] at h
  split at h
  next a c'' e =>
    have h1 := hr.remaining_le c
    rw [e] at h1
    exact Nat.lt_of_lt_of_le (hf a c'' b c' h) h1
  next => cases h

/-- What becomes of an answer leaves what has been read. -/
theorem Consumes.map {r : Read α} (f : α → β) (hr : Consumes r) : Consumes (f <$> r) := by
  rw [map_eq_pure_bind]
  exact hr.bind fun a => advances_pure (f a)

/-- A number in any form takes a byte at least. -/
theorem consumes_vli : Consumes vli := by
  refine consumes_byte.bind fun marker => ?_
  split
  · exact (advances_uint _).bind fun n => advances_pure _
  · exact advances_pure _

/-- A count takes a byte at least. -/
theorem consumes_count (least : Nat) : Consumes (count least) := by
  exact advances_position.bind_consumes fun start => consumes_vli.bind fun n =>
    (advances_ensure _ _).bind fun _ => advances_pure _

end Read

end TagCatalog.Wire
