import Mathlib.Tactic
import TagCatalog.Proofs.Wire.Numerals
import TagCatalog.Proofs.Wire.SingleField

/-!
Where reads leave the cursor, those that fail included.

A read is made of takes, one after another, and the bytes in front tell how wide each of them is. A
read makes its takes as long as there are bytes for them, and it may still refuse what it has taken.
What is taken by then stays taken, and the next read goes on from there.

* `Piece`: what is read at a time; `Piece.takes` are the widths of its takes.
* `Ends`: the ways in which a read ends, with the cursor and the error of each; `Piece.ends` says
  that there are no others, by way of `Ends.bind` and `Ends.append` for one part after another.
* `Cursor.next`, `Cursor.nextAll`: the cursor after a read and after reads; `exists_nextAll_eq` is
  the run, by induction on the reads.
* `Cursor.stays_consistent`: a cursor is in the bytes where it says, after any reads.
-/

namespace TagCatalog.Wire

/-! ### Pieces -/

/-- What is read at a time. -/
inductive Piece
  | byte
  /-- A number of `width` bytes. -/
  | uint (width : Nat)
  /-- The next `n` bytes, as they are. -/
  | take (n : Nat)
  | vli
  /-- A number of entries of at least `least` bytes each. -/
  | count (least : Nat)
  | string
  deriving Repr, DecidableEq

/-- The widths of the takes of a number: its first byte, and the bytes that this announces. -/
def Vli.takes : Bytes → List Nat
  | [] => [1]
  | first :: _ =>
    if first = 0xFD then [1, 2] else if first = 0xFE then [1, 4] else if first = 0xFF then [1, 8]
    else [1]

/-- The first byte is taken, and then what is read behind it. -/
lemma Vli.takes_cons (first : UInt8) (rest : Bytes) :
    takes (first :: rest) = [1] ++ (Read.markerWidth first).toList := by
  rw [takes, Read.markerWidth]
  split_ifs <;> rfl

namespace Piece

/-- What a piece tells. -/
abbrev Value : Piece → Type
  | byte => UInt8
  | uint _ => Nat
  | take _ => Bytes
  | vli => UInt64
  | count _ => Nat
  | string => String

/-- The reader of a piece. -/
def read : (p : Piece) → Read p.Value
  | byte => Read.byte
  | uint width => Read.uint width
  | take n => Read.take n
  | vli => Read.vli
  | count least => Read.count least
  | string => Read.string

/-- Whether a piece is read in one take. -/
def isSingle : Piece → Bool
  | byte | uint _ | take _ => true
  | vli | count _ | string => false

/-- The widths of the takes of a piece, as the bytes in front tell them. The bytes of a text are
taken if its length is one that a text may have. -/
def takes : Piece → Bytes → List Nat
  | byte, _ => [1]
  | uint width, _ => [width]
  | take n, _ => [n]
  | vli, bytes => Vli.takes bytes
  | count _, bytes => Vli.takes bytes
  | string, bytes => Vli.takes bytes ++ match Vli.decode bytes with
    | .ok (length, _) => if length.toNat ≤ maxStringLength then [length.toNat] else []
    | .error _ => []

end Piece

/-! ### Ends of reads -/

/-- How a read that is made of takes of the widths `ns` ends, if it begins at `c`. -/
inductive Ends {α : Type} (ns : List Nat) (c : Cursor) : Except DecodeError α × Cursor → Prop
  /-- All takes are made, and there is an answer. -/
  | answered (a : α) (hfit : ns.sum ≤ c.remaining) : Ends ns c (.ok a, c.advance ns.sum)
  /-- A take lacks bytes. Those before it are made, and the error is its own. -/
  | cut (done : List Nat) (n : Nat) (left : List Nat) (hns : ns = done ++ n :: left)
      (hdone : done.sum ≤ c.remaining) (hshort : c.remaining < done.sum + n) :
      Ends ns c (.error (.truncated (c.offset + done.sum) n (c.remaining - done.sum)),
        c.advance done.sum)
  /-- All takes are made, and what they announce is more than is left. -/
  | overcounted (offset needed : Nat) (hfit : ns.sum ≤ c.remaining) (hread : 0 < ns.sum)
      (hlow : c.offset ≤ offset) (hhigh : offset ≤ c.offset + ns.sum)
      (hshort : c.remaining - ns.sum < needed) :
      Ends ns c (.error (.truncated offset (min needed Read.maxNeeded) (c.remaining - ns.sum)),
        c.advance ns.sum)
  /-- All takes are made, and what they say means nothing. -/
  | refused (offset : Nat) (fault : PayloadFault) (hfit : ns.sum ≤ c.remaining) :
      Ends ns c (.error (.malformed offset fault), c.advance ns.sum)

namespace Ends

variable {α β : Type} {ns ms : List Nat} {c c' : Cursor} {e : DecodeError}

/-- An answer comes behind all takes. -/
lemma of_ok {a : α} (h : Ends ns c (Except.ok a, c')) :
    ns.sum ≤ c.remaining ∧ c' = c.advance ns.sum := by
  cases h with
  | answered _ hfit => exact ⟨hfit, rfl⟩

/-- A failure is the same whatever an answer would have been. -/
lemma of_error (h : Ends ns c ((.error e, c') : Except DecodeError α × Cursor)) :
    Ends ns c ((.error e, c') : Except DecodeError β × Cursor) := by
  cases h with
  | cut done n left hns hdone hshort => exact .cut done n left hns hdone hshort
  | overcounted offset needed hfit hread hlow hhigh hshort =>
    exact .overcounted offset needed hfit hread hlow hhigh hshort
  | refused offset fault hfit => exact .refused offset fault hfit

/-- A read that goes on behind takes which are made ends as what it goes on with. -/
lemma append {x : Except DecodeError α × Cursor} (hfit : ns.sum ≤ c.remaining)
    (h : Ends ms (c.advance ns.sum) x) : Ends (ns ++ ms) c x := by
  have hremaining := c.remaining_advance ns.sum
  have hoffset : (c.advance ns.sum).offset = c.offset + ns.sum := rfl
  have hsum : (ns ++ ms).sum = ns.sum + ms.sum := List.sum_append
  have hleft (k : Nat) : c.remaining - ns.sum - k = c.remaining - (ns.sum + k) := Nat.sub_sub ..
  -- the same end each time, with places and bytes left counted from `c`
  cases h with
  | answered a hfit' =>
    have h : Ends (ns ++ ms) c (.ok a, c.advance (ns ++ ms).sum) := .answered a (by omega)
    rwa [hsum, ← Cursor.advance_advance] at h
  | cut done n left hns hdone hshort =>
    have hdone' : (ns ++ done).sum = ns.sum + done.sum := List.sum_append
    have h : @Ends α (ns ++ ms) c (.error (.truncated (c.offset + (ns ++ done).sum) n
        (c.remaining - (ns ++ done).sum)), c.advance (ns ++ done).sum) :=
      .cut (ns ++ done) n left (by rw [hns, List.append_assoc]) (by omega) (by omega)
    rw [hoffset, hremaining, Cursor.advance_advance, hleft, Nat.add_assoc]
    rwa [hdone'] at h
  | overcounted offset needed hfit' hread hlow hhigh hshort =>
    have h : @Ends α (ns ++ ms) c (.error (.truncated offset (min needed Read.maxNeeded)
        (c.remaining - (ns ++ ms).sum)), c.advance (ns ++ ms).sum) :=
      .overcounted offset needed (by omega) (by omega) (by omega) (by omega) (by omega)
    rw [hremaining, Cursor.advance_advance, hleft]
    rwa [hsum] at h
  | refused offset fault hfit' =>
    have h : @Ends α (ns ++ ms) c (.error (.malformed offset fault), c.advance (ns ++ ms).sum) :=
      .refused offset fault (by omega)
    rwa [hsum, ← Cursor.advance_advance] at h

/-- A read goes on behind the takes of its first part, or it ends as that does. -/
lemma bind {r : Read α} {f : α → Read β} (h : Ends ns c (r c))
    (hfailed : ∀ e c', r c = (.error e, c') → ms = ns)
    (hnext : ∀ a, r c = (.ok a, c.advance ns.sum) → ns.sum ≤ c.remaining →
      Ends ms c (f a (c.advance ns.sum))) : Ends ms c ((r >>= f) c) := by
  rcases hr : r c with ⟨e | a, c'⟩
  · rw [hr] at h
    rw [Read.bind_of_error hr, hfailed e c' hr]
    exact h.of_error
  · rw [hr] at h
    obtain ⟨hfit, rfl⟩ := h.of_ok
    rw [Read.bind_of_ok hr]
    exact hnext a hr hfit

/-- What becomes of an answer does not matter. -/
lemma map {r : Read α} (g : α → β) (h : Ends ns c (r c)) : Ends ns c ((g <$> r) c) := by
  rw [map_eq_pure_bind]
  exact h.bind (fun _ _ _ => rfl) fun a _ hfit => .answered (g a) hfit

/-- A failure leaves the cursor behind the takes for which there are bytes, and it is that of the
first take for which there are too few. -/
lemma exists_done (h : Ends ns c ((.error e, c') : Except DecodeError α × Cursor)) :
    ∃ done left, ns = done ++ left ∧ done.sum ≤ c.remaining ∧ c' = c.advance done.sum ∧
      ∀ n ∈ left.head?, c.remaining < done.sum + n ∧
        e = .truncated (c.offset + done.sum) n (c.remaining - done.sum) := by
  cases h with
  | cut done n left hns hdone hshort =>
    refine ⟨done, n :: left, hns, hdone, rfl, ?_⟩
    rintro _ ⟨⟩
    exact ⟨hshort, rfl⟩
  | overcounted _ _ hfit => exact ⟨ns, [], by simp, hfit, rfl, by simp⟩
  | refused _ _ hfit => exact ⟨ns, [], by simp, hfit, rfl, by simp⟩

/-- What is found too short is shorter than what is wanted, and is found in the bytes. Where an
error names as many bytes as it can, some have been taken, so that fewer are left. -/
lemma lt_of_truncated {offset needed remaining : Nat}
    (h : Ends ns c ((.error (.truncated offset needed remaining), c') :
      Except DecodeError α × Cursor)) (hword : c.remaining ≤ Read.maxNeeded) :
    remaining < needed ∧ c.offset ≤ offset ∧ offset + remaining ≤ c.offset + c.remaining := by
  cases h with
  | cut done n left hns hdone hshort => omega
  | overcounted _ needed hfit hread hlow hhigh hshort =>
    exact ⟨lt_min hshort (by omega), hlow, by omega⟩

end Ends

/-! ### Ends of the pieces -/

namespace Read

variable {c c' : Cursor} {e : DecodeError}

/-- Bytes are read in one take. -/
lemma ends_take (n : Nat) (c : Cursor) : Ends [n] c (take n c) := by
  rw [take_apply]
  split_ifs with h
  · exact .answered _ h
  · exact .cut [] n [] rfl (Nat.zero_le _) (by simpa [Cursor.remaining] using h)

/-- A byte is read in one take. -/
lemma ends_byte (c : Cursor) : Ends [1] c (byte c) := by
  obtain ⟨_ | ⟨b, rest⟩, offset⟩ := c
  · exact .cut [] 1 [] rfl le_rfl Nat.zero_lt_one
  · exact .answered b (Nat.le_add_left ..)

/-- A number of fixed width is read in one take. -/
lemma ends_uint (width : Nat) (c : Cursor) : Ends [width] c (uint width c) :=
  (ends_take width c).map _

/-- A number is read in the take of its first byte and that of the bytes which this announces. -/
lemma ends_vli (c : Cursor) : Ends (Vli.takes c.rest) c (vli c) := by
  rw [vli]
  obtain ⟨_ | ⟨first, rest⟩, offset⟩ := c
  · exact (ends_byte _).bind (fun _ _ _ => rfl) fun _ h => by cases h
  · refine (ends_byte _).bind (fun _ _ h => by cases h) fun a h hfit => ?_
    cases h
    rw [Vli.takes_cons]
    refine Ends.append hfit ?_
    cases markerWidth first with
    | none => exact .answered _ (Nat.zero_le _)
    | some width =>
      have hbehind := (ends_uint width ⟨rest, offset + 1⟩).map UInt64.ofNat
      rwa [map_eq_pure_bind] at hbehind

/-- A number is read in a byte at least. -/
lemma sum_takes_pos (bytes : Bytes) : 0 < (Vli.takes bytes).sum := by
  cases bytes with
  | nil => exact Nat.zero_lt_one
  | cons first rest =>
    rw [Vli.takes_cons, List.sum_append]
    exact Nat.lt_add_right _ Nat.zero_lt_one

/-- A look at too few bytes fails in its place. -/
lemma ensure_of_lt {start needed : Nat} (h : c.remaining < needed) :
    ensure start needed c = (.error (.truncated start (min needed maxNeeded) c.remaining), c) := by
  rw [ensure, if_neg]
  rw [hasAtLeast_eq_true]
  exact Nat.not_le_of_lt h

/-- A count is read as a number, and may be refused behind it. -/
lemma ends_count (least : Nat) (c : Cursor) : Ends (Vli.takes c.rest) c (count least c) := by
  rw [count, position_bind]
  refine (ends_vli c).bind (fun _ _ _ => rfl) fun n _ hfit => ?_
  have hremaining := c.remaining_advance (Vli.takes c.rest).sum
  by_cases hleft : n.toNat * least ≤ (c.advance (Vli.takes c.rest).sum).remaining
  · rw [bind_of_ok (ensure_eq_ok_iff.2 ⟨hleft, rfl⟩)]
    exact .answered _ hfit
  · rw [bind_of_error (ensure_of_lt (Nat.lt_of_not_le hleft)), hremaining]
    exact .overcounted _ _ hfit (sum_takes_pos _) le_rfl (Nat.le_add_right ..) (by omega)

/-- A number that is read stands in front. -/
lemma exists_decode_eq_ok {n : UInt64} (h : vli c = (.ok n, c')) :
    ∃ k, Vli.decode c.rest = .ok (n, k) := by
  obtain ⟨t, ht, hrest, -⟩ := (reads_vli _ _ _).1 h
  exact ⟨_, Vli.decode_eq_ok_iff.2 ⟨t, ht, rfl, c'.rest, hrest.symm⟩⟩

/-- Where none is read none stands. -/
lemma exists_decode_eq_error (h : vli c = (.error e, c')) :
    ∃ e', Vli.decode c.rest = .error e' := by
  rcases hdecode : Vli.decode c.rest with e' | ⟨n, k⟩
  · exact ⟨e', rfl⟩
  · obtain ⟨t, rfl, -, rest, hrest⟩ := Vli.decode_eq_ok_iff.1 hdecode
    have hread := reads_vli.apply t rest c.offset
    rw [hrest, h] at hread
    cases hread

/-- A text is read as a number and in the take of as many bytes. It may be refused behind the
number, if that is too great, and behind the bytes. -/
lemma ends_string (c : Cursor) : Ends (Piece.string.takes c.rest) c (string c) := by
  rw [string, position_bind]
  refine (ends_vli c).bind (fun e c' he => ?_) fun n hn hfit => ?_
  · obtain ⟨e', he'⟩ := exists_decode_eq_error he
    rw [Piece.takes, he', List.append_nil]
  -- behind the length: it is refused, or as many bytes are taken
  obtain ⟨k, hdecode⟩ := exists_decode_eq_ok hn
  rw [Piece.takes, hdecode]
  dsimp only
  by_cases hlong : maxStringLength < n.toNat
  · rw [if_pos hlong, if_neg (Nat.not_le_of_lt hlong), List.append_nil]
    exact .refused _ _ hfit
  · rw [if_neg hlong, if_pos (Nat.le_of_not_lt hlong), position_bind]
    refine Ends.append hfit ((ends_take _ _).bind (fun _ _ _ => rfl) fun bytes _ hfit' => ?_)
    cases Utf8.decode? bytes with
    | none => exact .refused _ _ hfit'
    | some s => exact .answered s hfit'

end Read

namespace Piece

variable {p : Piece} {c c' : Cursor} {e : DecodeError}

/-- Reads end in these ways, and in no others. -/
theorem ends (p : Piece) (c : Cursor) : Ends (p.takes c.rest) c (p.read c) := by
  cases p with
  | byte => exact Read.ends_byte c
  | uint width => exact Read.ends_uint width c
  | take n => exact Read.ends_take n c
  | vli => exact Read.ends_vli c
  | count least => exact Read.ends_count least c
  | string => exact Read.ends_string c

/-- Reads give no bytes back. -/
lemma advances (p : Piece) : Read.Advances p.read := by
  cases p with
  | byte => exact Read.advances_byte
  | uint width => exact Read.advances_uint width
  | take n => exact Read.advances_take n
  | vli => exact Read.advances_vli
  | count least => exact Read.advances_count least
  | string => exact Read.advances_string

/-- A take that fails takes nothing. -/
lemma eq_of_isSingle (hp : p.isSingle = true) (h : p.read c = (.error e, c')) : c' = c := by
  cases p with
  | byte =>
    obtain ⟨_ | ⟨b, rest⟩, offset⟩ := c
    · cases h
      rfl
    · cases h
  | uint width =>
    rw [read, Read.uint, Read.map_apply, Read.take_apply] at h
    split_ifs at h
    · cases h
    · cases h
      rfl
  | take n =>
    rw [read, Read.take_apply] at h
    split_ifs at h
    · cases h
    · cases h
      rfl
  | vli => cases hp
  | count least => cases hp
  | string => cases hp

end Piece

/-! ### Reads one after another -/

namespace Cursor

/-- The cursor after a read, whether it answers or fails. -/
def next (c : Cursor) (p : Piece) : Cursor := (p.read c).2

/-- The cursor after reads, one after another. -/
def nextAll (c : Cursor) (pieces : List Piece) : Cursor := pieces.foldl next c

/-- Reads pass over bytes that are there. -/
lemma exists_nextAll_eq (c : Cursor) (pieces : List Piece) :
    ∃ n ≤ c.remaining, c.nextAll pieces = c.advance n := by
  induction pieces generalizing c with
  | nil => exact ⟨0, Nat.zero_le _, rfl⟩
  | cons p pieces ih =>
    obtain ⟨m, hm, hnext⟩ := p.advances c
    obtain ⟨n, hn, hall⟩ := ih (c.next p)
    rw [next, hnext, remaining_advance] at hn
    refine ⟨m + n, by omega, ?_⟩
    rw [nextAll, List.foldl_cons, ← nextAll, hall, next, hnext, advance_advance]

/-- **A cursor is where it says.** After any reads from the front of some bytes, failed ones among
them, the cursor is inside the bytes, has as many left as there are from its position on, and never
goes back. A take that fails leaves it in its place. A read of several takes that fails leaves it
behind those that are made in full: behind all of them, or in front of one that lacks bytes, whose
error it then has. What is found too short is shorter than what is wanted, and it lies inside the
bytes. -/
theorem stays_consistent {bytes : Bytes} {base : Nat} (hfits : base + bytes.length < UInt64.size)
    (earlier : List Piece) :
    let c := nextAll ⟨bytes, base⟩ earlier
    (base ≤ c.offset ∧ c.offset - base ≤ bytes.length ∧
      c.remaining = bytes.length - (c.offset - base) ∧ c.rest = bytes.drop (c.offset - base)) ∧
    (∀ later : List Piece, c.offset ≤ (c.nextAll later).offset) ∧
    ∀ (p : Piece) (e : DecodeError) (c' : Cursor), p.read c = (.error e, c') →
      (p.isSingle = true → c' = c) ∧
      (∃ done left, p.takes c.rest = done ++ left ∧ done.sum ≤ c.remaining ∧
        c' = c.advance done.sum ∧ ∀ n ∈ left.head?, c.remaining < done.sum + n ∧
          e = .truncated (c.offset + done.sum) n (c.remaining - done.sum)) ∧
      ∀ offset needed remaining, e = .truncated offset needed remaining →
        remaining < needed ∧ base ≤ offset ∧ offset + remaining ≤ base + bytes.length := by
  intro c
  obtain ⟨pos, hpos, hc⟩ := exists_nextAll_eq ⟨bytes, base⟩ earlier
  replace hpos : pos ≤ bytes.length := hpos
  have hoffset : c.offset = base + pos := congrArg Cursor.offset hc
  have hrest : c.rest = bytes.drop pos := congrArg Cursor.rest hc
  have hremaining : c.remaining = bytes.length - pos := by
    rw [remaining, hrest, List.length_drop]
  have hback : c.offset - base = pos := by omega
  refine ⟨⟨by omega, by omega, by rw [hremaining, hback], by rw [hrest, hback]⟩,
    fun later => ?_, fun p e c' h => ⟨fun hp => Piece.eq_of_isSingle hp h, ?_, ?_⟩⟩
  · obtain ⟨n, -, hlater⟩ := exists_nextAll_eq c later
    rw [hlater]
    exact Nat.le_add_right ..
  · have hends := p.ends c
    rw [h] at hends
    exact hends.exists_done
  · rintro offset needed remaining rfl
    have hends := p.ends c
    rw [h] at hends
    have hword : c.remaining ≤ Read.maxNeeded := by
      rw [Read.maxNeeded]
      omega
    obtain ⟨hlt, hlow, hhigh⟩ := hends.lt_of_truncated hword
    exact ⟨hlt, by omega, by omega⟩

/-- A count of more entries than there can be, whose error names as many bytes as an error can, and
behind it a text that is cut. Both fail, and the cursor is behind what they have taken. -/
theorem stays_consistent_behind_count :
    let bytes : Bytes := [0xFF, 0xFF, 0xFF, 0xFF, 0xFF, 0xFF, 0xFF, 0xFF, 0xFF, 2, 0xC3]
    let c : Cursor := nextAll ⟨bytes, 5⟩ [.count 16]
    5 + bytes.length < UInt64.size ∧
    Piece.read (.count 16) ⟨bytes, 5⟩ = (.error (.truncated 5 Read.maxNeeded 2), c) ∧
    Piece.read .string c = (.error (.truncated 15 2 1), ⟨[0xC3], 15⟩) ∧
    c.remaining = bytes.length - (c.offset - 5) ∧
    (∃ done left, Piece.string.takes c.rest = done ++ left ∧ done.sum ≤ c.remaining ∧
      ⟨[0xC3], 15⟩ = c.advance done.sum ∧ ∀ n ∈ left.head?, c.remaining < done.sum + n ∧
        .truncated 15 2 1 =
          DecodeError.truncated (c.offset + done.sum) n (c.remaining - done.sum)) ∧
    1 < 2 ∧ 5 ≤ 15 ∧ 15 + 1 ≤ 5 + bytes.length := by
  intro bytes c
  have hfits : 5 + bytes.length < UInt64.size := by decide
  have hvli : Read.vli ⟨bytes, 5⟩ = (.ok 0xFFFFFFFFFFFFFFFF, ⟨[2, 0xC3], 14⟩) := rfl
  have hcount : Piece.read (.count 16) ⟨bytes, 5⟩ =
      (.error (.truncated 5 Read.maxNeeded 2), c) := by
    rw [Piece.read, Read.count, Read.position_bind, Read.bind_of_ok hvli,
      Read.bind_of_error (Read.ensure_of_lt (by decide))]
    rfl
  have hstring : Piece.read .string c = (.error (.truncated 15 2 1), ⟨[0xC3], 15⟩) := rfl
  obtain ⟨⟨-, -, hremaining, -⟩, -, hfailed⟩ := stays_consistent hfits [.count 16]
  obtain ⟨-, hdone, hshort⟩ := hfailed .string _ _ hstring
  exact ⟨hfits, hcount, hstring, hremaining, hdone, hshort 15 2 1 rfl⟩

end Cursor

end TagCatalog.Wire
