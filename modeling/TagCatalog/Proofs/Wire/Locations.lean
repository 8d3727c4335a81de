import Mathlib.Tactic
import TagCatalog.Proofs.Wire.Closure
import TagCatalog.Proofs.Wire.Headers

/-!
Where the errors of a response are found.

Readers name places before and behind what they have read: a count is refused at its
own first byte when it is behind the cursor already, a text at its length or at its
first byte. All of these lie in the bytes from which the reader started.

* `DecodeError.IsLocated`: an error found between two places, of which what is too
  short is shorter than what is wanted.
* `Read.Locates`: a reader whose errors are found between a place that it has reached
  and the end of the bytes; `closed_locates` says so of all readers from the smallest
  ones on.
* `RecordStream.isLocated_of_collect`: the same for a run over records, by induction
  on the bytes left.
* `decodeResponse_errors_located`: the errors of a whole response.
-/

namespace TagCatalog.Wire

/-- An error of a payload that is found between two places. -/
def DecodeError.IsLocated (low high : Nat) : DecodeError → Prop
  | .header _ => False
  | .truncated offset needed remaining =>
    low ≤ offset ∧ offset + remaining ≤ high ∧ remaining < needed
  | .malformed offset _ => low ≤ offset ∧ offset ≤ high

/-- What is found behind a place is found behind an earlier one. -/
lemma DecodeError.IsLocated.mono {e : DecodeError} {low low' high : Nat}
    (h : e.IsLocated low high) (hle : low' ≤ low) : e.IsLocated low' high := by
  cases e with
  | header fault => exact h
  | truncated offset needed remaining => exact ⟨hle.trans h.1, h.2⟩
  | malformed offset fault => exact ⟨hle.trans h.1, h.2⟩

namespace Read

variable {α β : Type}

/-! ### Readers and their errors -/

/-- A reader that has reached `start` gives no bytes back and finds its errors between
there and the end of the bytes. That an error names no more bytes than a machine word
counts is why the bytes have to be fewer. -/
structure Locates (start : Nat) (r : Read α) : Prop where
  advances : Advances r
  located : ∀ c e c', start ≤ c.offset → c.remaining < maxNeeded → r c = (.error e, c') →
    e.IsLocated start (c.offset + c.remaining)

variable {start : Nat}

/-- A known answer is no error. -/
lemma locates_pure (a : α) : Locates start (pure a : Read α) where
  advances := advances_pure a
  located := by rintro c e c' - - ⟨⟩

/-- What is refused at `start` is found there. -/
lemma locates_failAt (fault : PayloadFault) :
    Locates start (failAt fun _ => .malformed start fault : Read α) where
  advances := advances_failAt _
  located := by
    rintro c e c' hstart - ⟨⟩
    exact ⟨le_rfl, hstart.trans (Nat.le_add_right _ _)⟩

/-- Bytes that are missing are missed where they should begin. -/
lemma locates_take (n : Nat) : Locates start (take n) where
  advances := advances_take n
  located := by
    intro c e c' hstart _ h
    rw [take_apply] at h
    split_ifs at h with hn
    · cases h
    · cases h
      exact ⟨hstart, le_rfl, Nat.lt_of_not_le hn⟩

/-- A byte that is missing is missed at the end. -/
lemma locates_byte : Locates start byte where
  advances := advances_byte
  located := by
    rintro ⟨_ | ⟨b, rest⟩, offset⟩ e c' hstart - ⟨⟩
    exact ⟨hstart, Nat.le_add_right _ _, Nat.zero_lt_one⟩

/-- Bytes that are missing for what begins at `start` are missed there. -/
lemma locates_ensure (needed : Nat) : Locates start (ensure start needed) where
  advances := advances_ensure start needed
  located := by
    intro c e c' hstart hword h
    rw [ensure] at h
    split_ifs at h with hn
    · cases h
    · cases h
      rw [hasAtLeast_eq_true] at hn
      exact ⟨le_rfl, Nat.add_le_add_right hstart _, lt_min (Nat.lt_of_not_le hn) hword⟩

/-- A hash that is cut is missed where it begins. -/
lemma locates_hash : Locates start hash where
  advances := advances_hash
  located := by
    intro c e c' hstart _ h
    rw [hash] at h
    split_ifs at h with hn
    · cases h
    · cases h
      exact ⟨hstart, le_rfl, Nat.lt_of_not_le hn⟩

/-- One reader after another: the second starts further on, before the same end. -/
lemma Locates.bind {r : Read α} {f : α → Read β} (hr : Locates start r)
    (hf : ∀ a, Locates start (f a)) : Locates start (r >>= f) where
  advances := hr.advances.bind fun a => (hf a).advances
  located := by
    intro c e c'' hstart hword h
    obtain ⟨n, hn, hc⟩ := hr.advances c
    rcases hrc : r c with ⟨e' | a, c'⟩
    · rw [bind_of_error hrc] at h
      cases h
      exact hr.located c _ _ hstart hword hrc
    · rw [bind_of_ok hrc] at h
      obtain rfl : c' = c.advance n := by rw [← hc, hrc]
      have hremaining := c.remaining_advance n
      have hoffset : (c.advance n).offset = c.offset + n := rfl
      have hlocated := (hf a).located (c.advance n) e c'' (by omega) (by omega) h
      have hend : (c.advance n).offset + (c.advance n).remaining = c.offset + c.remaining := by
        omega
      rwa [hend] at hlocated

/-- A place that is asked for is one that is reached. -/
lemma locates_position_bind {f : Nat → Read α} (h : ∀ here, Locates here (f here)) :
    Locates start (position >>= f) where
  advances := advances_position.bind fun here => (h here).advances
  located := by
    intro c e c' hstart hword he
    rw [position_bind] at he
    exact ((h c.offset).located c e c' le_rfl hword he).mono hstart

/-- All readers find their errors so. -/
lemma closed_locates : Closed Locates where
  pure := locates_pure
  failAt := locates_failAt
  take := locates_take
  byte := locates_byte
  ensure := locates_ensure
  hash := locates_hash
  bind := Locates.bind
  position_bind := locates_position_bind

end Read

/-! ### Payloads and responses -/

/-- A run over records finds its error between its first byte and the end of the
bytes. -/
lemma RecordStream.isLocated_of_collect {fields : FieldSet} (hf : fields ≠ .none)
    {done : List ImageRecord} {c : Cursor} {e : DecodeError} (hword : c.remaining < Read.maxNeeded)
    (h : collect done ⟨fields, c, false⟩ = .error e) :
    e.IsLocated c.offset (c.offset + c.remaining) := by
  -- on the bytes left, of which each record takes some from the front
  induction hn : c.remaining using Nat.strong_induction_on generalizing c done with
  | _ n ih =>
    subst hn
    by_cases hc : c.rest = []
    · rw [collect_of_exhausted hc] at h
      cases h
    · have hlocates : Read.Locates c.offset (Read.record fields) :=
        Read.closed_locates.record fields
      rcases hr : Read.record fields c with ⟨e' | r, c'⟩
      · rw [collect_of_error hf hc hr] at h
        cases h
        exact hlocates.located c _ _ le_rfl hword hr
      · rw [collect_of_ok hf hc hr] at h
        have hlt := Read.consumes_record hf _ _ _ hr
        obtain ⟨k, hk, hadvance⟩ := hlocates.advances c
        obtain rfl : c' = c.advance k := by rw [← hadvance, hr]
        have hremaining := c.remaining_advance k
        have hoffset : (c.advance k).offset = c.offset + k := rfl
        have hlocated := (ih _ hlt (by omega) h rfl).mono (Nat.le_add_right c.offset k)
        have hend : (c.advance k).offset + (c.advance k).remaining = c.offset + c.remaining := by
          omega
        rwa [hend] at hlocated

/-- The error of a payload is found between its first byte and its end. -/
lemma isLocated_of_decodeRecords {fields : FieldSet} {payload : Bytes} {e : DecodeError}
    (hword : payload.length < Read.maxNeeded) (h : decodeRecords fields payload = .error e) :
    e.IsLocated headerLength (headerLength + payload.length) := by
  by_cases hf : fields = .none
  · subst hf
    by_cases hpayload : payload = []
    · rw [hpayload, decodeRecords_nil] at h
      cases h
    · rw [decodeRecords_none hpayload] at h
      cases h
      exact ⟨le_rfl, Nat.le_add_right _ _⟩
  · exact RecordStream.isLocated_of_collect (c := ⟨payload, headerLength⟩) hf hword h

/-- The error of a response is one of its header, or is found behind the header and
before the end. -/
lemma isLocated_of_decodeResponse {response : Bytes} {e : DecodeError}
    (h : decodeResponse response = .error e) :
    (∃ fault, Header.decode response = .error (.header fault) ∧ e = .header fault) ∨
      e.IsLocated headerLength response.length := by
  rcases decodeResponse_eq_error_iff.1 h with hheader | ⟨fields, hheader, hrecords⟩
  · by_cases hfault : ∃ fault, e = .header fault
    · obtain ⟨fault, rfl⟩ := hfault
      exact .inl ⟨fault, hheader, rfl⟩
    · push Not at hfault
      obtain ⟨hsize, rfl⟩ := Header.eq_tooLarge_of_decode hheader hfault
      exact .inr ⟨by decide, hsize.le⟩
  · obtain ⟨hle, hsize⟩ := Header.length_of_decode hheader
    have hword : maxResponseSize < Read.maxNeeded := by decide
    have hlocated := isLocated_of_decodeRecords (by rw [List.length_drop]; omega) hrecords
    rw [List.length_drop, Nat.add_sub_cancel' hle] at hlocated
    exact .inr hlocated

/-- **Errors tell what is wrong and where.** A response is refused for its header
exactly if it does not begin with the magic bytes and a byte of which no upper bit is
set. Every other error names a place behind the header and not behind the end; and
what ends too early has fewer bytes left than it wants, all of them in the
response. -/
theorem decodeResponse_errors_located (response : Bytes) :
    ((∃ fault, decodeResponse response = .error (.header fault)) ↔
      ¬ ∃ flags payload, response = magic ++ flags :: payload ∧
        ∀ i, 4 ≤ i → i < 8 → flags.toNat.testBit i = false) ∧
    (∀ offset fault, decodeResponse response = .error (.malformed offset fault) →
      headerLength ≤ offset ∧ offset ≤ response.length) ∧
    (∀ offset needed remaining,
      decodeResponse response = .error (.truncated offset needed remaining) →
        headerLength ≤ offset ∧ offset ≤ response.length ∧
          remaining < needed ∧ offset + remaining ≤ response.length) := by
  refine ⟨?_, fun offset fault h => ?_, fun offset needed remaining h => ?_⟩
  · rw [← Header.decode_eq_header_iff]
    constructor
    · rintro ⟨fault, h⟩
      obtain ⟨fault, hfault, -⟩ | hlocated := isLocated_of_decodeResponse h
      · exact ⟨fault, hfault⟩
      · exact hlocated.elim
    · rintro ⟨fault, hfault⟩
      exact ⟨fault, decodeResponse_eq_error_iff.2 (.inl hfault)⟩
  · obtain ⟨_, -, hne⟩ | hlocated := isLocated_of_decodeResponse h
    · cases hne
    · exact hlocated
  · obtain ⟨_, -, hne⟩ | ⟨hlow, hhigh, hlt⟩ := isLocated_of_decodeResponse h
    · cases hne
    · exact ⟨hlow, (Nat.le_add_right _ _).trans hhigh, hlt, hhigh⟩

end TagCatalog.Wire
