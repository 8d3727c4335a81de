import Mathlib.Tactic
import TagCatalog.Proofs.Wire.Readers
import TagCatalog.Proofs.Wire.Shortest

/-!
Numbers of one to nine bytes, as a whole.

* `Vli.announced`: how many bytes the first byte of a number announces.
* `Vli.decode_cons`: what is read behind a first byte.
* `Vli.decode_eq_error_iff`: bytes are no number exactly if they are fewer than announced.
* `Vli.decode_eq_ok_iff`: they are a number if they begin with one of its forms.
* `Vli.encode_is_exact`: a number is written in a shortest form, and read in all of them.
-/

namespace TagCatalog.Wire

namespace NumeralForm

/-- No form is wider than eight bytes. -/
lemma width_le (f : NumeralForm) : f.width ≤ 8 := by
  cases f <;> decide

end NumeralForm

namespace Vli

open Read

/-- How many bytes the first byte of a number announces, itself among them. -/
def announced (first : UInt8) : Nat :=
  if first = 0xFD then 3 else if first = 0xFE then 5 else if first = 0xFF then 9 else 1

/-- The first byte, and those that follow it if it is a marker. -/
lemma announced_eq (first : UInt8) : announced first = (markerWidth first).getD 0 + 1 := by
  simp only [announced, markerWidth]
  split_ifs <;> rfl

/-- Behind a marker as many bytes are read as it announces; any other byte is a number. -/
lemma decode_cons (first : UInt8) (rest : Bytes) :
    decode (first :: rest) = match markerWidth first with
      | none => .ok (first.toUInt64, 1)
      | some width =>
        if width ≤ rest.length then
          .ok (UInt64.ofNat (LittleEndian.decode (rest.take width)), 1 + width)
        else .error (.truncated 1 width rest.length) := by
  have hbyte : byte ⟨first :: rest, 0⟩ = (.ok first, ⟨rest, 1⟩) := rfl
  rw [decode, vli, bind_of_ok hbyte]
  cases markerWidth first with
  | none => rfl
  | some width =>
    dsimp only
    by_cases h : width ≤ rest.length
    · have htake : take width ⟨rest, 1⟩ =
          (.ok (rest.take width), ⟨rest.drop width, 1 + width⟩) := by
        rw [take, if_pos (hasAtLeast_eq_true.2 h)]
        rfl
      rw [if_pos h, uint, map_eq_pure_bind, bind_assoc, bind_of_ok htake]
      rfl
    · have htake : take width ⟨rest, 1⟩ =
          (.error (.truncated 1 width rest.length), ⟨rest, 1⟩) := by
        rw [take, if_neg fun hlong => h (hasAtLeast_eq_true.1 hlong)]
        rfl
      rw [if_neg h, uint, map_eq_pure_bind, bind_assoc, bind_of_error htake]

/-- Bytes are no number exactly if there are none, or fewer than the first announces; they are then
refused as cut short. -/
theorem decode_eq_error_iff {bytes : Bytes} {e : DecodeError} :
    decode bytes = .error e ↔
      (bytes = [] ∧ e = .truncated 0 1 0) ∨
        ∃ first rest, bytes = first :: rest ∧ bytes.length < announced first ∧
          e = .truncated 1 (announced first - 1) rest.length := by
  cases bytes with
  | nil =>
    have hnil : decode [] = .error (.truncated 0 1 0) := rfl
    rw [hnil]
    simp [eq_comm]
  | cons first rest =>
    rw [decode_cons]
    cases hwidth : markerWidth first with
    | none => simp [announced_eq, hwidth]
    | some width =>
      by_cases h : width ≤ rest.length
      · simp [announced_eq, hwidth, h]
      · simp [announced_eq, hwidth, h, eq_comm]
        omega

/-- A number is read with its bytes exactly if one of its forms stands in front. -/
theorem decode_eq_ok_iff {bytes : Bytes} {value : UInt64} {n : Nat} :
    decode bytes = .ok (value, n) ↔
      ∃ t : Numeral, t.value = value ∧ t.bytes.length = n ∧ t.bytes <+: bytes := by
  rw [decode]
  constructor
  · intro h
    split at h
    next m c' hread =>
      cases h
      obtain ⟨t, rfl, hrest, hoffset⟩ := (reads_vli _ _ _).1 hread
      exact ⟨t, rfl, by simpa using hoffset.symm, ⟨c'.rest, hrest.symm⟩⟩
    next => cases h
  · rintro ⟨t, rfl, rfl, ⟨rest, rfl⟩⟩
    rw [reads_vli.apply t rest 0]
    simp

/-- **A number is written in a shortest form, and read in every form.** What is written is read
back, whatever follows it. What is read takes one to nine of the bytes, and no fewer than it would
be written in. Bytes are refused exactly if there are none or fewer than the first announces, and
they are refused as cut short. -/
theorem encode_is_exact :
    (∀ (value : UInt64) (tail : Bytes),
      decode (encode value ++ tail) = .ok (value, (encode value).length)) ∧
    (∀ (bytes : Bytes) (value : UInt64) (n : Nat), decode bytes = .ok (value, n) →
      1 ≤ n ∧ n ≤ 9 ∧ n ≤ bytes.length ∧ (encode value).length ≤ n) ∧
    ∀ bytes : Bytes,
      ((∃ e, decode bytes = .error e) ↔
        bytes = [] ∨ ∃ first ∈ bytes.head?, bytes.length < announced first) ∧
      ∀ e, decode bytes = .error e → ∃ offset needed, e = .truncated offset needed
        (bytes.length - offset) ∧ bytes.length < offset + needed := by
  refine ⟨fun value tail => ?_, fun bytes value n h => ?_, fun bytes => ⟨?_, fun e h => ?_⟩⟩
  · refine decode_eq_ok_iff.2 ⟨.shortest value, rfl, ?_, ?_⟩
    · rw [Numeral.bytes_shortest]
    · rw [Numeral.bytes_shortest]
      exact List.prefix_append ..
  · obtain ⟨t, rfl, rfl, hprefix⟩ := decode_eq_ok_iff.1 h
    refine ⟨?_, ?_, hprefix.length_le, t.length_encode_le⟩
    · rw [Numeral.length_bytes]
      omega
    · have hwidth := t.form.width_le
      rw [Numeral.length_bytes]
      omega
  · cases bytes with
    | nil => simp [decode_eq_error_iff]
    | cons first rest => simp [decode_eq_error_iff]
  · obtain ⟨rfl, rfl⟩ | ⟨first, rest, rfl, hlt, rfl⟩ := decode_eq_error_iff.1 h
    · exact ⟨0, 1, rfl, Nat.zero_lt_one⟩
    · have hone : 1 ≤ announced first := announced_eq first ▸ Nat.le_add_left ..
      refine ⟨1, announced first - 1, rfl, ?_⟩
      omega

end Vli

end TagCatalog.Wire
