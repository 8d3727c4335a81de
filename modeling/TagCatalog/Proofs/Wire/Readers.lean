import Mathlib.Tactic
import TagCatalog.Proofs.Wire.Forms
import TagCatalog.Proofs.Wire.Reading

/-!
The readers of flat payloads read the forms of the grammar and nothing else.

* `take_eq_ok_iff`, `uint_eq_ok_iff`, `reads_vli`, `count_eq_ok_iff`,
  `reads_string`: numbers in any of their forms, and texts.
* `reads_counted`: counted forms, read into a map; `count_counted`: the look at the
  bytes left, made before any entry is read, refuses no counted forms.
* `reads_tags`, `reads_attributes`: maps, with repetitions put together.
* `reads_record`: the records of given fields.
-/

namespace TagCatalog.Wire

variable {σ τ : Type}

namespace Read

/-! ### Numbers -/

/-- Taking `n` bytes passes over `n` bytes. -/
lemma take_eq_ok_iff {n : Nat} {w : Bytes} {c c' : Cursor} :
    take n c = (.ok w, c') ↔ w.length = n ∧ c.Passes w c' := by
  rw [take]
  constructor
  · intro h
    split at h
    next hl =>
      cases h
      have hn := hasAtLeast_eq_true.1 hl
      have hlen : (c.rest.take n).length = n := by simp [hn]
      refine ⟨hlen, (List.take_append_drop n c.rest).symm, ?_⟩
      rw [hlen]
      rfl
    next => cases h
  · rintro ⟨rfl, hr, ho⟩
    have hl : hasAtLeast w.length c.rest = true := by simp [hr]
    have hc : c.advance w.length = c' := by
      obtain ⟨rest', offset'⟩ := c'
      simp_all [Cursor.advance]
    rw [if_pos hl, hc, hr, List.take_left]

/-- A byte is read by passing over it. -/
lemma byte_eq_ok_iff {b : UInt8} {c c' : Cursor} :
    byte c = (.ok b, c') ↔ c.Passes [b] c' := by
  obtain ⟨rest, offset⟩ := c
  obtain ⟨rest', offset'⟩ := c'
  cases rest with
  | nil =>
    constructor
    · rintro ⟨⟩
    · rintro ⟨hr, -⟩
      cases hr
  | cons b' rest =>
    constructor
    · rintro ⟨⟩
      exact passes_mk [b] rest offset
    · rintro ⟨hr, ho⟩
      obtain ⟨rfl, rfl⟩ := List.cons.inj hr
      obtain rfl : offset' = offset + 1 := ho
      rfl

/-- A number of fixed width is read from the digits that write it. -/
lemma uint_eq_ok_iff {width n : Nat} {c c' : Cursor} :
    uint width c = (.ok n, c') ↔
      n < byteCapacity width ∧ c.Passes (LittleEndian.encode width n) c' := by
  rw [uint, map_eq_ok_iff]
  constructor
  · rintro ⟨w, hw, rfl⟩
    obtain ⟨rfl, hp⟩ := take_eq_ok_iff.1 hw
    exact ⟨LittleEndian.decode_lt w, by rwa [LittleEndian.encode_decode]⟩
  · rintro ⟨hn, hp⟩
    exact ⟨_, take_eq_ok_iff.2 ⟨LittleEndian.length_encode _ _, hp⟩,
      LittleEndian.decode_encode hn⟩

/-- A marker announces as many bytes as its form is wide. -/
lemma markerWidth_lead {f : NumeralForm} (hf : f ≠ .own) (n : UInt64) :
    markerWidth (f.lead n) = some f.width := by
  cases f
  · exact absurd rfl hf
  all_goals rfl

/-- A byte that announces no bytes lies below all markers. -/
lemma markerWidth_eq_none_iff {b : UInt8} : markerWidth b = none ↔ b.toNat < 0xFD := by
  rw [markerWidth]
  constructor
  · intro h
    have hb := b.toNat_lt
    split_ifs at h with h₂ h₄ h₈
    rw [← UInt8.toNat_inj] at h₂ h₄ h₈
    simp only [UInt8.reduceToNat] at h₂ h₄ h₈
    omega
  · intro h
    have hne : ∀ m : UInt8, 0xFD ≤ m.toNat → b ≠ m := by
      rintro m hm rfl
      omega
    rw [if_neg (hne _ (by decide)), if_neg (hne _ (by decide)), if_neg (hne _ (by decide))]

/-- A byte that announces bytes is the marker of a form. -/
lemma exists_lead_of_markerWidth {b : UInt8} {width : Nat} (h : markerWidth b = some width) :
    ∃ f : NumeralForm, f ≠ .own ∧ f.width = width ∧ ∀ n, f.lead n = b := by
  rw [markerWidth] at h
  split_ifs at h with h₂ h₄ h₈
  · exact ⟨.two, by decide, Option.some.inj h, fun _ => h₂.symm⟩
  · exact ⟨.four, by decide, Option.some.inj h, fun _ => h₄.symm⟩
  · exact ⟨.eight, by decide, Option.some.inj h, fun _ => h₈.symm⟩

/-- A number is read in each of its forms, and nothing else is read as one. -/
lemma reads_vli : Reads vli Numeral.bytes Numeral.value := by
  intro c n c'
  rw [vli, bind_eq_ok_iff]
  constructor
  · rintro ⟨b, c₁, hb, h⟩
    have hlead := byte_eq_ok_iff.1 hb
    cases hw : markerWidth b with
    | some width =>
      obtain ⟨f, hf, rfl, hfb⟩ := exists_lead_of_markerWidth hw
      rw [hw] at h
      obtain ⟨m, c₂, hm, h⟩ := bind_eq_ok_iff.1 h
      obtain ⟨rfl, rfl⟩ := pure_eq_ok_iff.1 h
      obtain ⟨hlt, hp⟩ := uint_eq_ok_iff.1 hm
      rw [NumeralForm.byteCapacity_width hf] at hlt
      have hm64 : (UInt64.ofNat m).toNat = m := by
        refine UInt64.toNat_ofNat_of_lt' (lt_of_lt_of_le hlt ?_)
        cases f <;> decide
      refine ⟨⟨f, UInt64.ofNat m, by rwa [hm64]⟩, rfl, passes_append (v := [_]).2 ⟨c₁, ?_, ?_⟩⟩
      · simpa only [hfb] using hlead
      · simpa only [hm64] using hp
    | none =>
      have hlt := markerWidth_eq_none_iff.1 hw
      rw [hw] at h
      obtain ⟨rfl, rfl⟩ := pure_eq_ok_iff.1 h
      refine ⟨⟨.own, b.toUInt64, by simpa [NumeralForm.bound] using hlt⟩, rfl, ?_⟩
      simpa [Numeral.bytes, NumeralForm.lead, NumeralForm.width, LittleEndian.encode] using hlead
  · rintro ⟨⟨f, n, hn⟩, rfl, hp⟩
    obtain ⟨c₁, hlead, hp⟩ := passes_append (v := [_]).1 hp
    refine ⟨f.lead n, c₁, byte_eq_ok_iff.2 hlead, ?_⟩
    by_cases hf : f = .own
    · subst hf
      have hlead := Numeral.toNat_lead_own hn
      rw [markerWidth_eq_none_iff.2 (hlead ▸ hn)]
      refine pure_eq_ok_iff.2 ⟨?_, passes_nil.1 hp⟩
      rw [← UInt64.toNat_inj, UInt8.toNat_toUInt64, hlead]
    · rw [markerWidth_lead hf]
      refine bind_eq_ok_iff.2 ⟨n.toNat, c', uint_eq_ok_iff.2 ⟨?_, hp⟩, ?_⟩
      · rwa [NumeralForm.byteCapacity_width hf]
      · rw [pure_eq_ok_iff, UInt64.ofNat_toNat]
        exact ⟨rfl, rfl⟩

/-! ### Counts and texts -/

/-- Asking for the position answers it. -/
lemma position_bind (f : Nat → Read τ) (c : Cursor) : (position >>= f) c = f c.offset c :=
  bind_of_ok rfl

/-- Enough bytes are left, or the look at them fails. -/
lemma ensure_eq_ok_iff {start needed : Nat} {c c' : Cursor} :
    ensure start needed c = (.ok (), c') ↔ needed ≤ c.remaining ∧ c' = c := by
  rw [ensure, Cursor.remaining, ← hasAtLeast_eq_true]
  constructor
  · intro h
    split at h
    next hl =>
      cases h
      exact ⟨hl, rfl⟩
    next => cases h
  · rintro ⟨hl, rfl⟩
    rw [if_pos hl]

/-- A count is a number after which enough bytes are left for so many entries. -/
lemma count_eq_ok_iff {least n : Nat} {c c' : Cursor} :
    count least c = (.ok n, c') ↔
      ∃ t : Numeral, t.value.toNat = n ∧ c.Passes t.bytes c' ∧ n * least ≤ c'.remaining := by
  rw [count, position_bind, bind_eq_ok_iff]
  constructor
  · rintro ⟨m, c₁, hm, h⟩
    obtain ⟨t, rfl, hp⟩ := (reads_vli _ _ _).1 hm
    obtain ⟨_, c₂, he, h'⟩ := bind_eq_ok_iff.1 h
    obtain ⟨hle, rfl⟩ := ensure_eq_ok_iff.1 he
    obtain ⟨rfl, rfl⟩ := pure_eq_ok_iff.1 h'
    exact ⟨t, rfl, hp, hle⟩
  · rintro ⟨t, rfl, hp, hle⟩
    refine ⟨t.value, c', (reads_vli _ _ _).2 ⟨t, rfl, hp⟩, ?_⟩
    exact bind_eq_ok_iff.2 ⟨(), c', ensure_eq_ok_iff.2 ⟨hle, rfl⟩, pure_eq_ok_iff.2 ⟨rfl, rfl⟩⟩

/-- A text is read with any form of its length; it must be short and be text. -/
lemma reads_string : Reads string TextForm.bytes TextForm.text := by
  intro c s c'
  rw [string, position_bind, bind_eq_ok_iff]
  constructor
  · rintro ⟨n, c₁, hn, h⟩
    obtain ⟨t, rfl, hp⟩ := (reads_vli _ _ _).1 hn
    split at h
    · exact absurd h failAt_ne_ok
    next hle =>
      rw [position_bind] at h
      obtain ⟨w, c₂, hw, h⟩ := bind_eq_ok_iff.1 h
      obtain ⟨hlen, hp'⟩ := take_eq_ok_iff.1 hw
      cases hs : Utf8.decode? w with
      | some s' =>
        simp only [hs, pure_eq_ok_iff] at h
        obtain ⟨rfl, rfl⟩ := h
        obtain rfl := Utf8.decode?_eq_some_iff.1 hs
        exact ⟨⟨t, s', hlen.symm, by omega⟩, rfl, passes_append.2 ⟨c₁, hp, hp'⟩⟩
      | none =>
        simp only [hs] at h
        exact absurd h failAt_ne_ok
  · rintro ⟨⟨t, s, hlen, hshort⟩, rfl, hp⟩
    obtain ⟨c₁, hp, hp'⟩ := passes_append.1 hp
    refine ⟨t.value, c₁, (reads_vli _ _ _).2 ⟨t, rfl, hp⟩, ?_⟩
    rw [if_neg (by omega), position_bind]
    refine bind_eq_ok_iff.2 ⟨Utf8.encode s, c', take_eq_ok_iff.2 ⟨hlen.symm, hp'⟩, ?_⟩
    rw [Utf8.decode?_encode]
    exact pure_eq_ok_iff.2 ⟨rfl, rfl⟩

/-! ### Counted forms -/

section

variable {bytes : τ → Bytes}

/-- Counted forms are followed by their entries, so that enough bytes are left for
them: the count is answered. -/
lemma count_counted (hb : ∀ t, leastEntry ≤ (bytes t).length) (t : Counted τ) (rest : Bytes)
    (offset : Nat) :
    count leastEntry ⟨t.bytes bytes ++ rest, offset⟩
      = (.ok t.items.length,
          ⟨t.items.flatMap bytes ++ rest, offset + t.count.bytes.length⟩) := by
  refine count_eq_ok_iff.2 ⟨t.count, t.count_eq, ?_, ?_⟩
  · rw [Counted.bytes, List.append_assoc]
    exact passes_mk _ _ _
  · have hle := length_mul_le_flatMap hb t.items
    rw [Cursor.remaining, List.length_append]
    omega

/-- Counted forms are read into a state, from the front. -/
lemma reads_counted {step : σ → Read σ} {put : σ → τ → σ} (h : ∀ s, Reads (step s) bytes (put s))
    (hb : ∀ t, leastEntry ≤ (bytes t).length) (s : σ) :
    Reads (count leastEntry >>= fun n => times step n s) (Counted.bytes bytes)
      fun t => t.items.foldl put s := by
  intro c a c'
  rw [bind_eq_ok_iff]
  constructor
  · rintro ⟨n, c₁, hn, ha⟩
    obtain ⟨t, rfl, hp, -⟩ := count_eq_ok_iff.1 hn
    obtain ⟨l, hl, rfl, hp'⟩ := (times_eq_ok_iff h).1 ha
    exact ⟨⟨t, l, hl.symm⟩, rfl, passes_append.2 ⟨c₁, hp, hp'⟩⟩
  · rintro ⟨t, rfl, hp⟩
    obtain ⟨c₁, hp, hp'⟩ := passes_append.1 hp
    refine ⟨t.items.length, c₁, count_eq_ok_iff.2 ⟨t.count, t.count_eq, hp, ?_⟩,
      (times_eq_ok_iff h).2 ⟨t.items, rfl, rfl, hp'⟩⟩
    have hle := length_mul_le_flatMap hb t.items
    rw [hp'.remaining_eq]
    omega

end

/-! ### Maps -/

/-- One tag with its user, put into a map. -/
def tagEntry (m : TagMap) : Read TagMap := do
  let tag ← vli
  let user ← vli
  return m.insert tag user

/-- One value with its user, put into a map. -/
def valueEntry (m : OrderedMap String UserId) : Read (OrderedMap String UserId) := do
  let value ← string
  let user ← vli
  return m.insert value user

/-- One key with its values, put into a map. -/
def keyEntry (m : AttributeMap) : Read AttributeMap := do
  let key ← string
  let values ← count leastEntry >>= fun n => times valueEntry n ((m.get? key).getD ∅)
  return m.insert key values

/-- Tags are read one after another. -/
lemma tagEntries_eq_times (n : Nat) (m : TagMap) : tagEntries n m = times tagEntry n m := by
  induction n generalizing m with
  | zero => rfl
  | succ n ih => simp only [tagEntries, times, tagEntry, bind_assoc, pure_bind, ih]

/-- Values are read one after another. -/
lemma valueEntries_eq_times (n : Nat) (m : OrderedMap String UserId) :
    valueEntries n m = times valueEntry n m := by
  induction n generalizing m with
  | zero => rfl
  | succ n ih => simp only [valueEntries, times, valueEntry, bind_assoc, pure_bind, ih]

/-- Keys are read one after another. -/
lemma keyEntries_eq_times (n : Nat) (m : AttributeMap) : keyEntries n m = times keyEntry n m := by
  induction n generalizing m with
  | zero => rfl
  | succ n ih =>
    simp only [keyEntries, times, keyEntry, bind_assoc, pure_bind, ih, valueEntries_eq_times]

/-- A tag with its user is read into a map. -/
lemma reads_tagEntry (m : TagMap) : Reads (tagEntry m) TagForm.bytes (TagForm.put m) := by
  have h := reads_vli.bind (f := fun tag => vli >>= fun user => pure (m.insert tag user))
    fun t => reads_vli.bind_pure (m.insert t.value)
  exact h.reindex (g := fun t : TagForm => (t.tag, t.user)) fun p => ⟨⟨p.1, p.2⟩, rfl⟩

/-- A value with its user is read into a map. -/
lemma reads_valueEntry (m : OrderedMap String UserId) :
    Reads (valueEntry m) ValueForm.bytes (ValueForm.put m) := by
  have h := reads_string.bind (f := fun value => vli >>= fun user => pure (m.insert value user))
    fun t => reads_vli.bind_pure (m.insert t.text)
  exact h.reindex (g := fun t : ValueForm => (t.value, t.user)) fun p => ⟨⟨p.1, p.2⟩, rfl⟩

/-- A key with its values is read into a map, the values into those of the key. -/
lemma reads_keyEntry (m : AttributeMap) : Reads (keyEntry m) KeyForm.bytes (KeyForm.put m) := by
  have hvalues := reads_counted reads_valueEntry ValueForm.leastEntry_le
  have h := reads_string.bind
    (f := fun key => (count leastEntry >>= fun n =>
      times valueEntry n ((m.get? key).getD ∅)) >>= fun values => pure (m.insert key values))
    fun t => (hvalues ((m.get? t.text).getD ∅)).bind_pure (m.insert t.text)
  exact h.reindex (g := fun t : KeyForm => (t.key, t.values)) fun p => ⟨⟨p.1, p.2⟩, rfl⟩

/-- A tag map is read from its counted entries. -/
lemma reads_tags : Reads tags (Counted.bytes TagForm.bytes) RecordForm.tagMap := by
  have h := reads_counted reads_tagEntry TagForm.leastEntry_le ∅
  simp only [← tagEntries_eq_times] at h
  exact h

/-- An attribute map is read from its counted entries. -/
lemma reads_attributes :
    Reads attributes (Counted.bytes KeyForm.bytes) RecordForm.attributeMap := by
  have h := reads_counted reads_keyEntry KeyForm.leastEntry_le ∅
  simp only [← keyEntries_eq_times] at h
  exact h

/-! ### Records -/

/-- An id is read from its four bytes. -/
lemma reads_id :
    Reads (UInt32.ofNat <$> uint FieldList.idWidth : Read UInt32) FieldList.encodeId id := by
  intro c n c'
  rw [map_eq_ok_iff]
  constructor
  · rintro ⟨m, hm, rfl⟩
    obtain ⟨hlt, hp⟩ := uint_eq_ok_iff.1 hm
    refine ⟨UInt32.ofNat m, rfl, ?_⟩
    rwa [FieldList.encodeId, UInt32.toNat_ofNat_of_lt' hlt]
  · rintro ⟨n, rfl, hp⟩
    exact ⟨n.toNat, uint_eq_ok_iff.2 ⟨n.toNat_lt, hp⟩, UInt32.ofNat_toNat⟩

/-- A hash is read from its bytes. -/
lemma reads_hash : Reads hash ImageHash.bytes id := by
  intro c g c'
  rw [hash]
  constructor
  · intro h
    split at h
    next hl =>
      cases h
      refine ⟨_, rfl, (List.take_append_drop 32 c.rest).symm, ?_⟩
      simp [Cursor.advance, hl]
    next => cases h
  · rintro ⟨g, rfl, hr, ho⟩
    have hl : 32 ≤ c.rest.length := by
      rw [hr, List.length_append, g.length_bytes]
      exact Nat.le_add_right _ _
    have htake : c.rest.take 32 = g.bytes := by rw [hr, List.take_left' g.length_bytes]
    have hg : (⟨c.rest.take 32, by simp [hl]⟩ : ImageHash) = g := ImageHash.ext htake
    have hc : c.advance 32 = c' := by
      rw [Cursor.advance, hr, List.drop_left' g.length_bytes, ← g.length_bytes, ← ho]
    rw [dif_pos hl, hg, hc]
    rfl

/-- A field that is there or not, as is known beforehand. -/
lemma reads_when {α : Type} {r : Read α} {bytes : τ → Bytes} {value : τ → α}
    (h : Reads r bytes value) (wanted : Bool) :
    Reads (when wanted r) (fun o : { o : Option τ // o.isSome = wanted } => o.1.elim [] bytes)
      fun o => o.1.map value := by
  intro c a c'
  cases wanted with
  | false =>
    constructor
    · intro ha
      obtain ⟨rfl, rfl⟩ := pure_eq_ok_iff.1 ha
      exact ⟨⟨none, rfl⟩, rfl, passes_nil.2 rfl⟩
    · rintro ⟨⟨o, ho⟩, rfl, hp⟩
      cases o with
      | none => exact pure_eq_ok_iff.2 ⟨rfl, passes_nil.1 hp⟩
      | some t => cases ho
  | true =>
    rw [when, if_pos rfl, map_eq_ok_iff]
    constructor
    · rintro ⟨a, ha, rfl⟩
      obtain ⟨t, rfl, hp⟩ := (h _ _ _).1 ha
      exact ⟨⟨some t, rfl⟩, rfl, hp⟩
    · rintro ⟨⟨o, ho⟩, rfl, hp⟩
      obtain ⟨t, rfl⟩ := Option.isSome_iff_exists.1 ho
      exact ⟨value t, (h _ _ _).2 ⟨t, rfl, hp⟩, rfl⟩

/-- A record is read from its fields. -/
lemma reads_record (fields : FieldSet) :
    Reads (record fields) (fun t : RecordForm.Of fields => t.1.bytes) fun t => t.1.record := by
  have h := (reads_when reads_id fields.ids).bind
    (f := fun id => when fields.hashes hash >>= fun hash => when fields.tags tags >>= fun tags =>
      when fields.attributes attributes >>= fun attributes =>
        pure (ImageRecord.mk id hash tags attributes))
    fun _ => (reads_when reads_hash fields.hashes).bind
      fun _ => (reads_when reads_tags fields.tags).bind
        fun _ => (reads_when reads_attributes fields.attributes).bind_pure (ImageRecord.mk _ _ _)
  simp only [Option.map_id_fun, id_eq] at h
  exact h.reindex RecordForm.parts_bijective.surjective

end Read

end TagCatalog.Wire
