import Mathlib.Tactic
import TagCatalog.Proofs.Wire.Readers
import TagCatalog.Proofs.Wire.Shortest

/-!
What is written is read back, unless a text in it is too long.

The writer does not look at the lengths of texts; the reader does. So what is
written is read back if all texts are short, and else is refused for the first one
that is not, whatever stands in front of it.

* `Text.IsShort`, `DecodeError.IsLongText`: the texts that are read, and the refusal
  of the others.
* `ReadsBack`: a reader that answers a value, or refuses a text if a condition
  fails; `ReadsBack.bind`, `times` and `counted` follow the reader through what is
  written one after another.
* `ImageRecord.padded`: a record with just the given fields, filled where it lacks
  one; `readsBack_record` says that it is read for what is written.
-/

namespace TagCatalog

/-- A text that may be sent. -/
def Text.IsShort (s : String) : Prop := (Utf8.encode s).length ≤ Wire.maxStringLength

instance (s : String) : Decidable (Text.IsShort s) := inferInstanceAs (Decidable (_ ≤ _))

/-- A key with its values, of which no text is too long. -/
def AttributeMap.IsShortEntry (e : String × OrderedMap String UserId) : Prop :=
  Text.IsShort e.1 ∧ ∀ v ∈ e.2.entries, Text.IsShort v.1

/-- Attributes of which no key and no value is too long. -/
def AttributeMap.IsShort (m : AttributeMap) : Prop := ∀ e ∈ m.entries, IsShortEntry e

instance (e : String × OrderedMap String UserId) : Decidable (AttributeMap.IsShortEntry e) :=
  inferInstanceAs (Decidable (_ ∧ _))

instance (m : AttributeMap) : Decidable m.IsShort :=
  inferInstanceAs (Decidable (∀ e ∈ m.entries, AttributeMap.IsShortEntry e))

namespace AttributeMap

/-- The attributes after one more key with its values. -/
def join (m : AttributeMap) (e : String × OrderedMap String UserId) : AttributeMap :=
  m.insert e.1 (e.2.entries.foldl (fun m v => m.insert v.1 v.2) ((m.get? e.1).getD ∅))

/-- Keys that continue the order of a map are new to it. -/
lemma foldl_join {l : List (String × OrderedMap String UserId)} {m : AttributeMap}
    (h : (m.entries ++ l).Pairwise fun a b => a.1 < b.1) :
    l.foldl join m = l.foldl (fun m e => m.insert e.1 e.2) m := by
  induction l generalizing m with
  | nil => rfl
  | cons e l ih =>
    have hlt : ∀ f ∈ m.entries, f.1 < e.1 := fun f hf =>
      (List.pairwise_append.1 h).2.2 f hf e (by simp)
    -- all keys so far are less, so nothing is there to be joined
    have hnew : m.get? e.1 = none :=
      OrderedMap.lookup_eq_none fun f hf hfe => Std.lt_irrefl (hfe ▸ hlt f hf)
    have hjoin : m.join e = m.insert e.1 e.2 := by
      have hvalues : e.2.entries.foldl (fun m v => m.insert v.1 v.2) ∅ = e.2 :=
        e.2.ofList_entries
      rw [join, hnew, Option.getD_none, hvalues]
    have hentries : (m.insert e.1 e.2).entries = m.entries ++ [e] :=
      OrderedMap.place_of_forall_lt hlt
    rw [List.foldl_cons, List.foldl_cons, hjoin, ih (by rw [hentries]; simpa using h)]

/-- Attributes are joined from their own entries. -/
lemma foldl_join_entries (m : AttributeMap) : m.entries.foldl join ∅ = m := by
  rw [foldl_join (m := ∅) m.sorted]
  exact m.ofList_entries

end AttributeMap

namespace ImageRecord

/-- The record with just these fields; one that it lacks is zero or empty. -/
def padded (fields : Wire.FieldSet) (r : ImageRecord) : ImageRecord where
  id := if fields.ids then some (r.id.getD 0) else none
  hash := if fields.hashes then some (r.hash.getD .zero) else none
  tags := if fields.tags then some (r.tags.getD ∅) else none
  attributes := if fields.attributes then some (r.attributes.getD ∅) else none

/-- A record of which no text that is written with these fields is too long. -/
def IsShort (fields : Wire.FieldSet) (r : ImageRecord) : Prop :=
  fields.attributes = true → (r.attributes.getD ∅).IsShort

instance (fields : Wire.FieldSet) (r : ImageRecord) : Decidable (r.IsShort fields) :=
  inferInstanceAs (Decidable (_ → _))

end ImageRecord

namespace Wire

/-- A text is refused because it is too long. -/
def DecodeError.IsLongText (e : DecodeError) : Prop :=
  ∃ offset length, maxStringLength < length ∧ e = .malformed offset (.longString length)

namespace Read

variable {α β σ τ : Type}

/-! ### Following what is written -/

/-- Where the bytes `w` stand, a reader answers `a` and passes over them if `p`, and
refuses a text if not. -/
def ReadsBack (r : Read α) (w : Bytes) (p : Prop) (a : α) : Prop :=
  ∀ c c', c.Passes w c' →
    (p → r c = (.ok a, c')) ∧ (¬ p → ∃ e c'', r c = (.error e, c'') ∧ e.IsLongText)

namespace ReadsBack

variable {r : Read α} {w w' : Bytes} {p q : Prop} {a : α}

/-- A form is read back without condition. -/
lemma of_reads {bytes : τ → Bytes} {value : τ → α} (h : Reads r bytes value) (t : τ) :
    ReadsBack r (bytes t) True (value t) := fun _ _ hp =>
  ⟨fun _ => (h _ _ _).2 ⟨t, rfl, hp⟩, fun hn => absurd trivial hn⟩

/-- Nothing is read back from no bytes. -/
lemma of_pure (a : α) : ReadsBack (pure a : Read α) [] True a := fun _ _ hp =>
  ⟨fun _ => pure_eq_ok_iff.2 ⟨rfl, passes_nil.1 hp⟩, fun hn => absurd trivial hn⟩

/-- The condition may be said otherwise. -/
lemma congr (h : ReadsBack r w p a) (hpq : p ↔ q) : ReadsBack r w q a := by
  rwa [ReadsBack, ← propext hpq]

/-- One thing after another: the first text that is too long is refused. -/
lemma bind {f : α → Read β} {b : β} (hr : ReadsBack r w p a) (hf : ReadsBack (f a) w' q b) :
    ReadsBack (r >>= f) (w ++ w') (p ∧ q) b := by
  intro c c'' hp
  obtain ⟨c', hw, hw'⟩ := passes_append.1 hp
  obtain ⟨hok, herr⟩ := hr c c' hw
  obtain ⟨hok', herr'⟩ := hf c' c'' hw'
  constructor
  · rintro ⟨hp, hq⟩
    rw [bind_of_ok (hok hp), hok' hq]
  · intro hn
    by_cases hp : p
    · rw [bind_of_ok (hok hp)]
      exact herr' fun hq => hn ⟨hp, hq⟩
    · obtain ⟨e, c₁, he, hlong⟩ := herr hp
      exact ⟨e, c₁, bind_of_error he, hlong⟩

/-- What becomes of an answer does not matter. -/
lemma bind_pure (h : ReadsBack r w p a) (g : α → β) :
    ReadsBack (r >>= fun a => pure (g a)) w p (g a) := by
  have := h.bind (f := fun a => pure (g a)) (of_pure (g a))
  rw [List.append_nil] at this
  exact this.congr (and_iff_left trivial)

/-- What is not wanted is neither written nor read. -/
lemma when (wanted : Bool) (h : wanted = true → ReadsBack r w p a) :
    ReadsBack (Read.when wanted r) (if wanted then w else []) (wanted = true → p)
      (if wanted then some a else none) := by
  cases wanted with
  | false => exact (of_pure none).congr (by simp)
  | true =>
    have := (h rfl).bind_pure some
    rw [← map_eq_pure_bind] at this
    exact this.congr (by simp)

/-! ### Entries -/

variable {step : σ → Read σ} {encode : τ → Bytes} {fits : τ → Prop} {put : σ → τ → σ}

/-- Entries written one after another are read back one after another. -/
lemma times {l : List τ} (h : ∀ s, ∀ t ∈ l, ReadsBack (step s) (encode t) (fits t) (put s t))
    (s : σ) :
    ReadsBack (Read.times step l.length s) (l.flatMap encode) (∀ t ∈ l, fits t)
      (l.foldl put s) := by
  induction l generalizing s with
  | nil => exact (of_pure s).congr (by simp)
  | cons t l ih =>
    have hhead := h s t (by simp)
    have hrest := ih (fun s u hu => h s u (by simp [hu])) (put s t)
    exact (hhead.bind hrest).congr List.forall_mem_cons.symm

/-- Entries with their number in front are read back: enough bytes are left for so
many. -/
lemma counted {l : List τ}
    (h : (encodeCount l.length ++ l.flatMap encode).length < UInt64.size)
    (hleast : ∀ t, leastEntry ≤ (encode t).length)
    (hstep : ∀ s t, (encode t).length < UInt64.size →
      ReadsBack (step s) (encode t) (fits t) (put s t)) (s : σ) :
    ReadsBack (count leastEntry >>= fun n => Read.times step n s)
      (encodeCount l.length ++ l.flatMap encode) (∀ t ∈ l, fits t) (l.foldl put s) := by
  rw [List.length_append] at h
  have hmul := length_mul_le_flatMap hleast l
  rw [leastEntry] at hmul
  have hn : (Numeral.shortest (UInt64.ofNat l.length)).value.toNat = l.length :=
    UInt64.toNat_ofNat_of_lt' (by omega)
  have hentry : ∀ t ∈ l, (encode t).length < UInt64.size := fun t ht => by
    refine lt_of_le_of_lt ?_ h
    rw [List.length_flatMap]
    exact Nat.le_add_left_of_le (List.le_sum_of_mem (List.mem_map_of_mem ht))
  intro c c' hp
  obtain ⟨c₁, hcount, hentries⟩ := passes_append.1 hp
  have hleft : l.length * leastEntry ≤ c₁.remaining := by
    rw [hentries.remaining_eq, leastEntry]
    omega
  rw [encodeCount, ← Numeral.bytes_shortest] at hcount
  rw [bind_of_ok (count_eq_ok_iff.2 ⟨_, hn, hcount, hleft⟩)]
  exact ReadsBack.times (fun s t ht => hstep s t (hentry t ht)) s c₁ c' hentries

end ReadsBack

/-! ### Numbers and texts -/

/-- A number is read back. -/
lemma readsBack_vli (n : UInt64) : ReadsBack vli (Vli.encode n) True n := by
  rw [← Numeral.bytes_shortest]
  exact .of_reads reads_vli (Numeral.shortest n)

/-- A text is read back if it is short, and is refused if not. -/
lemma readsBack_string {s : String} (h : (Utf8.encode s).length < UInt64.size) :
    ReadsBack string (encodeString s) (Text.IsShort s) s := by
  intro c c' hp
  have hn : (UInt64.ofNat (Utf8.encode s).length).toNat = (Utf8.encode s).length :=
    UInt64.toNat_ofNat_of_lt' h
  constructor
  · intro hshort
    refine (reads_string c s c').2
      ⟨⟨Numeral.shortest (UInt64.ofNat (Utf8.encode s).length), s, hn, hshort⟩, rfl, ?_⟩
    rwa [TextForm.bytes, Numeral.bytes_shortest]
  · -- the length is refused before any byte of the text is read
    intro hlong
    obtain ⟨c₁, hlength, -⟩ := passes_append.1 hp
    have hread := ((readsBack_vli _) c c₁ hlength).1 trivial
    refine ⟨_, c₁, ?_, c.offset, (Utf8.encode s).length, Nat.lt_of_not_le hlong, rfl⟩
    rw [string, position_bind, bind_of_ok hread, hn, if_pos (Nat.lt_of_not_le hlong)]
    rfl

/-! ### Maps -/

/-- A tag with its user is read back into a map. -/
lemma readsBack_tagEntry (e : TagId × UserId) (m : TagMap) :
    ReadsBack (tagEntry m) (encodeTag e) True (m.insert e.1 e.2) :=
  ((readsBack_vli e.1).bind ((readsBack_vli e.2).bind_pure (m.insert e.1))).congr (by simp)

/-- A tag map is read back. -/
lemma readsBack_tags {m : TagMap} (h : (encodeTags m).length < UInt64.size) :
    ReadsBack tags (encodeTags m) True m := by
  have hentries := ReadsBack.counted h leastEntry_le_encodeTag
    (fun m e _ => readsBack_tagEntry e m) ∅
  have hmap : m.entries.foldl (fun m e => m.insert e.1 e.2) ∅ = m := m.ofList_entries
  simp only [← tagEntries_eq_times] at hentries
  rw [hmap] at hentries
  exact hentries.congr (by simp)

/-- A value with its user is read back into a map. -/
lemma readsBack_valueEntry (m : OrderedMap String UserId) (e : String × UserId)
    (h : (encodeValue e).length < UInt64.size) :
    ReadsBack (valueEntry m) (encodeValue e) (Text.IsShort e.1) (m.insert e.1 e.2) := by
  have htext : (Utf8.encode e.1).length < UInt64.size := by
    refine lt_of_le_of_lt ?_ h
    rw [encodeValue, encodeString, List.length_append, List.length_append]
    omega
  exact ((readsBack_string htext).bind ((readsBack_vli e.2).bind_pure (m.insert e.1))).congr
    (by simp)

/-- A key with its values is read back into a map, the values into those of the
key. -/
lemma readsBack_keyEntry (m : AttributeMap) (e : String × OrderedMap String UserId)
    (h : (encodeKey e).length < UInt64.size) :
    ReadsBack (keyEntry m) (encodeKey e) (AttributeMap.IsShortEntry e) (m.join e) := by
  rw [encodeKey, List.append_assoc] at h ⊢
  rw [List.length_append] at h
  have htext : (Utf8.encode e.1).length < UInt64.size := by
    rw [encodeString, List.length_append] at h
    omega
  have hvalues := ReadsBack.counted (l := e.2.entries) (lt_of_le_of_lt (Nat.le_add_left _ _) h)
    leastEntry_le_encodeValue readsBack_valueEntry ((m.get? e.1).getD ∅)
  exact (readsBack_string htext).bind (hvalues.bind_pure (m.insert e.1))

/-- An attribute map is read back if all its texts are short. -/
lemma readsBack_attributes {m : AttributeMap} (h : (encodeAttributes m).length < UInt64.size) :
    ReadsBack attributes (encodeAttributes m) m.IsShort m := by
  have hentries := ReadsBack.counted h leastEntry_le_encodeKey readsBack_keyEntry ∅
  simp only [← keyEntries_eq_times] at hentries
  rwa [m.foldl_join_entries] at hentries

/-! ### Records -/

/-- A record is read back with just the fields that are written. -/
lemma readsBack_record {fields : FieldSet} {r : ImageRecord}
    (h : (encodeRecord fields r).length < UInt64.size) :
    ReadsBack (record fields) (encodeRecord fields r) (r.IsShort fields) (r.padded fields) := by
  have htags (ht : fields.tags = true) : (encodeTags (r.tags.getD ∅)).length < UInt64.size := by
    refine lt_of_le_of_lt ?_ h
    rw [encodeRecord, if_pos ht]
    simp only [List.length_append]
    omega
  have hattributes (ha : fields.attributes = true) :
      (encodeAttributes (r.attributes.getD ∅)).length < UInt64.size := by
    refine lt_of_le_of_lt ?_ h
    rw [encodeRecord, if_pos ha]
    simp only [List.length_append]
    omega
  have hall := (ReadsBack.when fields.ids fun _ => .of_reads reads_id (r.id.getD 0)).bind
    (f := fun id => when fields.hashes hash >>= fun hash => when fields.tags tags >>= fun tags =>
      when fields.attributes attributes >>= fun attributes =>
        pure (ImageRecord.mk id hash tags attributes))
    ((ReadsBack.when fields.hashes fun _ => .of_reads reads_hash (r.hash.getD .zero)).bind
      ((ReadsBack.when fields.tags fun ht => readsBack_tags (htags ht)).bind
        ((ReadsBack.when fields.attributes fun ha =>
          readsBack_attributes (hattributes ha)).bind_pure (ImageRecord.mk _ _ _))))
  simp only [encodeRecord, List.append_assoc]
  exact hall.congr (by simp [ImageRecord.IsShort])

end Read

end Wire

end TagCatalog
