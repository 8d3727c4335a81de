import Mathlib.Tactic
import TagCatalog.Table.Document

/-!
What may be wrong with a document whose bytes are all there.

Names are looked up and lengths are looked at entry by entry, and the first entry that
will not do ends the reading.

* `bind_eq_error_iff`, `exists_of_mapM_error`, `exists_of_foldlM_error`: where
  the error of several steps comes from.
* `bind_eq_ok_iff`, `mapM_eq_ok_iff`, `exists_mapM_eq_ok`: where their answer comes from.
* `ImageEntry.Flaw`: what may be wrong with an image;
  `Document.exists_flaw_of_toResult` says that nothing else is.
-/

namespace TagCatalog.Table

open Wire

variable {ε σ α β : Type}

/-! ### Where an error comes from -/

/-- Two steps fail as the first of them that does. -/
lemma bind_eq_error_iff {r : Except ε α} {f : α → Except ε β} {e : ε} :
    r >>= f = .error e ↔ r = .error e ∨ ∃ a, r = .ok a ∧ f a = .error e := by
  cases r with
  | error e' =>
    change Except.error e' = .error e ↔ _
    simp
  | ok a =>
    change f a = .error e ↔ _
    simp

/-- Steps that only answer fail as what they answer from. -/
lemma map_eq_error_iff {r : Except ε α} {g : α → β} {e : ε} :
    g <$> r = .error e ↔ r = .error e := by
  rw [map_eq_pure_bind, bind_eq_error_iff]
  refine or_iff_left ?_
  rintro ⟨a, -, ⟨⟩⟩

/-- A list of steps fails as one of them. -/
lemma exists_of_mapM_error {f : α → Except ε β} {l : List α} {e : ε}
    (h : l.mapM f = .error e) : ∃ a ∈ l, f a = .error e := by
  induction l with
  | nil => cases h
  | cons a l ih =>
    rw [List.mapM_cons, bind_eq_error_iff] at h
    rcases h with h | ⟨b, -, h⟩
    · exact ⟨a, List.mem_cons_self, h⟩
    · rcases bind_eq_error_iff.1 h with h | ⟨bs, -, ⟨⟩⟩
      obtain ⟨a', ha', h⟩ := ih h
      exact ⟨a', List.mem_cons_of_mem _ ha', h⟩

/-- Steps that hand on what they have made fail as one of them. -/
lemma exists_of_foldlM_error {f : σ → α → Except ε σ} {l : List α} {s : σ} {e : ε}
    (h : l.foldlM f s = .error e) : ∃ a ∈ l, ∃ s, f s a = .error e := by
  induction l generalizing s with
  | nil => cases h
  | cons a l ih =>
    rw [List.foldlM_cons, bind_eq_error_iff] at h
    rcases h with h | ⟨s', -, h⟩
    · exact ⟨a, List.mem_cons_self, s, h⟩
    · obtain ⟨a', ha', h⟩ := ih h
      exact ⟨a', List.mem_cons_of_mem _ ha', h⟩

/-- A step that is taken if there is something to take it on fails only then. -/
lemma exists_of_optionMapM_error {f : α → Except ε β} {o : Option α} {e : ε}
    (h : o.mapM f = .error e) : ∃ a, o = some a ∧ f a = .error e := by
  cases o with
  | none => cases h
  | some a => exact ⟨a, rfl, map_eq_error_iff.1 h⟩

/-! ### Where an answer comes from -/

/-- Two steps answer as the second answers what the first does. -/
lemma bind_eq_ok_iff {r : Except ε α} {f : α → Except ε β} {b : β} :
    r >>= f = .ok b ↔ ∃ a, r = .ok a ∧ f a = .ok b := by
  cases r with
  | error e =>
    change Except.error e = .ok b ↔ _
    simp
  | ok a =>
    change f a = .ok b ↔ _
    simp

/-- Steps that only answer do so as what they answer from. -/
lemma map_eq_ok_iff {r : Except ε α} {g : α → β} {b : β} :
    g <$> r = .ok b ↔ ∃ a, r = .ok a ∧ g a = b := by
  rw [map_eq_pure_bind, bind_eq_ok_iff]
  exact exists_congr fun a => and_congr_right fun _ => ⟨Except.ok.inj, congrArg Except.ok⟩

/-- A list of steps answers as each of them. -/
lemma mapM_eq_ok_iff {f : α → Except ε β} {l : List α} {l' : List β} :
    l.mapM f = .ok l' ↔ List.Forall₂ (fun a b => f a = .ok b) l l' := by
  induction l generalizing l' with
  | nil =>
    rw [List.mapM_nil, List.forall₂_nil_left_iff]
    exact ⟨fun h => (Except.ok.inj h).symm, fun h => congrArg Except.ok h.symm⟩
  | cons a l ih =>
    rw [List.mapM_cons, bind_eq_ok_iff, List.forall₂_cons_left_iff]
    constructor
    · rintro ⟨b, hb, h⟩
      obtain ⟨bs, hbs, ⟨⟩⟩ := bind_eq_ok_iff.1 h
      exact ⟨b, bs, hb, ih.1 hbs, rfl⟩
    · rintro ⟨b, bs, hb, hbs, rfl⟩
      exact ⟨b, hb, bind_eq_ok_iff.2 ⟨bs, ih.2 hbs, rfl⟩⟩

/-- A list of steps has as many answers as steps. -/
lemma length_eq_of_mapM {f : α → Except ε β} {l : List α} {l' : List β} (h : l.mapM f = .ok l') :
    l'.length = l.length :=
  (mapM_eq_ok_iff.1 h).length_eq.symm

/-- An answer of a list of steps is that of one of them. -/
lemma exists_of_mem_mapM {f : α → Except ε β} {l : List α} {l' : List β} (h : l.mapM f = .ok l')
    {b : β} (hb : b ∈ l') : ∃ a ∈ l, f a = .ok b := by
  rw [mapM_eq_ok_iff] at h
  induction h with
  | nil => cases hb
  | cons hab _ ih =>
    rcases List.mem_cons.1 hb with rfl | hb
    · exact ⟨_, List.mem_cons_self, hab⟩
    · obtain ⟨a, ha, hab⟩ := ih hb
      exact ⟨a, List.mem_cons_of_mem _ ha, hab⟩

/-- A step that is taken if there is something to take it on answers as it does. -/
lemma optionMapM_eq_ok_iff {f : α → Except ε β} {o : Option α} {o' : Option β} :
    o.mapM f = .ok o' ↔ Option.Rel (fun a b => f a = .ok b) o o' := by
  cases o with
  | none =>
    refine ⟨fun h => ?_, fun h => ?_⟩
    · cases h
      exact .none
    · cases h
      rfl
  | some a =>
    refine ⟨fun h => ?_, fun h => ?_⟩
    · obtain ⟨b, hb, ⟨⟩⟩ := bind_eq_ok_iff.1 h
      exact .some hb
    · cases h with
      | some hb => exact bind_eq_ok_iff.2 ⟨_, hb, rfl⟩

/-- A list of steps answers if each of them does. -/
lemma exists_mapM_eq_ok {f : α → Except ε β} {l : List α} (h : ∀ a ∈ l, ∃ b, f a = .ok b) :
    ∃ l', l.mapM f = .ok l' := by
  induction l with
  | nil => exact ⟨[], rfl⟩
  | cons a l ih =>
    obtain ⟨b, hb⟩ := h a (by simp)
    obtain ⟨l', hl'⟩ := ih fun c hc => h c (by simp [hc])
    exact ⟨b :: l', mapM_eq_ok_iff.2 (.cons hb (mapM_eq_ok_iff.1 hl'))⟩

/-- A step that is taken if there is something to take it on answers if it does. -/
lemma exists_optionMapM_eq_ok {f : α → Except ε β} {o : Option α}
    (h : ∀ a ∈ o, ∃ b, f a = .ok b) : ∃ o', o.mapM f = .ok o' := by
  cases o with
  | none => exact ⟨none, rfl⟩
  | some a =>
    obtain ⟨b, hb⟩ := h a rfl
    exact ⟨some b, optionMapM_eq_ok_iff.2 (.some hb)⟩

/-! ### Entries -/

/-- What may be wrong with an image, and with which of its entries: the name of a tag is
not in the dictionary, or the key or the text of an attribute value is too long. -/
inductive ImageEntry.Flaw (d : TagDictionary) (i : ImageEntry Nat) : DecodeError → Prop
  | unknownTag {tags : List (TagEntry Nat)} {t : TagEntry Nat} (htags : i.tags = some tags)
      (ht : t ∈ tags) (hname : d.id? t.name = none) :
      Flaw d i (.malformed t.place (.unknownTag t.name))
  | longString {attributes : List (AttributeEntry Nat)} {a : AttributeEntry Nat} {s : String}
      (hattributes : i.attributes = some attributes) (ha : a ∈ attributes)
      (hs : s = a.key ∨ s = a.value) (hlong : maxStringLength < s.utf8ByteSize) :
      Flaw d i (.malformed a.place (.longString s.utf8ByteSize))

variable {d : TagDictionary} {e : DecodeError}

/-- A tag fails for want of its name only. -/
lemma TagEntry.resolve_eq_error {t : TagEntry Nat} (h : t.resolve d = .error e) :
    d.id? t.name = none ∧ e = .malformed t.place (.unknownTag t.name) := by
  rw [resolve] at h
  split at h
  next hname => exact ⟨hname, (Except.error.inj h).symm⟩
  next => cases h

/-- A string fails for its length only. -/
lemma checkString_eq_error {place : Nat} {s : String} (h : checkString place s = .error e) :
    maxStringLength < s.utf8ByteSize ∧ e = .malformed place (.longString s.utf8ByteSize) := by
  rw [checkString] at h
  split at h
  next hlong => exact ⟨hlong, (Except.error.inj h).symm⟩
  next => cases h

/-- An attribute value fails for the length of its key or of its text only. -/
lemma AttributeEntry.check_eq_error {a : AttributeEntry Nat} (h : a.check = .error e) :
    ∃ s, (s = a.key ∨ s = a.value) ∧ maxStringLength < s.utf8ByteSize ∧
      e = .malformed a.place (.longString s.utf8ByteSize) := by
  rw [check, bind_eq_error_iff] at h
  rcases h with h | ⟨-, -, h⟩
  · exact ⟨a.key, .inl rfl, checkString_eq_error h⟩
  · exact ⟨a.value, .inr rfl, checkString_eq_error h⟩

/-- An image fails for its flaws only. -/
lemma ImageEntry.flaw_of_resolve {i : ImageEntry Nat} (h : i.resolve d = .error e) :
    i.Flaw d e := by
  rw [resolve, bind_eq_error_iff] at h
  rcases h with h | ⟨tags, -, h⟩
  · obtain ⟨l, hl, h⟩ := exists_of_optionMapM_error h
    rw [resolveTags, bind_eq_error_iff] at h
    rcases h with h | ⟨entries, -, ⟨⟩⟩
    obtain ⟨t, ht, h⟩ := exists_of_mapM_error h
    obtain ⟨hname, rfl⟩ := t.resolve_eq_error h
    exact .unknownTag hl ht hname
  · rcases bind_eq_error_iff.1 h with h | ⟨attributes, -, ⟨⟩⟩
    obtain ⟨l, hl, h⟩ := exists_of_optionMapM_error h
    obtain ⟨a, ha, m, h⟩ := exists_of_foldlM_error h
    rcases bind_eq_error_iff.1 h with h | ⟨-, -, ⟨⟩⟩
    obtain ⟨s, hs, hlong, rfl⟩ := a.check_eq_error h
    exact .longString hl ha hs hlong

/-- A document fails for a flaw of one of its images only. -/
lemma Document.exists_flaw_of_toResult {document : Document Nat}
    (h : document.toResult d = .error e) :
    ∃ images, document = .images images ∧ ∃ i ∈ images, i.Flaw d e := by
  cases document with
  | nothing => cases h
  | ids l => cases h
  | hashes l => cases h
  | images l =>
    rw [toResult, bind_eq_error_iff] at h
    rcases h with h | ⟨records, -, ⟨⟩⟩
    obtain ⟨i, hi, h⟩ := exists_of_mapM_error h
    exact ⟨l, rfl, i, hi, i.flaw_of_resolve h⟩

end TagCatalog.Table
