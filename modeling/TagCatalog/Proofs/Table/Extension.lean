import Mathlib.Tactic
import TagCatalog.Proofs.Table.Walk

/-!
Bytes behind a table response are of no account.

Everything in a response is reached by distances from its front, and a check asks only that
something is there, never that nothing follows. So what passes the checks passes them with more
bytes behind it.

* `Check.Le`: a check that lets pass all that another lets pass, with the same answer and at
  the same expense; `Le.bind` and `Le.within` follow it through the checks of a part.
* `le_scalar`, `le_table`, `le_list`, `le_text`: each of the smallest checks, with more bytes
  behind.
* `le_tag`, `le_keyedValue`, `le_image`, `le_member`, `le_response`: the parts of a response.
* `decodeResponse_append`, `trailingBytes_of_no_account`: what is decoded, and what a cut
  response may still say.
-/

namespace TagCatalog.Table

open Wire

variable {α β : Type}

namespace Check

/-- The second check lets pass all that the first one does, with the same answer and at the
same expense. -/
def Le (c c' : Check α) : Prop := ∀ s r, c s = .ok r → c' s = .ok r

namespace Le

/-- A check lets pass what it lets pass. -/
lemma refl (c : Check α) : Le c c := fun _ _ h => h

/-- A check that lets nothing pass is below any other. -/
lemma of_throw (e : DecodeError) (c : Check α) : Le (throw e) c := by
  rintro s r ⟨⟩

variable {c c' : Check α}

/-- One check after another, the second chosen by the answer of the first. -/
lemma bind {f f' : α → Check β} {P : α → Prop} (h : Le c c') (hP : Ensures c P)
    (hf : ∀ a, P a → Le (f a) (f' a)) : Le (c >>= f) (c' >>= f') := by
  intro s r hr
  rw [bind_apply] at hr ⊢
  cases hc : c s with
  | error e =>
    rw [hc] at hr
    cases hr
  | ok p =>
    obtain ⟨a, s'⟩ := p
    rw [hc] at hr
    rw [h s (a, s') hc]
    exact hf a (hP s a s' hc) s' r hr

/-- One check after another, the second whatever the answer of the first. -/
lemma seq {f f' : α → Check β} (h : Le c c') (hf : ∀ a, Le (f a) (f' a)) :
    Le (c >>= f) (c' >>= f') :=
  h.bind (ensures_trivial c) fun a _ => hf a

/-- The answer of a check is dropped. -/
lemma discard (h : Le c c') : Le (Functor.discard c) (Functor.discard c') :=
  h.seq fun _ => refl (pure PUnit.unit)

/-- The way to a part is told with a fault only. -/
lemma within {c c' : Check Unit} (h : Le c c') (step : Step) :
    Le (within step c) (within step c') := by
  intro s r hr
  rw [Check.within] at hr ⊢
  cases hc : c s with
  | error e =>
    rw [hc] at hr
    cases hr
  | ok p =>
    rw [hc] at hr
    rw [h s p hc]
    exact hr

end Le

variable (b rest : Buffer)

/-! ### The smallest checks -/

/-- Bytes that are there are there with more behind them. -/
lemma le_range (start size : Nat) : Le (range b start size) (range (b ++ rest) start size) := by
  intro s r hr
  have hthere := ensures_range b start size s r.1 r.2 hr
  have hthere' : ¬ (b ++ rest).size < start + size := by
    rw [Array.size_append]
    omega
  rw [range, if_neg (Nat.not_lt.2 hthere)] at hr
  rw [range, if_neg hthere']
  exact hr

/-- A number that is read is read with more bytes behind. -/
lemma le_scalar (type : Scalar) (p : Nat) : Le (scalar b type p) (scalar (b ++ rest) type p) := by
  refine (Le.refl (aligned type p)).seq fun _ => (le_range b rest p type.size).seq fun _ => ?_
  cases hn : b.uint? p type.size with
  | none => exact Le.of_throw _ _
  | some n =>
    rw [Buffer.uint?_append hn]
    exact Le.refl _

/-- A distance is followed with more bytes behind. -/
lemma le_follow (p : Nat) : Le (follow b p) (follow (b ++ rest) p) :=
  (le_scalar b rest .u32 p).seq fun _ => Le.refl _

/-- A table is found with more bytes behind. The check compares the place of the index with the
end of the response, which only moves away. -/
lemma le_table (p : Nat) : Le (table b p) (table (b ++ rest) p) := by
  refine (le_scalar b rest .i32 p).seq fun n => ?_
  dsimp only
  by_cases hout : (p : Int) - signed32 n < 0 ∨ (b.size : Int) ≤ (p : Int) - signed32 n
  · rw [if_pos hout]
    exact Le.of_throw _ _
  · have hout' : ¬ ((p : Int) - signed32 n < 0 ∨
        ((b ++ rest).size : Int) ≤ (p : Int) - signed32 n) := by
      rw [Array.size_append]
      omega
    rw [if_neg hout, if_neg hout']
    refine (le_scalar b rest .u16 _).seq fun length => ?_
    refine (Le.refl (aligned .u16 _)).seq fun _ => ?_
    exact (le_range b rest _ length).seq fun _ => Le.refl _

/-- A field is found, or is not there, with more bytes behind. -/
lemma le_field (t : Place) (slot : Slot) : Le (field b t slot) (field (b ++ rest) t slot) := by
  rw [field, field]
  split
  next => exact (le_scalar b rest .u16 _).seq fun _ => Le.refl _
  next => exact Le.refl _

/-- A field is checked with more bytes behind if its contents are. -/
lemma le_ifField (t : Place) (slot : Slot) (name : String) {check check' : Nat → Check Unit}
    (h : ∀ p, Le (check p) (check' p)) :
    Le (ifField b t slot name check) (ifField (b ++ rest) t slot name check') := by
  refine (le_field b rest t slot).seq fun f => ?_
  cases f with
  | none => exact Le.refl _
  | some p => exact (h p).within _

/-! ### What distances lead to -/

/-- A list is found with more bytes behind. -/
lemma le_list (size : Nat) (type : Scalar) (p : Nat) :
    Le (list b size type p) (list (b ++ rest) size type p) := by
  refine (le_scalar b rest .u32 p).seq fun n => ?_
  refine (Le.refl (aligned type (p + 4))).seq fun _ => ?_
  exact (le_range b rest (p + 4) (n * size)).seq fun _ => Le.refl _

/-- A text is a text with more bytes behind: its bytes and the zero after them are there. -/
lemma le_text (p : Nat) : Le (text b p) (text (b ++ rest) p) := by
  refine (le_list b rest 1 .u8 p).bind (ensures_list b 1 .u8 p) fun l hl => ?_
  obtain ⟨start, n⟩ := l
  have hstop : start + n ≤ b.size := by simpa using hl.2.1
  dsimp only
  rw [Buffer.slice_append hstop]
  cases hs : Utf8.decode? (b.slice start (start + n)) with
  | none => exact Le.of_throw _ _
  | some s =>
    dsimp only
    by_cases hzero : b[start + n]? = some 0
    · obtain ⟨hlt, -⟩ := Array.getElem?_eq_some_iff.1 hzero
      have hzero' : (b ++ rest)[start + n]? = some 0 := by
        rw [Array.getElem?_append_left hlt, hzero]
      rw [if_pos hzero, if_pos hzero']
      exact Le.refl _
    · rw [if_neg hzero]
      exact Le.of_throw _ _

/-- A text that a distance leads to. -/
lemma le_follow_text (p : Nat) :
    Le (follow b p >>= text b) (follow (b ++ rest) p >>= text (b ++ rest)) :=
  (le_follow b rest p).seq (le_text b rest)

/-- A number that nothing is asked of but that it is there. -/
lemma le_word (p : Nat) :
    Le (Functor.discard (scalar b .u32 p)) (Functor.discard (scalar (b ++ rest) .u32 p)) :=
  (le_scalar b rest .u32 p).discard

section

variable {check check' : Nat → Check Unit} (h : ∀ p, Le (check p) (check' p))

include h

/-- Tables are checked one after another with more bytes behind. -/
lemma le_tables (index p n : Nat) :
    Le (tables b check index p n) (tables (b ++ rest) check' index p n) := by
  induction n generalizing index p with
  | zero => exact Le.refl _
  | succ n ih =>
    refine (Le.within ?_ _).seq fun _ => ih (index + 1) (p + 4)
    exact (le_follow b rest p).seq h

/-- A list of tables that a distance leads to. -/
lemma le_follow_tableList (p : Nat) :
    Le (follow b p >>= tableList b check) (follow (b ++ rest) p >>= tableList (b ++ rest) check') :=
  (le_follow b rest p).seq fun q =>
    (le_list b rest 4 .u32 q).seq fun l => le_tables b rest h 0 l.1 l.2

end

/-! ### The parts of a response -/

/-- A tag passes with more bytes behind. -/
lemma le_tag (p : Nat) : Le (tag b p) (tag (b ++ rest) p) := by
  refine (le_table b rest p).seq fun t => ?_
  refine (le_ifField b rest t _ _ (le_follow_text b rest)).seq fun _ => ?_
  exact le_ifField b rest t _ _ (le_word b rest)

/-- An attribute value passes with more bytes behind. -/
lemma le_keyedValue (p : Nat) : Le (keyedValue b p) (keyedValue (b ++ rest) p) := by
  refine (le_table b rest p).seq fun t => ?_
  refine (le_ifField b rest t _ _ (le_follow_text b rest)).seq fun _ => ?_
  refine (le_ifField b rest t _ _ (le_follow_text b rest)).seq fun _ => ?_
  exact le_ifField b rest t _ _ (le_word b rest)

/-- An image passes with more bytes behind. -/
lemma le_image (p : Nat) : Le (image b p) (image (b ++ rest) p) := by
  refine (le_table b rest p).seq fun t => ?_
  refine (le_ifField b rest t _ _ (le_word b rest)).seq fun _ => ?_
  refine (le_ifField b rest t _ _ fun q => le_range b rest q ImageHash.size).seq fun _ => ?_
  refine (le_ifField b rest t _ _ (le_follow_tableList b rest (le_tag b rest))).seq fun _ => ?_
  exact le_ifField b rest t _ _ (le_follow_tableList b rest (le_keyedValue b rest))

/-- The items of a member pass with more bytes behind if what they lead to does. -/
lemma le_items {check check' : Nat → Check Unit} (step : Step) (name : String) (p : Nat)
    (h : ∀ q, Le (follow b q >>= check) (follow (b ++ rest) q >>= check')) :
    Le (items b step name check p) (items (b ++ rest) step name check' p) := by
  refine Le.within ?_ step
  refine (le_follow b rest p).seq fun q => (le_table b rest q).seq fun t => ?_
  exact le_ifField b rest t _ _ h

/-- A member passes with more bytes behind, whatever its kind. -/
lemma le_member (kind p : Nat) : Le (member b kind p) (member (b ++ rest) kind p) := by
  have helements (size : Nat) (type : Scalar) (q : Nat) :
      Le (follow b q >>= fun q => Functor.discard (list b size type q))
        (follow (b ++ rest) q >>= fun q => Functor.discard (list (b ++ rest) size type q)) :=
    (le_follow b rest q).seq fun q => (le_list b rest size type q).discard
  rw [member, member]
  dsimp only
  split_ifs
  · exact le_items b rest _ _ p (helements 4 .u32)
  · exact le_items b rest _ _ p (helements ImageHash.size .u8)
  · exact le_items b rest _ _ p (le_follow_tableList b rest (le_image b rest))
  · exact Le.refl _

/-- A response passes with more bytes behind. -/
lemma le_response : Le (response b) (response (b ++ rest)) := by
  refine (le_follow b rest 0).seq fun root => (le_table b rest root).seq fun t => ?_
  refine (le_field b rest t _).seq fun data => (le_field b rest t _).seq fun kind => ?_
  cases data with
  | none =>
    cases kind with
    | none => exact Le.refl _
    | some q => exact Le.of_throw _ _
  | some p =>
    cases kind with
    | none => exact Le.of_throw _ _
    | some q =>
      exact (le_scalar b rest .u8 q).seq fun n => (le_member b rest n p).within _

end Check

/-! ### Responses -/

/-- A response is verified if its check passes from an empty budget. -/
lemma verify_eq_ok_iff {b : Buffer} :
    verify b = .ok () ↔ ∃ s, Check.response b ⟨0, 0⟩ = .ok ((), s) := by
  rw [verify, StateT.run]
  cases Check.response b ⟨0, 0⟩ with
  | error e => exact iff_of_false (by rintro ⟨⟩) (by rintro ⟨_, ⟨⟩⟩)
  | ok r => exact ⟨fun _ => ⟨r.2, rfl⟩, fun _ => rfl⟩

/-- A verified response is verified with more bytes behind. -/
lemma verify_append {b : Buffer} (h : verify b = .ok ()) (rest : Buffer) :
    verify (b ++ rest) = .ok () := by
  obtain ⟨s, hs⟩ := verify_eq_ok_iff.1 h
  exact verify_eq_ok_iff.2 ⟨s, Check.le_response b rest _ _ hs⟩

/-- What it takes for a response to be decoded. -/
lemma decodeResponse_eq_ok_iff {d : TagDictionary} {response : Bytes} {r : SearchResult} :
    decodeResponse d response = .ok r ↔ response.length ≤ maxResponseSize ∧
      verify response.toArray = .ok () ∧
      ∃ document, View.document response.toArray = .ok document ∧ document.toResult d = .ok r := by
  rw [decodeResponse, checkSize]
  by_cases hsize : maxResponseSize < response.length
  · simp [hsize, bind, Except.bind]
  · rw [if_neg hsize]
    cases hverify : verify response.toArray with
    | error e => simp [hverify, bind, Except.bind]
    | ok u =>
      cases hdocument : View.document response.toArray with
      | error e => simp [hverify, hdocument, bind, Except.bind]
      | ok document => simp [hverify, hdocument, bind, Except.bind, Nat.not_lt.1 hsize]

/-- A response that is decoded is decoded to the same with more bytes behind. -/
lemma decodeResponse_append {d : TagDictionary} {p q : Bytes} {r : SearchResult}
    (h : decodeResponse d p = .ok r) (hsize : (p ++ q).length ≤ maxResponseSize) :
    decodeResponse d (p ++ q) = .ok r := by
  obtain ⟨-, hverify, document, hdocument, hresult⟩ := decodeResponse_eq_ok_iff.1 h
  obtain ⟨x, hwalk, -⟩ := walksInside_of_verify hverify
  have hself : x = .ok document := by
    rw [← hdocument, ← hwalk #[], Array.append_empty]
  refine decodeResponse_eq_ok_iff.2 ⟨hsize, ?_, document, ?_, hresult⟩
  · rw [← List.append_toArray]
    exact verify_append hverify _
  · rw [← List.append_toArray, hwalk, hself]

/-- **Bytes behind a table response never change it.** As long as the whole is not too long, a
response is decoded to the same result whatever bytes follow it. So a cut response is never
misread: a front part of a response that is decoded is refused, or is decoded to just the same
result, never to fewer or to other items. -/
theorem trailingBytes_of_no_account (d : TagDictionary) :
    (∀ p q r, decodeResponse d p = .ok r → (p ++ q).length ≤ maxResponseSize →
      decodeResponse d (p ++ q) = .ok r) ∧
    ∀ b r, decodeResponse d b = .ok r → ∀ p, p <+: b →
      (∃ e, decodeResponse d p = .error e) ∨ decodeResponse d p = .ok r := by
  refine ⟨fun p q r h hsize => decodeResponse_append h hsize, ?_⟩
  rintro b r h p ⟨q, rfl⟩
  cases hp : decodeResponse d p with
  | error e => exact .inl ⟨e, rfl⟩
  | ok r' =>
    -- the uncut response says what its front part says, so there is only one result
    have hwhole := decodeResponse_append hp (decodeResponse_eq_ok_iff.1 h).1
    exact .inr (hwhole.symm.trans h)

/-- Three bytes behind an image with a tag are of no account, and its first 40 bytes are not
misread. -/
theorem trailingBytes_of_no_account_oneTag :
    let d : TagDictionary := .ofList [(5, "cat")]
    let p := Document.encode (.images [⟨some 7, none, some [⟨(), "cat", 3⟩], none⟩])
    let r : SearchResult := .images [⟨some 7, none, some (.ofList [(5, 3)]), none⟩]
    decodeResponse d p = .ok r ∧ decodeResponse d (p ++ [1, 2, 3]) = .ok r ∧
      ((∃ e, decodeResponse d (p.take 40) = .error e) ∨ decodeResponse d (p.take 40) = .ok r) := by
  intro d p r
  have hread : decodeResponse d p = .ok r := by decide +kernel
  obtain ⟨hbehind, hcut⟩ := trailingBytes_of_no_account d
  exact ⟨hread, hbehind p [1, 2, 3] r hread (by decide +kernel),
    hcut p r hread (p.take 40) (List.take_prefix 40 p)⟩

end TagCatalog.Table
