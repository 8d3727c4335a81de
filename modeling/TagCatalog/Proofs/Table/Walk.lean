import Mathlib.Tactic
import TagCatalog.Proofs.Table.Checks
import TagCatalog.Proofs.Table.Entries
import TagCatalog.Table.Response

/-!
A verified table response is safe to walk.

* `Check.items`, `View.memberOf`: the check of a member, and the walk over it.
* `ensures_tag`, `ensures_keyedValue`, `ensures_image`, `ensures_items`: what each check
  lets pass is read inside the response.
* `View.WalksInside`: a walk over a response that reads nothing else, and ends with a
  document or with a kind of member that is not known.
* `ensures_response`: a response that passes has the parts that the walk asks for.
* `decodeResponse_of_verified`: the walk, and what may be wrong with entries that are
  there.
-/

namespace TagCatalog.Table

open Wire

namespace Check

variable {α : Type} {b : Buffer}

/-! ### Tables of each kind -/

/-- A tag is read inside. -/
lemma ensures_tag (b : Buffer) (p : Nat) :
    Ensures (tag b p) fun _ => View.Inside b (View.tag · p) := by
  refine (ensures_table b p).bind fun t ht => ?_
  refine (ensures_ifField ht (by decide) (ensures_text b)).bind fun _ hname => ?_
  refine (ensures_ifField ht (by decide) (ensures_word b)).imp fun _ huser => ?_
  obtain ⟨name, hname⟩ := hname
  obtain ⟨user, huser⟩ := huser
  refine ⟨⟨p, name.getD "", user.getD 0⟩, fun rest => ?_⟩
  simp only [View.tag, hname, huser]
  rfl

/-- An attribute value is read inside. -/
lemma ensures_keyedValue (b : Buffer) (p : Nat) :
    Ensures (keyedValue b p) fun _ => View.Inside b (View.keyedValue · p) := by
  refine (ensures_table b p).bind fun t ht => ?_
  refine (ensures_ifField ht (by decide) (ensures_text b)).bind fun _ hkey => ?_
  refine (ensures_ifField ht (by decide) (ensures_text b)).bind fun _ hvalue => ?_
  refine (ensures_ifField ht (by decide) (ensures_word b)).imp fun _ huser => ?_
  obtain ⟨key, hkey⟩ := hkey
  obtain ⟨value, hvalue⟩ := hvalue
  obtain ⟨user, huser⟩ := huser
  refine ⟨⟨p, key.getD "", value.getD "", user.getD 0⟩, fun rest => ?_⟩
  simp only [View.keyedValue, hkey, hvalue, huser]
  rfl

/-- An image is read inside. -/
lemma ensures_image (b : Buffer) (p : Nat) :
    Ensures (image b p) fun _ => View.Inside b (View.image · p) := by
  have hhash (q : Nat) :
      Ensures (range b q ImageHash.size) fun _ => View.Inside b (View.hash · q) :=
    (ensures_range b q ImageHash.size).imp fun _ => View.inside_hash
  refine (ensures_table b p).bind fun t ht => ?_
  refine (ensures_ifField ht (by decide) (ensures_word b)).bind fun _ hid => ?_
  refine (ensures_ifField ht (by decide) hhash).bind fun _ hhash => ?_
  refine (ensures_ifField ht (by decide) (ensures_tableList (ensures_tag b))).bind fun _ htags => ?_
  refine (ensures_ifField ht (by decide) (ensures_tableList (ensures_keyedValue b))).imp
    fun _ hattributes => ?_
  obtain ⟨id, hid⟩ := hid
  obtain ⟨hash, hhash⟩ := hhash
  obtain ⟨tags, htags⟩ := htags
  obtain ⟨attributes, hattributes⟩ := hattributes
  refine ⟨⟨id, hash, tags, attributes⟩, fun rest => ?_⟩
  simp only [View.image, hid, hhash, htags, hattributes]
  rfl

/-! ### Members -/

/-- The check of a member at `p`: a table with a list of items, which are checked where a distance
leads to. -/
def items (b : Buffer) (step : Step) (name : String) (check : Nat → Check Unit) (p : Nat) :
    Check Unit :=
  within step do
    let t ← table b (← follow b p)
    ifField b t Slot.items name fun q => do check (← follow b q)

@[simp] lemma member_ids (b : Buffer) (p : Nat) :
    member b MemberKind.ids.toNat p =
      items b (.member "IdResponse" p) "ids" (fun q => Functor.discard (list b 4 .u32 q)) p := rfl

@[simp] lemma member_hashes (b : Buffer) (p : Nat) :
    member b MemberKind.hashes.toNat p = items b (.member "HashResponse" p) "hashes"
      (fun q => Functor.discard (list b ImageHash.size .u8 q)) p := rfl

@[simp] lemma member_images (b : Buffer) (p : Nat) :
    member b MemberKind.images.toNat p =
      items b (.member "ImageResponse" p) "images" (tableList b (image b)) p := rfl

/-- A member of another kind is not looked into. -/
lemma member_of_ne (b : Buffer) (kind : UInt8) (p : Nat) (hids : kind ≠ MemberKind.ids)
    (hhashes : kind ≠ MemberKind.hashes) (himages : kind ≠ MemberKind.images) :
    member b kind.toNat p = pure () := by
  rw [member]
  dsimp only
  rw [if_neg (hids ∘ UInt8.toNat_inj.1), if_neg (hhashes ∘ UInt8.toNat_inj.1),
    if_neg (himages ∘ UInt8.toNat_inj.1)]

/-- The items of a member are read inside if what is checked of them is. -/
lemma ensures_items {check : Nat → Check Unit} {read : Buffer → Nat → View.Reads (List α)}
    (h : ∀ q, Ensures (follow b q >>= check) fun _ => View.Inside b (read · q)) (step : Step)
    (name : String) (p : Nat) :
    Ensures (items b step name check p) fun _ =>
      View.Inside b fun b => View.items b (read b) p := by
  refine Ensures.within ?_ step
  refine (ensures_follow b p).bind fun q hq => ?_
  refine (ensures_table b q).bind fun t ht => ?_
  refine (ensures_ifField ht (by decide) h).imp fun _ hitems => ?_
  obtain ⟨l, hl⟩ := hitems
  refine ⟨l.getD [], fun rest => ?_⟩
  simp only [View.items, hq, bind, Except.bind, hl]
  rfl

/-- The items that a member of a known kind has are read inside. -/
lemma ensures_member (b : Buffer) (kind : UInt8) (p : Nat) :
    Ensures (member b kind.toNat p) fun _ =>
      (kind = MemberKind.ids →
        View.Inside b fun b => View.items b (View.list b 4 (View.word b)) p) ∧
      (kind = MemberKind.hashes →
        View.Inside b fun b => View.items b (View.list b ImageHash.size (View.hash b)) p) ∧
      (kind = MemberKind.images →
        View.Inside b fun b => View.items b (View.tables b (View.image b)) p) := by
  by_cases hids : kind = MemberKind.ids
  · subst hids
    refine (ensures_items (ensures_elements fun _ => View.inside_word) _ _ p).imp fun _ h => ?_
    exact ⟨fun _ => h, nofun, nofun⟩
  by_cases hhashes : kind = MemberKind.hashes
  · subst hhashes
    refine (ensures_items (ensures_elements fun _ => View.inside_hash) _ _ p).imp fun _ h => ?_
    exact ⟨nofun, fun _ => h, nofun⟩
  by_cases himages : kind = MemberKind.images
  · subst himages
    refine (ensures_items (ensures_tableList (ensures_image b)) _ _ p).imp fun _ h => ?_
    exact ⟨nofun, nofun, fun _ => h⟩
  · rw [member_of_ne b kind p hids hhashes himages]
    exact ensures_pure ⟨fun h => absurd h hids, fun h => absurd h hhashes,
      fun h => absurd h himages⟩

end Check

/-! ### Responses -/

/-- A kind that is none of those known is greater than these. -/
lemma MemberKind.images_lt {kind : UInt8} (h0 : kind ≠ nothing) (h1 : kind ≠ ids)
    (h2 : kind ≠ hashes) (h3 : kind ≠ images) : images < kind := by
  simp only [nothing, ids, hashes, images] at *
  grind

/-- A walk over a response that reads bytes of it only, and ends with a document or with
a kind of member that is not known. -/
def View.WalksInside (b : Buffer) : Prop :=
  ∃ x, (∀ rest, document (b ++ rest) = x) ∧
    ((∃ d, x = .ok d) ∨
      ∃ kind, MemberKind.images < kind ∧ x = .error (.header (.unknownKind kind)))

/-- The walk over the member of a response, by its kind. -/
def View.memberOf (b : Buffer) (kind : UInt8) (p : Nat) : Reads (Document Nat) :=
  if kind = MemberKind.nothing then .ok .nothing
  else if kind = MemberKind.ids then Document.ids <$> items b (list b 4 (word b)) p
  else if kind = MemberKind.hashes then
    Document.hashes <$> items b (list b ImageHash.size (hash b)) p
  else if kind = MemberKind.images then Document.images <$> items b (tables b (image b)) p
  else .error (.header (.unknownKind kind))

@[simp] lemma View.memberOf_nothing (b : Buffer) (p : Nat) :
    memberOf b MemberKind.nothing p = .ok .nothing := rfl

@[simp] lemma View.memberOf_ids (b : Buffer) (p : Nat) :
    memberOf b MemberKind.ids p = Document.ids <$> items b (list b 4 (word b)) p := rfl

@[simp] lemma View.memberOf_hashes (b : Buffer) (p : Nat) :
    memberOf b MemberKind.hashes p =
      Document.hashes <$> items b (list b ImageHash.size (hash b)) p := rfl

@[simp] lemma View.memberOf_images (b : Buffer) (p : Nat) :
    memberOf b MemberKind.images p = Document.images <$> items b (tables b (image b)) p := rfl

/-- The walk over a response whose member is there goes by the kind of the member. -/
lemma View.document_eq {b : Buffer} {root p : Nat} {kind : UInt8} (hroot : follow b 0 = .ok root)
    (hkind : optional b root Slot.memberKind (fun p => UInt8.ofNat <$> uint b p 1)
      = .ok (some kind))
    (hmember : field b root Slot.member = .ok (some p)) :
    document b = memberOf b kind p := by
  simp only [document, hroot, hkind, hmember, bind, Except.bind, Option.getD_some]
  rfl

/-- The walk over a response that has no member ends at once. -/
lemma View.document_eq_nothing {b : Buffer} {root : Nat} (hroot : follow b 0 = .ok root)
    (hkind : field b root Slot.memberKind = .ok none) : document b = .ok .nothing := by
  simp only [document, optional, hroot, hkind, bind, Except.bind]
  rfl

/-- A number of one byte is a kind. -/
lemma View.exists_kind {b : Buffer} {q n : Nat} (h : b.uint? q 1 = some n) :
    ∃ kind : UInt8, n = kind.toNat :=
  ⟨UInt8.ofNat n, (UInt8.toNat_ofNat_of_lt' (Buffer.uint?_lt h)).symm⟩

/-- The kind of a member is the number that is read for it. -/
lemma View.memberKind_eq {b : Buffer} {root q : Nat} {kind : UInt8}
    (hfield : field b root Slot.memberKind = .ok (some q)) (hread : uint b q 1 = .ok kind.toNat) :
    optional b root Slot.memberKind (fun p => UInt8.ofNat <$> uint b p 1) = .ok (some kind) := by
  simp only [optional, hfield, bind, Except.bind, hread]
  exact congrArg (fun k => Except.ok (some k)) UInt8.ofNat_toNat

/-- The walk reads inside if it does so in a member of each of the known kinds. -/
lemma View.walksInside {b : Buffer} {root p : Nat} {kind : UInt8}
    (hroot : ∀ rest, follow (b ++ rest) 0 = .ok root)
    (hkind : ∀ rest, optional (b ++ rest) root Slot.memberKind
      (fun p => UInt8.ofNat <$> uint (b ++ rest) p 1) = .ok (some kind))
    (hmember : ∀ rest, field (b ++ rest) root Slot.member = .ok (some p))
    (hids : kind = MemberKind.ids → Inside b fun b => items b (list b 4 (word b)) p)
    (hhashes : kind = MemberKind.hashes →
      Inside b fun b => items b (list b ImageHash.size (hash b)) p)
    (himages : kind = MemberKind.images → Inside b fun b => items b (tables b (image b)) p) :
    WalksInside b := by
  have hwalk (rest : Buffer) := document_eq (hroot rest) (hkind rest) (hmember rest)
  by_cases h0 : kind = MemberKind.nothing
  · subst h0
    refine ⟨.ok .nothing, fun rest => ?_, .inl ⟨_, rfl⟩⟩
    rw [hwalk, memberOf_nothing]
  by_cases h1 : kind = MemberKind.ids
  · subst h1
    obtain ⟨l, hl⟩ := hids rfl
    refine ⟨.ok (.ids l), fun rest => ?_, .inl ⟨_, rfl⟩⟩
    rw [hwalk, memberOf_ids]
    exact congrArg (Document.ids <$> ·) (hl rest)
  by_cases h2 : kind = MemberKind.hashes
  · subst h2
    obtain ⟨l, hl⟩ := hhashes rfl
    refine ⟨.ok (.hashes l), fun rest => ?_, .inl ⟨_, rfl⟩⟩
    rw [hwalk, memberOf_hashes]
    exact congrArg (Document.hashes <$> ·) (hl rest)
  by_cases h3 : kind = MemberKind.images
  · subst h3
    obtain ⟨l, hl⟩ := himages rfl
    refine ⟨.ok (.images l), fun rest => ?_, .inl ⟨_, rfl⟩⟩
    rw [hwalk, memberOf_images]
    exact congrArg (Document.images <$> ·) (hl rest)
  · refine ⟨_, fun rest => ?_, .inr ⟨kind, MemberKind.images_lt h0 h1 h2 h3, rfl⟩⟩
    rw [hwalk, memberOf, if_neg h0, if_neg h1, if_neg h2, if_neg h3]

/-- A response that passes has all that the walk reads. -/
lemma Check.ensures_response (b : Buffer) :
    Ensures (response b) fun _ => View.WalksInside b := by
  refine (ensures_follow b 0).bind fun root hroot => ?_
  refine (ensures_table b root).bind fun t ht => ?_
  refine (ensures_field ht (by decide)).bind fun data hdata => ?_
  refine (ensures_field ht (by decide)).bind fun kindAt hkindAt => ?_
  cases data with
  | none =>
    cases kindAt with
    | none =>
      exact ensures_pure ⟨.ok .nothing,
        fun rest => View.document_eq_nothing (hroot rest) (hkindAt rest), .inl ⟨_, rfl⟩⟩
    | some q => exact ensures_throw _
  | some p =>
    cases kindAt with
    | none => exact ensures_throw _
    | some q =>
      refine (ensures_scalar b .u8 q).bind fun n hn => ?_
      obtain ⟨kind, rfl⟩ := View.exists_kind hn.1
      refine ((ensures_member b kind p).within _).imp fun _ h => ?_
      obtain ⟨hids, hhashes, himages⟩ := h
      exact View.walksInside hroot
        (fun rest => View.memberKind_eq (hkindAt rest) (View.uint_append hn.1 rest)) hdata hids
        hhashes himages

/-- The walk over a verified response stays inside. -/
lemma walksInside_of_verify {b : Buffer} (h : verify b = .ok ()) : View.WalksInside b := by
  cases hcheck : Check.response b ⟨0, 0⟩ with
  | error e =>
    rw [verify, StateT.run, hcheck] at h
    cases h
  | ok r => exact Check.ensures_response b _ _ _ hcheck

/-- **A verified response is safe to walk.** The checks and the reader find their way on
their own, and yet, of a response that passes the checks:

* each read lies inside the response, so that no bytes behind it are of any account;
* decoding comes down to the walk, apart from the limit on the whole response;
* the walk ends with a document, in which each text is one, unless the kind of the
  member is not known; a member of a known kind is there;
* nothing is wrong with a document but that an image has a tag that the dictionary does
  not know, or a key or a value that is too long. -/
theorem decodeResponse_of_verified (d : TagDictionary) {response : Bytes}
    (h : verify response.toArray = .ok ()) :
    let b : Buffer := response.toArray
    (∀ rest, View.document (b ++ rest) = View.document b) ∧
    (decodeResponse d response = do
      checkSize response.length
      (← View.document b).toResult d) ∧
    ((∃ document, View.document b = .ok document ∧
        ∀ e, document.toResult d = .error e →
          ∃ images, document = .images images ∧ ∃ i ∈ images, i.Flaw d e) ∨
      ∃ kind, MemberKind.images < kind ∧
        View.document b = .error (.header (.unknownKind kind))) := by
  intro b
  obtain ⟨x, hwalk, hx⟩ := walksInside_of_verify h
  have hself : View.document b = x := by simpa using hwalk #[]
  refine ⟨fun rest => (hwalk rest).trans hself.symm, ?_, ?_⟩
  · rw [decodeResponse]
    simp only [h]
    rfl
  · rw [hself]
    rcases hx with ⟨document, hdocument⟩ | hkind
    · exact .inl ⟨document, hdocument, fun e => Document.exists_flaw_of_toResult⟩
    · exact .inr hkind

/-- An image with an id and a tag is read whatever follows. -/
theorem decodeResponse_of_verified_oneTag :
    let response := Document.encode (.images [⟨some 7, none, some [⟨(), "cat", 3⟩], none⟩])
    verify response.toArray = .ok () ∧
      ∀ rest, View.document (response.toArray ++ rest)
        = .ok (.images [⟨some 7, none, some [⟨88, "cat", 3⟩], none⟩]) := by
  intro response
  have hverify : verify response.toArray = .ok () := by decide +kernel
  obtain ⟨hinside, -⟩ := decodeResponse_of_verified ∅ hverify
  refine ⟨hverify, fun rest => (hinside rest).trans ?_⟩
  decide +kernel

end TagCatalog.Table
