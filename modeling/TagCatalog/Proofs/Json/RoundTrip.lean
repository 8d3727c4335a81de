import Mathlib.Data.List.TakeWhile
import Mathlib.Tactic
import TagCatalog.Proofs.Json.Tokens

/-!
JSON values are read back from their texts.

* `Json.IsReadable`: a value without unreadable parts.
* `Json.ReadsAs`, `Json.ItemsReadAs`, `Json.MembersReadAs`: what a text is read as, whatever
  follows it; and so for the items of a list and the members of an object up to the closing bracket.
* `IsReadable.compact`, `IsReadable.pretty`: both texts of a value are read as the value.
* `IsReadable.parse_compact`, `IsReadable.parse_pretty`: and so they are as whole texts.

Every part of a value takes a step of the reader and at least one byte, so a text that is shorter
than the steps that are left never uses them up. Blanks stand in front of values, of keys and of
closing brackets only, where the reader passes over them.
-/

namespace TagCatalog.Json

/-- Items are read back one by one if each is. -/
lemma mapM_map_eq_some {α β : Type} {read : β → Option α} {write : α → β} {l : List α}
    (h : ∀ a ∈ l, read (write a) = some a) : (l.map write).mapM read = some l := by
  induction l with
  | nil => rfl
  | cons a l ih =>
    rw [List.forall_mem_cons] at h
    rw [List.map_cons, List.mapM_cons, h.1, ih h.2]
    rfl

/-! ### Readable values -/

/-- A value without unreadable parts. -/
inductive IsReadable : Json → Prop
  | null : IsReadable .null
  | bool (b : Bool) : IsReadable (.bool b)
  | int (n : Int) : IsReadable (.int n)
  | text (s : String) : IsReadable (.text s)
  | list {items : List Json} (h : ∀ j ∈ items, IsReadable j) : IsReadable (.list items)
  | object {members : List (String × Json)} (h : ∀ m ∈ members, IsReadable m.2) :
    IsReadable (.object members)

attribute [simp] IsReadable.null IsReadable.bool IsReadable.int IsReadable.text

namespace IsReadable

@[simp] lemma list_iff {items : List Json} :
    IsReadable (.list items) ↔ ∀ j ∈ items, j.IsReadable :=
  ⟨fun h => by cases h with | list h => exact h, .list⟩

@[simp] lemma object_iff {members : List (String × Json)} :
    IsReadable (.object members) ↔ ∀ m ∈ members, m.2.IsReadable :=
  ⟨fun h => by cases h with | object h => exact h, .object⟩

@[simp] lemma ofNat (n : Nat) : (Json.ofNat n).IsReadable := .int n

/-- A value that may be absent is readable if it is whenever it is there. -/
lemma ofOption {α : Type} {toJson : α → Json} {o : Option α}
    (h : ∀ a, (toJson a).IsReadable) : (Json.ofOption toJson o).IsReadable := by
  cases o with
  | none => exact .null
  | some a => exact h a

end IsReadable

/-! ### Blanks -/

/-- There are only blanks. -/
def Blank (bytes : Bytes) : Prop := ∀ b ∈ bytes, isBlank b = true

lemma blank_nil : Blank [] := by simp [Blank]

lemma blank_singleton {b : UInt8} (h : isBlank b = true) : Blank [b] := by simpa [Blank] using h

lemma skipBlanks_append {blanks : Bytes} (h : Blank blanks) (bytes : Bytes) :
    skipBlanks (blanks ++ bytes) = skipBlanks bytes := List.dropWhile_append_of_pos h

lemma skipBlanks_cons {b : UInt8} (h : isBlank b = false) (bytes : Bytes) :
    skipBlanks (b :: bytes) = b :: bytes := by
  rw [skipBlanks, List.dropWhile_cons_of_neg (by simp [h])]

/-- A blank does not go on with a number. -/
lemma not_number_of_isBlank {b : UInt8} (h : isBlank b = true) :
    isDigit b = false ∧ b ≠ 0x2E ∧ b ≠ 0x65 ∧ b ≠ 0x45 := by
  simp only [isBlank, Bool.or_eq_true, decide_eq_true_iff] at h
  obtain ((rfl | rfl) | rfl) | rfl := h <;> decide

lemma Blank.delimits {blanks : Bytes} (h : Blank blanks) : Delimits blanks := fun b hb =>
  not_number_of_isBlank (h b (List.mem_of_mem_head? hb))

lemma delimits_of_blank {blanks rest : Bytes} {b : UInt8} (h : Blank blanks)
    (hb : isDigit b = false ∧ b ≠ 0x2E ∧ b ≠ 0x65 ∧ b ≠ 0x45) :
    Delimits (blanks ++ b :: rest) := by
  cases blanks with
  | nil => exact delimits_cons rest hb
  | cons c blanks => exact delimits_cons _ (not_number_of_isBlank (h c (List.mem_cons_self ..)))

/-! ### Texts that are read -/

/-- A text is read as a value, whatever follows it that does not go on with a number. -/
def ReadsAs (text : Bytes) (j : Json) : Prop :=
  ∀ fuel rest, text.length < fuel → Delimits rest → value? fuel (text ++ rest) = some (j, rest)

/-- A text that begins in a list is read as the items up to the closing bracket. -/
def ItemsReadAs (text : Bytes) (items : List Json) : Prop :=
  ∀ fuel rest, text.length < fuel → items? fuel (text ++ rest) = some (items, rest)

/-- A text that begins in an object is read as the members up to the closing brace. -/
def MembersReadAs (text : Bytes) (members : List (String × Json)) : Prop :=
  ∀ fuel rest, text.length < fuel →
    members? fuel (text ++ rest) = some (members.map fun m => (some m.1, m.2), rest)

section

variable {text texts blanks : Bytes} {j : Json} {items : List Json} {key : String}
  {members : List (String × Json)}

/-- There is a step for the value itself. -/
lemma ReadsAs.of_succ (h : ∀ fuel rest, text.length ≤ fuel → Delimits rest →
    value? (fuel + 1) (text ++ rest) = some (j, rest)) : ReadsAs text j := by
  intro fuel rest hfuel hrest
  cases fuel with
  | zero => omega
  | succ fuel => exact h fuel rest (Nat.le_of_lt_succ hfuel) hrest

/-- A value is read after blanks. -/
lemma ReadsAs.blank (h : ReadsAs text j) (hblanks : Blank blanks) :
    ReadsAs (blanks ++ text) j := by
  intro fuel rest hfuel hrest
  rw [List.length_append] at hfuel
  have hread := h fuel rest (by omega) hrest
  cases fuel with
  | zero => omega
  | succ fuel =>
    rw [value?] at hread ⊢
    rwa [List.append_assoc, skipBlanks_append hblanks]

/-! ### Items of lists -/

/-- No value begins with the closing bracket of a list. -/
lemma value?_of_bracket {fuel : Nat} {bytes rest : Bytes}
    (h : skipBlanks bytes = 0x5D :: rest) : value? fuel bytes = none := by
  cases fuel with
  | zero => rw [value?]
  | succ fuel =>
    rw [value?, h]
    rfl

/-- The last item is followed by the closing bracket. -/
lemma ItemsReadAs.one (h : ReadsAs text j) (hblanks : Blank blanks) :
    ItemsReadAs (text ++ (blanks ++ [0x5D])) [j] := by
  intro fuel rest hfuel
  rw [List.length_append] at hfuel
  cases fuel with
  | zero => omega
  | succ fuel =>
    have hvalue := h fuel (blanks ++ 0x5D :: rest) (by simp at hfuel; omega)
      (delimits_of_blank hblanks (by decide))
    rw [items?, List.append_assoc, List.append_assoc, List.singleton_append, hvalue]
    simp only [Option.bind_eq_bind, Option.bind_some]
    rw [skipBlanks_append hblanks, skipBlanks_cons (by decide)]
    rfl

/-- Another item is followed by a comma. -/
lemma ItemsReadAs.more (h : ReadsAs text j) (hitems : ItemsReadAs texts items) :
    ItemsReadAs (text ++ 0x2C :: texts) (j :: items) := by
  intro fuel rest hfuel
  rw [List.length_append, List.length_cons] at hfuel
  cases fuel with
  | zero => omega
  | succ fuel =>
    have hvalue := h fuel (0x2C :: (texts ++ rest)) (by omega) (delimits_cons _ (by decide))
    rw [items?, List.append_assoc, List.cons_append, hvalue]
    simp only [Option.bind_eq_bind, Option.bind_some]
    rw [skipBlanks_cons (by decide)]
    change (items? fuel (texts ++ rest)).bind (fun r => some (j :: r.1, r.2)) = _
    rw [hitems fuel rest (by omega), Option.bind_some]

/-- A list with items. -/
lemma ItemsReadAs.list (h : ItemsReadAs text items) : ReadsAs (0x5B :: text) (.list items) := by
  refine .of_succ fun fuel rest hfuel _ => ?_
  rw [List.length_cons] at hfuel
  have hitems := h fuel rest (by omega)
  rw [value?, List.cons_append, skipBlanks_cons (by decide)]
  dsimp only
  rw [if_neg (by decide), if_pos rfl]
  split
  next rest' hbracket =>
    -- items begin with a value, which no bracket does
    obtain ⟨fuel, rfl⟩ : ∃ n, fuel = n + 1 := Nat.exists_eq_add_one.2 (by omega)
    rw [items?, value?_of_bracket hbracket] at hitems
    cases hitems
  next =>
    rw [hitems]
    rfl

/-- The list without items. -/
lemma readsAs_nil : ReadsAs [0x5B, 0x5D] (.list []) := .of_succ fun _ _ _ _ => rfl

/-! ### Members of objects -/

/-- A member is read from its key on. -/
lemma members?_of_key (key : String) {fuel : Nat} {rest rest' : Bytes} (hblanks : Blank blanks)
    (hvalue : value? fuel rest = some (j, rest')) :
    members? (fuel + 1) (blanks ++ 0x22 :: (closing key ++ 0x3A :: rest)) =
      match skipBlanks rest' with
      | 0x2C :: tail => (members? fuel tail).bind fun r => some ((some key, j) :: r.1, r.2)
      | 0x7D :: tail => some ([(some key, j)], tail)
      | _ => none := by
  rw [members?, skipBlanks_append hblanks, skipBlanks_cons (by decide)]
  change (string? (closing key ++ 0x3A :: rest)).bind _ = _
  rw [string?_closing, Option.bind_some]
  dsimp only
  rw [skipBlanks_cons (by decide)]
  change (value? fuel rest).bind _ = _
  rw [hvalue]
  rfl

/-- The last member is followed by the closing brace. -/
lemma MembersReadAs.one {blanks' : Bytes} (h : ReadsAs text j) (hblanks : Blank blanks)
    (hblanks' : Blank blanks') :
    MembersReadAs (blanks ++ 0x22 :: (closing key ++ 0x3A :: (text ++ (blanks' ++ [0x7D]))))
      [(key, j)] := by
  intro fuel rest hfuel
  simp only [List.length_append, List.length_cons, List.length_nil] at hfuel
  cases fuel with
  | zero => omega
  | succ fuel =>
    have hvalue := h fuel (blanks' ++ 0x7D :: rest) (by omega)
      (delimits_of_blank hblanks' (by decide))
    have hmember := members?_of_key key hblanks hvalue
    rw [skipBlanks_append hblanks', skipBlanks_cons (by decide)] at hmember
    simpa using hmember

/-- Another member is followed by a comma. -/
lemma MembersReadAs.more (h : ReadsAs text j) (hblanks : Blank blanks)
    (hmembers : MembersReadAs texts members) :
    MembersReadAs (blanks ++ 0x22 :: (closing key ++ 0x3A :: (text ++ 0x2C :: texts)))
      ((key, j) :: members) := by
  intro fuel rest hfuel
  simp only [List.length_append, List.length_cons] at hfuel
  cases fuel with
  | zero => omega
  | succ fuel =>
    have hvalue := h fuel (0x2C :: (texts ++ rest)) (by omega) (delimits_cons _ (by decide))
    have hmember := members?_of_key key hblanks hvalue
    rw [skipBlanks_cons (by decide)] at hmember
    change _ = (members? fuel (texts ++ rest)).bind _ at hmember
    rw [hmembers fuel rest (by omega), Option.bind_some] at hmember
    simpa using hmember

/-- The object with members all of whose keys are texts. -/
lemma ofMembers_some (members : List (String × Json)) :
    ofMembers (members.map fun m => (some m.1, m.2)) = .object members := by
  have hall : (members.map fun m => (some m.1, m.2)).mapM (fun m => m.1.map (·, m.2)) =
      some members := mapM_map_eq_some fun _ _ => rfl
  rw [ofMembers, hall]

/-- An object with members. -/
lemma MembersReadAs.object (h : MembersReadAs text members) :
    ReadsAs (0x7B :: text) (.object members) := by
  refine .of_succ fun fuel rest hfuel _ => ?_
  rw [List.length_cons] at hfuel
  have hmembers := h fuel rest (by omega)
  rw [value?, List.cons_append, skipBlanks_cons (by decide)]
  dsimp only
  rw [if_neg (by decide), if_neg (by decide), if_pos rfl]
  split
  next rest' hbrace =>
    -- members begin with a key
    obtain ⟨fuel, rfl⟩ : ∃ n, fuel = n + 1 := Nat.exists_eq_add_one.2 (by omega)
    rw [members?, hbrace] at hmembers
    cases hmembers
  next =>
    rw [hmembers]
    exact congrArg (fun j => some (j, rest)) (ofMembers_some members)

/-- The object without members. -/
lemma readsAs_empty : ReadsAs [0x7B, 0x7D] (.object []) := .of_succ fun _ _ _ _ => rfl

/-! ### Single values -/

lemma readsAs_null : ReadsAs [0x6E, 0x75, 0x6C, 0x6C] .null := .of_succ fun _ _ _ _ => rfl

lemma readsAs_true : ReadsAs [0x74, 0x72, 0x75, 0x65] (.bool true) := .of_succ fun _ _ _ _ => rfl

lemma readsAs_false : ReadsAs [0x66, 0x61, 0x6C, 0x73, 0x65] (.bool false) := .of_succ fun _ _ _ _ => rfl

lemma readsAs_quote (s : String) : ReadsAs (Utf8.encode (quote s)) (.text s) := by
  refine .of_succ fun fuel rest _ _ => ?_
  rw [encode_quote, value?, List.cons_append, skipBlanks_cons (by decide)]
  dsimp only
  rw [if_pos rfl, string?_closing]
  rfl

/-- A digit begins a number. -/
lemma value?_of_digit {fuel : Nat} {b : UInt8} (hb : isDigit b = true) (bytes : Bytes) :
    value? (fuel + 1) (b :: bytes) = number? false (b :: bytes) := by
  have hne (c : UInt8) (hc : isDigit c = false) : b ≠ c := by
    rintro rfl
    rw [hb] at hc
    cases hc
  have hblank : isBlank b = false := by
    simp [isBlank, hne 0x20 rfl, hne 0x0A rfl, hne 0x0D rfl, hne 0x09 rfl]
  rw [value?, skipBlanks_cons hblank]
  dsimp only
  rw [if_neg (hne 0x22 rfl), if_neg (hne 0x5B rfl), if_neg (hne 0x7B rfl), if_neg (hne 0x2D rfl),
    if_pos hb]

lemma readsAs_int (n : Int) : ReadsAs (Utf8.encode (toString n)) (.int n) := by
  refine .of_succ fun fuel rest _ hrest => ?_
  cases n with
  | ofNat n =>
    have htext : Utf8.encode (toString (Int.ofNat n)) = digits n := encode_toString_nat n
    have hnumber := number?_digits false n hrest (by simp)
    obtain ⟨b, l, hdigits⟩ := List.exists_cons_of_ne_nil (digits_ne_nil n)
    have hb := isDigit_of_mem_digits b (by rw [hdigits]; exact List.mem_cons_self ..)
    rw [htext, hdigits, List.cons_append, value?_of_digit hb]
    rw [hdigits] at hnumber
    exact hnumber
  | negSucc n =>
    have htext : Utf8.encode (toString (Int.negSucc n)) = 0x2D :: digits (n + 1) := by
      change Utf8.encode ("-" ++ toString (n + 1)) = _
      rw [Utf8.encode_append, encode_toString_nat]
      rfl
    rw [htext, value?, List.cons_append, skipBlanks_cons (by decide)]
    dsimp only
    rw [if_neg (by decide), if_neg (by decide), if_neg (by decide), if_pos rfl,
      number?_digits true (n + 1) hrest (by simp)]
    rfl

/-! ### Compact texts -/

lemma itemsReadAs_compact (h : ∀ j ∈ items, ReadsAs (Utf8.encode j.compact) j)
    (hne : items ≠ []) : ItemsReadAs (Utf8.encode (compactItems items) ++ [0x5D]) items := by
  induction items with
  | nil => exact absurd rfl hne
  | cons j items ih =>
    rw [List.forall_mem_cons] at h
    cases items with
    | nil =>
      rw [compactItems]
      exact .one h.1 blank_nil
    | cons j' items =>
      have htext : Utf8.encode (compactItems (j :: j' :: items)) ++ [0x5D] =
          Utf8.encode j.compact ++
            0x2C :: (Utf8.encode (compactItems (j' :: items)) ++ [0x5D]) := by
        simp only [compactItems, Utf8.encode_append, List.append_assoc]
        -- the byte of a comma or a bracket is found by evaluation
        rfl
      rw [htext]
      exact .more h.1 (ih h.2 (by simp))

lemma membersReadAs_compact (h : ∀ m ∈ members, ReadsAs (Utf8.encode m.2.compact) m.2)
    (hne : members ≠ []) :
    MembersReadAs (Utf8.encode (compactMembers members) ++ [0x7D]) members := by
  induction members with
  | nil => exact absurd rfl hne
  | cons m members ih =>
    obtain ⟨key, j⟩ := m
    rw [List.forall_mem_cons] at h
    cases members with
    | nil =>
      have htext : Utf8.encode (compactMembers [(key, j)]) ++ [0x7D] =
          [] ++ 0x22 :: (closing key ++ 0x3A :: (Utf8.encode j.compact ++ ([] ++ [0x7D]))) := by
        simp only [compactMembers, Utf8.encode_append, encode_quote, List.append_assoc]
        rfl
      rw [htext]
      exact .one h.1 blank_nil blank_nil
    | cons m' members =>
      have htext : Utf8.encode (compactMembers ((key, j) :: m' :: members)) ++ [0x7D] =
          [] ++ 0x22 :: (closing key ++ 0x3A :: (Utf8.encode j.compact ++
            0x2C :: (Utf8.encode (compactMembers (m' :: members)) ++ [0x7D]))) := by
        simp only [compactMembers, Utf8.encode_append, encode_quote, List.append_assoc]
        rfl
      rw [htext]
      exact .more h.1 blank_nil (ih h.2 (by simp))

/-- The compact text of a value is read as the value. -/
theorem IsReadable.readsAs_compact (h : j.IsReadable) : ReadsAs (Utf8.encode j.compact) j := by
  induction h with
  | null => exact readsAs_null
  | bool b =>
    cases b with
    | true => exact readsAs_true
    | false => exact readsAs_false
  | int n => exact readsAs_int n
  | text s => exact readsAs_quote s
  | @list items _ ih =>
    obtain rfl | hne := eq_or_ne items []
    · exact readsAs_nil
    · have htext : Utf8.encode (compact (.list items)) =
          0x5B :: (Utf8.encode (compactItems items) ++ [0x5D]) := by
        simp only [compact, Utf8.encode_append, List.append_assoc]
        rfl
      rw [htext]
      exact (itemsReadAs_compact ih hne).list
  | @object members _ ih =>
    obtain rfl | hne := eq_or_ne members []
    · exact readsAs_empty
    · have htext : Utf8.encode (compact (.object members)) =
          0x7B :: (Utf8.encode (compactMembers members) ++ [0x7D]) := by
        simp only [compact, Utf8.encode_append, List.append_assoc]
        rfl
      rw [htext]
      exact (membersReadAs_compact ih hne).object

/-! ### Indented texts -/

lemma encode_newline (level : Nat) :
    Utf8.encode (newline level) = 0x0A :: List.replicate (2 * level) 0x20 := by
  have hblanks (n : Nat) : Utf8.encode ("".pushn ' ' n) = List.replicate n 0x20 := by
    rw [String.pushn_eq_repeat_push]
    induction n with
    | zero => rfl
    | succ n ih =>
      rw [Nat.repeat, ← String.append_singleton, Utf8.encode_append, ih, List.replicate_succ']
      rfl
  rw [newline, Utf8.encode_append, hblanks]
  rfl

lemma blank_newline (level : Nat) : Blank (Utf8.encode (newline level)) := by
  intro b hb
  rw [encode_newline, List.mem_cons] at hb
  obtain rfl | hb := hb
  · rfl
  · obtain rfl := List.eq_of_mem_replicate hb
    rfl

lemma itemsReadAs_pretty (level : Nat) (hblanks : Blank blanks) (h : ReadsAs text j)
    (hitems : ∀ j ∈ items, ReadsAs (Utf8.encode (prettyAt level j)) j) :
    ItemsReadAs (text ++ (Utf8.encode (prettyItems level items) ++ (blanks ++ [0x5D])))
      (j :: items) := by
  induction items generalizing text j with
  | nil =>
    rw [prettyItems]
    exact .one h hblanks
  | cons j' items ih =>
    rw [List.forall_mem_cons] at hitems
    have hrest := ih (hitems.1.blank (blank_newline level)) hitems.2
    have htext : Utf8.encode (prettyItems level (j' :: items)) ++ (blanks ++ [0x5D]) =
        0x2C :: (Utf8.encode (newline level) ++ Utf8.encode (prettyAt level j') ++
          (Utf8.encode (prettyItems level items) ++ (blanks ++ [0x5D]))) := by
      simp only [prettyItems, Utf8.encode_append, List.append_assoc]
      rfl
    rw [htext]
    exact .more h hrest

lemma membersReadAs_pretty {blanks' : Bytes} (level : Nat) (key : String)
    (hblanks : Blank blanks) (hblanks' : Blank blanks') (h : ReadsAs text j)
    (hmembers : ∀ m ∈ members, ReadsAs (Utf8.encode (prettyAt level m.2)) m.2) :
    MembersReadAs (blanks ++ 0x22 :: (closing key ++ 0x3A :: (text ++
      (Utf8.encode (prettyMembers level members) ++ (blanks' ++ [0x7D])))))
      ((key, j) :: members) := by
  induction members generalizing text j key blanks with
  | nil =>
    rw [prettyMembers]
    exact .one h hblanks hblanks'
  | cons m members ih =>
    obtain ⟨key', j'⟩ := m
    rw [List.forall_mem_cons] at hmembers
    have hspace : Blank [0x20] := blank_singleton rfl
    have hrest := ih key' (blank_newline level) (hmembers.1.blank hspace) hmembers.2
    have htext : Utf8.encode (prettyMembers level ((key', j') :: members)) ++ (blanks' ++ [0x7D]) =
        0x2C :: (Utf8.encode (newline level) ++ 0x22 :: (closing key' ++ 0x3A ::
          ([0x20] ++ Utf8.encode (prettyAt level j') ++
            (Utf8.encode (prettyMembers level members) ++ (blanks' ++ [0x7D]))))) := by
      simp only [prettyMembers, Utf8.encode_append, encode_quote, List.append_assoc]
      rfl
    rw [htext]
    exact .more h hblanks hrest

/-- The indented text of a value is read as the value, at any level. -/
theorem IsReadable.readsAs_pretty (h : j.IsReadable) (level : Nat) :
    ReadsAs (Utf8.encode (prettyAt level j)) j := by
  induction h generalizing level with
  | null => exact readsAs_null
  | bool b =>
    cases b with
    | true => exact readsAs_true
    | false => exact readsAs_false
  | int n => exact readsAs_int n
  | text s => exact readsAs_quote s
  | @list items _ ih =>
    cases items with
    | nil => exact readsAs_nil
    | cons j items =>
      rw [List.forall_mem_cons] at ih
      have htext : Utf8.encode (prettyAt level (.list (j :: items))) =
          0x5B :: (Utf8.encode (newline (level + 1)) ++ Utf8.encode (prettyAt (level + 1) j) ++
            (Utf8.encode (prettyItems (level + 1) items) ++
              (Utf8.encode (newline level) ++ [0x5D]))) := by
        simp only [prettyAt, Utf8.encode_append, List.append_assoc]
        rfl
      rw [htext]
      exact (itemsReadAs_pretty (level + 1) (blank_newline level)
        ((ih.1 (level + 1)).blank (blank_newline (level + 1)))
        fun j hj => ih.2 j hj (level + 1)).list
  | @object members _ ih =>
    cases members with
    | nil => exact readsAs_empty
    | cons m members =>
      obtain ⟨key, j⟩ := m
      rw [List.forall_mem_cons] at ih
      have hspace : Blank [0x20] := blank_singleton rfl
      have htext : Utf8.encode (prettyAt level (.object ((key, j) :: members))) =
          0x7B :: (Utf8.encode (newline (level + 1)) ++ 0x22 :: (closing key ++ 0x3A ::
            ([0x20] ++ Utf8.encode (prettyAt (level + 1) j) ++
              (Utf8.encode (prettyMembers (level + 1) members) ++
                (Utf8.encode (newline level) ++ [0x7D]))))) := by
        simp only [prettyAt, Utf8.encode_append, encode_quote, List.append_assoc]
        rfl
      rw [htext]
      exact (membersReadAs_pretty (level + 1) key (blank_newline (level + 1)) (blank_newline level)
        ((ih.1 (level + 1)).blank hspace) fun m hm => ih.2 m hm (level + 1)).object

/-! ### Whole texts -/

/-- A text is read as a whole, with blanks after it. -/
lemma ReadsAs.parse (h : ReadsAs text j) (hblanks : Blank blanks) :
    Json.parse (text ++ blanks) = some j := by
  have hskip : skipBlanks blanks = [] := List.dropWhile_eq_nil_iff.2 hblanks
  rw [Json.parse, h _ blanks (by simp) hblanks.delimits]
  simp [hskip]

end

end TagCatalog.Json
