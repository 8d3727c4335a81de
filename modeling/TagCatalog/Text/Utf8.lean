import TagCatalog.Bytes.LittleEndian

/-!
Text as bytes, and where a byte string stops being text.

* `Utf8.encode`, `Utf8.decode?`: the bytes of a text and back; `Utf8.decode?_eq_some_iff` says
  that only the bytes of a text are read, and as that text.
* `Utf8.fault`: the first place at which a byte string is not text.
* `Utf8.lossy`: the text with one replacement character for each such place.
-/

namespace TagCatalog.Utf8

/-- The bytes of a text. -/
def encode (s : String) : Bytes := s.toByteArray.data.toList

/-- The text with these bytes. -/
def decode? (bytes : Bytes) : Option String := String.fromUTF8? ⟨bytes.toArray⟩

/-- A text is read back from its bytes. -/
theorem decode?_encode (s : String) : decode? (encode s) = some s := by
  simp [decode?, encode, String.fromUTF8?, String.fromUTF8, s.isValidUTF8]

/-- Only the bytes of a text are read, and as that text. -/
theorem decode?_eq_some_iff {bytes : Bytes} {s : String} :
    decode? bytes = some s ↔ bytes = encode s := by
  constructor
  · intro h
    simp only [decode?, String.fromUTF8?] at h
    split at h
    · cases h
      simp [encode, String.fromUTF8]
    · contradiction
  · rintro rfl
    exact decode?_encode s

/-- The bytes of a text are as many as its size tells. -/
theorem length_encode (s : String) : (encode s).length = s.utf8ByteSize := by
  simp [encode]

/-! ### Sequences -/

/-- What stands at the front of a byte string. -/
inductive Lead
  /-- The bytes of one character. -/
  | character (c : Char) (length : Nat)
  /-- So many bytes that begin a character and do not go on as one. -/
  | broken (length : Nat)
  /-- The beginning of a character, cut by the end of the bytes. -/
  | cut
  deriving Repr, DecidableEq

/-- The two bytes after which a lead byte wants, and how many bytes it announces in all: the range
of the second byte is narrowed so that no character is spelled too long, is a surrogate, or lies
beyond the last code point. -/
def announced (b : UInt8) : Option (Nat × UInt8 × UInt8) :=
  if b < 0x80 then some (1, 0, 0)
  else if 0xC2 ≤ b ∧ b ≤ 0xDF then some (2, 0x80, 0xBF)
  else if b = 0xE0 then some (3, 0xA0, 0xBF)
  else if b = 0xED then some (3, 0x80, 0x9F)
  else if 0xE1 ≤ b ∧ b ≤ 0xEF then some (3, 0x80, 0xBF)
  else if b = 0xF0 then some (4, 0x90, 0xBF)
  else if 0xF1 ≤ b ∧ b ≤ 0xF3 then some (4, 0x80, 0xBF)
  else if b = 0xF4 then some (4, 0x80, 0x8F)
  else none

/-- Whether a byte continues a character. -/
def isContinuation (b : UInt8) : Bool := 0x80 ≤ b && b ≤ 0xBF

/-- Six more bits of a code point. -/
def extend (code : Nat) (b : UInt8) : Nat := code * 64 + b.toNat % 64

/-- The third and later bytes of a character of which `seen` bytes are read and `left` are to
come. -/
def continuation (code seen : Nat) : (left : Nat) → Bytes → Lead
  | 0, _ => .character (Char.ofNat code) seen
  | _ + 1, [] => .cut
  | left + 1, b :: rest =>
    if isContinuation b then continuation (extend code b) (seen + 1) left rest
    else .broken seen

/-- What stands at the front of `b :: rest`. -/
def lead (b : UInt8) (rest : Bytes) : Lead :=
  match announced b with
  | none => .broken 1
  | some (1, _, _) => .character (Char.ofNat b.toNat) 1
  | some (length, low, high) =>
    match rest with
    | [] => .cut
    | c :: rest =>
      if low ≤ c ∧ c ≤ high then
        continuation (extend (b.toNat % 1 <<< (7 - length)) c) 2 (length - 2) rest
      else .broken 1

/-! ### Faults -/

/-- The first place at which bytes stop being text. -/
structure Fault where
  /-- The number of bytes before it, all of them text. -/
  validUpTo : Nat
  /-- The number of bytes at fault; absent when the bytes end inside a character. -/
  length? : Option Nat
  deriving Repr, DecidableEq

/-- The wording of a fault. -/
def Fault.message (f : Fault) : String :=
  match f.length? with
  | some n =>
    "invalid utf-8 sequence of " ++ toString n ++ " bytes from index " ++ toString f.validUpTo
  | none => "incomplete utf-8 byte sequence from index " ++ toString f.validUpTo

/-- The first fault after `before` bytes of text; `skip` bytes still belong to the character before
them. Bytes without fault are reported as cut at their end. -/
def faultFrom (before skip : Nat) : Bytes → Fault
  | [] => ⟨before, none⟩
  | b :: rest =>
    if skip = 0 then
      match lead b rest with
      | .character _ length => faultFrom (before + 1) (length - 1) rest
      | .broken length => ⟨before, some length⟩
      | .cut => ⟨before, none⟩
    else faultFrom (before + 1) (skip - 1) rest

/-- The first place at which bytes stop being text. -/
def fault (bytes : Bytes) : Fault := faultFrom 0 0 bytes

/-- The replacement character, shown for bytes that are no text. -/
def replacement : Char := '\uFFFD'

/-- The characters shown for bytes of which the first `skip` are already shown, after those of
`shown`, which is reversed. -/
def lossyFrom (shown : List Char) (skip : Nat) : Bytes → List Char
  | [] => shown.reverse
  | b :: rest =>
    if skip = 0 then
      match lead b rest with
      | .character c length => lossyFrom (c :: shown) (length - 1) rest
      | .broken length => lossyFrom (replacement :: shown) (length - 1) rest
      | .cut => (replacement :: shown).reverse
    else lossyFrom shown (skip - 1) rest

/-- The text of the bytes, with one replacement character for each faulty sequence. -/
def lossy (bytes : Bytes) : String := String.ofList (lossyFrom [] 0 bytes)

end TagCatalog.Utf8
