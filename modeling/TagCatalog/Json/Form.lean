import TagCatalog.Json.Scan

/-!
The form that the JSON of a type has, and what keeps a text from having it. Where a reader of values
tells only that a text is none of its type, the form tells why, and where.

* `Form.diagnose`: the first flaw of a text that is to have a form.
-/

namespace TagCatalog.Json

/-- The form of the JSON of a type. -/
inductive Form
  | text
  | truth
  /-- An integer from zero up to, but not including, a bound. -/
  | word (name : String) (bound : Nat)
  /-- A value, or `null` for none. -/
  | optional (form : Form)
  | list (form : Form)
  /-- One of a few words, alone or as the key of `null`. -/
  | choice (words : List String)
  /-- A structure with fields in order, of which some have to be given. -/
  | fields (name : String) (fields : List (String × Form)) (required : List String)

namespace Form

/-- An unsigned word of 32 bits. -/
def word32 : Form := word "u32" UInt32.size

/-- An unsigned word of 64 bits. -/
def word64 : Form := word "u64" UInt64.size

/-- What is wanted of a value. -/
def wanted : Form → String
  | text => "a string"
  | truth => "a boolean"
  | word name _ => name
  | optional form => form.wanted
  | list _ => "a sequence"
  | choice _ => "variant identifier"
  | fields name _ _ => "struct " ++ name

/-! ### Single values -/

/-- Ends with a flaw for a value of another type than the one wanted. A list or an object is not
read. -/
def otherType {α : Type} (wanted : String) : Scan α := do
  let found ← match ← Scan.peekToken with
    | none => Scan.fail .valueEnds
    | some b =>
      if b = 0x6E then (fun _ => "null") <$> Scan.null
      else if b = 0x74 then (fun _ => "boolean \x60true\x60") <$> Scan.yes
      else if b = 0x66 then (fun _ => "boolean \x60false\x60") <$> Scan.no
      else if b = 0x2D || isDigit b then Scan.Found.message <$> Scan.number
      else if b = 0x22 then (fun s => "string " ++ Text.quoted s) <$> Scan.string
      else if b = 0x5B then pure "sequence"
      else if b = 0x7B then pure "map"
      else Scan.failNext .noValue
  Scan.fail (.wrongType found wanted)

/-- Reads a string. -/
def string (wanted : String) : Scan String := do
  match ← Scan.peekToken with
  | some 0x22 => Scan.string
  | _ => otherType wanted

/-- Reads an integer from zero up to, but not including, a bound. -/
def natBelow (name : String) (bound : Nat) : Scan Unit := do
  let check (found : Scan.Found) : Scan Unit :=
    match found with
    | .whole n =>
      if 0 ≤ n ∧ n < bound then return else Scan.fail (.wrongValue found.message name)
    | .fraction _ _ => Scan.fail (.wrongType found.message name)
  match ← Scan.peekToken with
  | some b =>
    if b = 0x2D || isDigit b then check (← Scan.number) else otherType name
  | none => Scan.fail .valueEnds

/-- Reads a truth value. -/
def truthValue : Scan Unit := do
  match ← Scan.peekToken with
  | some 0x74 => Scan.yes
  | some 0x66 => Scan.no
  | _ => otherType truth.wanted

/-- Reads `null`. -/
def nothing : Scan Unit := do
  match ← Scan.peekToken with
  | some 0x6E => Scan.null
  | _ => otherType "unit"

/-- Reads the colon after a key. -/
def colon : Scan Unit := do
  match ← Scan.peekToken with
  | none => Scan.fail .objectEnds
  | some 0x3A => Scan.skip
  | _ => Scan.failNext .noColon

/-- Reads one of a few words. -/
def oneOf (words : List String) : Scan Unit := do
  let word : Scan Unit := do
    let s ← string (choice words).wanted
    if s ∈ words then return else Scan.fail (.unknownWord s words)
  match ← Scan.peekToken with
  | none => Scan.fail .valueEnds
  | some 0x22 => word
  | some 0x7B =>
    Scan.skip
    word
    colon
    nothing
    match ← Scan.peekToken with
    | none => Scan.fail .objectEnds
    | some 0x7D => Scan.skip
    | _ => Scan.fail .noValue
  | _ => Scan.failNext .noValue

/-! ### Lists and structures -/

/-- Whether another item of a list follows. Before each but the first a comma is read. -/
def hasItem (isFirst : Bool) : Scan Bool := do
  match ← Scan.peekToken with
  | none => Scan.fail .listEnds
  | some 0x5D => return false
  | some b =>
    if isFirst then return true
    else if b = 0x2C then
      Scan.skip
      match ← Scan.peekToken with
      | none => Scan.fail .valueEnds
      | some 0x5D => Scan.failNext .needlessComma
      | _ => return true
    else Scan.failNext .noListComma

/-- Whether another member of an object follows. Before each but the first a comma is read. -/
def hasMember (isFirst : Bool) : Scan Bool := do
  match ← Scan.peekToken with
  | none => Scan.fail .objectEnds
  | some 0x7D => return false
  | some b =>
    if isFirst then
      if b = 0x22 then return true else Scan.failNext .keyIsNoString
    else if b = 0x2C then
      Scan.skip
      match ← Scan.peekToken with
      | none => Scan.fail .valueEnds
      | some 0x22 => return true
      | some 0x7D => Scan.failNext .needlessComma
      | _ => Scan.failNext .keyIsNoString
    else Scan.failNext .noObjectComma

/-- Reads the end of a list that has no more items than wanted. -/
def endList : Scan Unit := do
  match ← Scan.peekToken with
  | none => Scan.fail .listEnds
  | some 0x5D => Scan.skip
  | some 0x2C =>
    Scan.skip
    match ← Scan.peekToken with
    | some 0x5D => Scan.failNext .needlessComma
    | _ => Scan.failNext .needlessText
  | _ => Scan.failNext .needlessText

/-- Ends with a flaw of a structure, which is told at what comes next, or at the end of the
structure if that comes next. -/
def failAfter {α : Type} (close : UInt8) (flaw : Flaw) : Scan α := do
  if (← Scan.peekToken) = some close then Scan.skip
  Scan.fail flaw

/-- What is wanted of a list that stands for a structure. -/
def wantedItems (name : String) (count : Nat) : String :=
  "struct " ++ name ++ " with " ++ toString count ++ " element" ++ if count = 1 then "" else "s"

mutual

/-- Reads a value of a form. No value has more parts than bytes, so `steps` above twice their number
never end a reading. -/
def value (form : Form) : (steps : Nat) → Scan Unit
  | 0 => return
  | steps + 1 => do
    match form with
    | text => discard (string text.wanted)
    | truth => truthValue
    | word name bound => natBelow name bound
    | optional form =>
      if (← Scan.peekToken) = some 0x6E then nothing else value form steps
    | choice words => oneOf words
    | list item =>
      match ← Scan.peekToken with
      | some 0x5B =>
        Scan.skip
        items item true steps
        endList
      | _ => otherType form.wanted
    | fields name known required =>
      match ← Scan.peekToken with
      | some 0x5B =>
        Scan.skip
        itemsInOrder name known.length required 0 known steps
        endList
      | some 0x7B =>
        Scan.skip
        members known required [] steps
      | _ => otherType form.wanted

/-- Reads the items of a list. -/
def items (form : Form) (isFirst : Bool) : (steps : Nat) → Scan Unit
  | 0 => return
  | steps + 1 => do
    if ← hasItem isFirst then
      value form steps
      items form false steps

/-- Reads the fields of a structure, of which `count` have been read, from a list. -/
def itemsInOrder (name : String) (total : Nat) (required : List String) (count : Nat)
    (left : List (String × Form)) : (steps : Nat) → Scan Unit
  | 0 => return
  | steps + 1 => do
    match left with
    | [] => return
    | (field, form) :: left =>
      if ← hasItem (count = 0) then value form steps
      else if field ∈ required then
        failAfter 0x5D (.wrongLength count (wantedItems name total))
      itemsInOrder name total required (count + 1) left steps

/-- Reads the members of an object that stands for a structure, and its end; `given` are the fields
that have been read. -/
def members (known : List (String × Form)) (required given : List String) :
    (steps : Nat) → Scan Unit
  | 0 => return
  | steps + 1 => do
    if ← hasMember given.isEmpty then
      let key ← Scan.string
      match known.lookup key with
      | none =>
        colon
        Scan.passValue
      | some form =>
        if key ∈ given then failAfter 0x7D (.repeatedField key)
        colon
        value form steps
      members known required (key :: given) steps
    else
      match required.find? (· ∉ given) with
      | some field => failAfter 0x7D (.missingField field)
      | none => Scan.skip

end

/-- The first flaw of a text that is to have a form. -/
def diagnose (form : Form) (bytes : Bytes) : Option Diagnosis :=
  let whole : Scan Unit := do
    value form (2 * bytes.length + 2)
    if (← Scan.peekToken).isSome then Scan.failNext .needlessText
  match whole ⟨bytes, 1, 0⟩ with
  | .error d => some d
  | .ok _ => none

end Form

end TagCatalog.Json
