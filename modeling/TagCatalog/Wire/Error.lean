import TagCatalog.Table.Fault
import TagCatalog.Text.Quoted

/-!
What can be wrong with a response, and how it is said.

* `DecodeError`: the header, a structure that ends too early, or contents that mean nothing; the
  last two name the byte of the response at which they are found.
* `DecodeError.message`: the wording.
-/

namespace TagCatalog.Wire

/-- The most bytes a response may have. -/
def maxResponseSize : Nat := 1024 * 1024 * 1024

/-- The most bytes that an attribute key or value may have. -/
def maxStringLength : Nat := 1024 * 1024

/-- The bytes before the payload of a flat response. -/
def headerLength : Nat := 4

/-- What is wrong with a header. -/
inductive HeaderFault
  /-- The response does not start with the magic bytes. -/
  | magic (found : Bytes)
  /-- The response ends before the byte that selects fields. -/
  | noFlags
  /-- The byte that selects fields has a reserved bit. -/
  | reservedFlags (flags : UInt8)
  /-- The member of a table response is of no known kind. -/
  | unknownKind (kind : UInt8)
  deriving Repr, DecidableEq

/-- What is set by a user. -/
inductive Blamed
  | tag
  | attribute
  deriving Repr, DecidableEq

/-- The word for what is set by a user. -/
def Blamed.name : Blamed → String
  | .tag => "tag"
  | .attribute => "attribute"

/-- What is wrong with contents that are all there. -/
inductive PayloadFault
  /-- The response is over the size limit. -/
  | tooLarge (size : Nat)
  /-- There is a payload, but no field is selected. -/
  | noFields (size : Nat)
  /-- A string is over the length limit. -/
  | longString (length : Nat)
  /-- A string is no text. -/
  | notText (fault : Utf8.Fault)
  /-- The structure of a table response is broken; the steps lead from the fault outwards. -/
  | broken (fault : Table.Fault) (way : List Table.Step)
  /-- A field lies outside the response. -/
  | outside
  /-- A member has a kind but is not there. -/
  | noMember (kind : UInt8)
  /-- The dictionary does not know a tag. -/
  | unknownTag (name : String)
  /-- The dictionary has no name for a tag. -/
  | unnamedTag (id : UInt64)
  /-- A user's number is too wide for a table. -/
  | wideUser (of : Blamed) (user : UInt64)
  deriving Repr, DecidableEq

/-- What is wrong with a response. -/
inductive DecodeError
  /-- The header is not that of a response. -/
  | header (fault : HeaderFault)
  /-- A structure at `offset` wants `needed` bytes where `remaining` are left. -/
  | truncated (offset needed remaining : Nat)
  /-- What stands at `offset` means nothing. -/
  | malformed (offset : Nat) (fault : PayloadFault)
  deriving Repr, DecidableEq

/-- A number in binary with at least eight digits. -/
def binaryByte (b : UInt8) : String :=
  let digits := Text.digits 2 b.toNat
  "0b" ++ "".pushn '0' (8 - digits.length) ++ digits

/-- The wording of a header's fault. -/
def HeaderFault.message : HeaderFault → String
  | .magic found => "invalid magic: expected TMS, got " ++ Text.byteList found
  | .noFlags => "response ends before flag byte"
  | .reservedFlags flags => "reserved flag bits set: " ++ binaryByte flags
  | .unknownKind kind => "unknown response type " ++ toString kind.toNat

/-- The wording of a fault in the contents. -/
def PayloadFault.message : PayloadFault → String
  | .tooLarge size =>
    "response of " ++ toString size ++ " bytes exceeds limit of " ++ toString maxResponseSize
  | .noFields size => toString size ++ " payload bytes but no fields selected"
  | .longString length =>
    "string length " ++ toString length ++ " exceeds limit of " ++ toString maxStringLength
  | .notText fault => "invalid UTF-8: " ++ fault.message
  | .broken fault way => fault.report way
  | .outside => "field outside the response"
  | .noMember kind => "response type " ++ toString kind.toNat ++ " without data"
  | .unknownTag name => "unknown tag name " ++ Text.quoted name
  | .unnamedTag id => "tag id " ++ toString id.toNat ++ " has no name"
  | .wideUser of user => of.name ++ " user " ++ toString user.toNat ++ " does not fit in u32"

/-- The wording of an error. -/
def DecodeError.message : DecodeError → String
  | .header fault => "malformed header: " ++ fault.message
  | .truncated offset needed remaining =>
    "truncated payload at byte " ++ toString offset ++ ": needed " ++ toString needed ++
      " bytes, " ++ toString remaining ++ " remaining"
  | .malformed offset fault =>
    "malformed payload at byte " ++ toString offset ++ ": " ++ fault.message

/-- The same error, found a step further in; only a fault of a place keeps the way to it. -/
def DecodeError.within (step : Table.Step) : DecodeError → DecodeError
  | .malformed offset (.broken fault way) =>
    .malformed offset (.broken fault (if fault.hasPlace then way ++ [step] else way))
  | e => e

end TagCatalog.Wire
