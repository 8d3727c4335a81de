import TagCatalog.Text.Percent
import TagCatalog.Text.Pieces

/-!
Paths in addresses.

* `AddressKind`: what a scheme says about hosts and paths.
* `Path.segments`: the segments of a path in its normal form.
* `Path.text`: segments as text.
-/

namespace TagCatalog

/-- What a scheme says about hosts and paths. -/
inductive AddressKind
  /-- A host is a name and is never absent, and a path is never empty. -/
  | named
  /-- An address is that of a file, whose path may begin with a drive. -/
  | file
  /-- A host may be any text, or absent, and so may a path. -/
  | general
  deriving Repr, DecidableEq

/-- The kind of addresses of a scheme. -/
def AddressKind.of (scheme : String) : AddressKind :=
  if scheme ∈ ["http", "https", "ws", "wss", "ftp"] then .named
  else if scheme = "file" then .file
  else .general

/-- Whether a character parts the segments of a path. -/
def AddressKind.isSlash (kind : AddressKind) (c : Char) : Bool :=
  c = '/' || (kind ≠ .general && c = '\\')

namespace Path

/-- Whether a character stands for itself in a path. -/
def isPlain (c : Char) : Bool :=
  Text.isPrintable c && !(c ∈ [' ', '"', '#', '<', '>', '?', '\x60', '\x7b', '\x7d'])

/-- Whether a segment names a drive, by a letter and a colon or a bar. -/
def isDrive : List Char → Bool
  | [letter, c] => letter.isAlpha && (c = ':' || c = '|')
  | _ => false

/-- Whether a segment is a drive, or one with a backslash behind. -/
def beginsWithDrive (segment : List Char) : Bool :=
  isDrive (segment.take 2) && (segment[2]?).all (· = '\\')

/-- A drive with a colon. -/
def tidyDrive (segment : List Char) : List Char :=
  if isDrive segment then segment.take 1 ++ [':'] else segment

/-- What a segment does to a path. -/
inductive Step
  /-- It goes on with the segment. -/
  | down
  /-- It stays where it is. -/
  | stay
  /-- It goes back by a segment. -/
  | up
  deriving Repr, DecidableEq

/-- What a segment does to a path: single dots stay, double dots go up. -/
def step (segment : List Char) : Step :=
  let word := (String.ofList segment).toLower.replace "%2e" "."
  if word = ".." then .up else if word = "." then .stay else .down

/-- The segments without the last, which stays if it is a drive. The segments are reversed. -/
def parent : List (List Char) → List (List Char)
  | [] => []
  | last :: rest => if beginsWithDrive last then last :: rest else rest

/-- The segments to which further ones lead from `done`, which is reversed. -/
def resolve (kind : AddressKind) (done : List (List Char)) :
    List (List Char) → List (List Char)
  | [] => done.reverse
  | segment :: rest =>
    let ended (l : List (List Char)) : List (List Char) := if rest.isEmpty then [] :: l else l
    match step segment with
    | .up => resolve kind (ended (parent done)) rest
    | .stay => resolve kind (ended done) rest
    | .down =>
      let segment := if kind = .file ∧ done.isEmpty then tidyDrive segment else segment
      resolve kind (segment :: done) rest

/-- The segments of the text behind the first slash of a path. -/
def segments (kind : AddressKind) (s : List Char) : List (List Char) :=
  resolve kind [] (Text.pieces kind.isSlash s)

/-- A path without empty segments in front, unless it has no others. -/
def withoutFront (segments : List (List Char)) : List (List Char) :=
  match segments.dropWhile List.isEmpty with
  | [] => [[]]
  | rest => rest

/-- Segments as text. -/
def text (segments : List (List Char)) : String :=
  "/" ++ "/".intercalate (segments.map fun s => String.ofList (Text.percentWhere isPlain s))

end Path

end TagCatalog
