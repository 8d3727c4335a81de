import TagCatalog.Exchange.Host
import TagCatalog.Exchange.Path

/-!
What stands between the slashes and the path of an address: a user, a host, and the number behind
it.

* `Authority.read?`: reads it off the front of a text.
* `User.isTold`: whether a user is told beside the address.
-/

namespace TagCatalog

/-- Who asks. -/
structure User where
  name : List Char
  password : Option (List Char)
  deriving Repr, DecidableEq

namespace User

/-- Reads a name and, behind a colon, a password. An empty password is none. -/
def ofText (s : List Char) : User :=
  let password := (s.dropWhile (· ≠ ':')).drop 1
  { name := s.takeWhile (· ≠ ':'), password := if password.isEmpty then none else some password }

/-- Whether nobody is named. -/
def isNobody (u : User) : Bool := u.name.isEmpty && u.password.isNone

/-- Whether a user is told beside the address, and so not in it: the bytes of the name, and of the
password if there is no name, must make up text. -/
def isTold (u : User) : Bool :=
  (Text.percentDecode? u.name).isSome &&
    (!u.name.isEmpty || u.password.any fun p => (Text.percentDecode? p).isSome)

/-- Whether a character stands for itself in a name or password. -/
def isPlain (c : Char) : Bool :=
  Path.isPlain c && !(c ∈ ['/', ':', ';', '=', '@', '[', '\\', ']', '^', '|'])

/-- A user as told before a host. -/
def render (u : User) : String :=
  let plain (s : List Char) : String := String.ofList (Text.percentWhere isPlain s)
  plain u.name ++ (u.password.map (":" ++ plain ·)).getD "" ++ "@"

end User

/-- What stands between the slashes and the path of an address. -/
structure Authority where
  user : Option User
  host : Option String
  /-- The number behind the host, if it has to be told. -/
  number : Option Nat
  deriving Repr, DecidableEq

namespace Authority

/-- The number behind a host that need not be told. -/
def usualNumber? : String → Option Nat
  | "http" | "ws" => some 80
  | "https" | "wss" => some 443
  | "ftp" => some 21
  | _ => none

/-- The length of a host before the colon behind it. Colons in brackets are part of the host. -/
def hostLength : Bool → List Char → Nat
  | _, [] => 0
  | inside, c :: rest =>
    if c = ':' ∧ ¬ inside then 0
    else hostLength (c = '[' || (inside && c ≠ ']')) rest + 1

/-- Reads a colon and a number off the front of a text, if they are there; after the number comes a
slash or nothing. -/
def number? (scheme : String) : List Char → Option (Option Nat × List Char)
  | ':' :: s => do
    let digits := s.takeWhile Char.isDigit
    let rest := s.dropWhile Char.isDigit
    let n ← Number.ofDigits? 10 0 digits
    if 65535 < n ∨ rest.head?.any (fun c => c ≠ '/' && c ≠ '\\') then none
    else return (if digits.isEmpty ∨ usualNumber? scheme = some n then none else some n, rest)
  | s => some (none, s)

/-- Reads the user before the last at sign, if there is one. Where nobody is named before it, a host
must follow unless the address ends. -/
def user? (kind : AddressKind) (isLast : Bool) (s : List Char) :
    Option (Option User × List Char) :=
  let front := s.takeWhile (!kind.isSlash ·)
  let host := (front.reverse.takeWhile (· ≠ '@')).reverse
  if host.length = front.length then some (none, s)
  else
    let told := front.take (front.length - host.length - 1)
    let rest := s.drop (front.length - host.length)
    if told.isEmpty ∧ host.isEmpty ∧ ¬ (isLast ∧ rest.isEmpty) then none
    else
      let user := User.ofText told
      some (if user.isNobody then none else some user, rest)

/-- Reads what stands before the path off the front of the text before the query; `isLast` tells
whether the address ends with that text. -/
def read? (scheme : String) (isLast : Bool) (s : List Char) : Option (Authority × List Char) := do
  let kind := AddressKind.of scheme
  let (user, s) ← user? kind isLast s
  let host := s.take (hostLength false (s.takeWhile (!kind.isSlash ·)))
  let rest := s.drop host.length
  if host.isEmpty then
    if kind = .named ∨ user.isSome ∨ rest.head? = some ':' then none
    else return (⟨none, none, none⟩, rest)
  else
    let name ← if kind = .general then Host.parseAny? host else Host.parse? host
    let (number, rest) ← number? scheme rest
    return (⟨user, some name, number⟩, rest)

/-- What stands before the path, as text. -/
def render (a : Authority) : String :=
  (a.user.map User.render).getD "" ++ a.host.getD "" ++
    (a.number.map fun n => ":" ++ toString n).getD ""

/-- The same without a user who is told beside the address. -/
def withoutTold (a : Authority) : Authority := { a with user := a.user.filter (!·.isTold) }

end Authority

end TagCatalog
