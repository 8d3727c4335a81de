import TagCatalog.Exchange.Authority
import TagCatalog.Exchange.Failure
import TagCatalog.Exchange.Message

/-!
Addresses, and which requests can be sent at all.

* `Address.parse?`: reads an address.
* `Address.render`: an address in its normal form.
* `Request.unsendable?`: what keeps a request from being sent, whatever the network.
-/

namespace TagCatalog

/-- An address. -/
structure Address where
  scheme : String
  /-- What stands before the path, behind two slashes. -/
  authority : Option Authority
  path : String
  query : Option String
  fragment : Option String
  deriving Repr, DecidableEq

namespace Address

/-! ### Reading -/

/-- Whether a character stands for itself in a query. -/
def isQueryChar (kind : AddressKind) (c : Char) : Bool :=
  Text.isPrintable c && !(c ∈ [' ', '"', '#', '<', '>']) && (kind = .general || c ≠ '\'')

/-- Whether a character stands for itself in a fragment. -/
def isFragmentChar (c : Char) : Bool :=
  Text.isPrintable c && !(c ∈ [' ', '"', '<', '>', '\x60'])

/-- The scheme of a text in lower case, and what follows its colon. -/
def scheme? (s : List Char) : Option (String × List Char) :=
  let isPart (c : Char) : Bool := c.isAlphanum || c = '+' || c = '-' || c = '.'
  match s, s.dropWhile isPart with
  | c :: _, ':' :: rest =>
    if c.isAlpha then some ((String.ofList (s.takeWhile isPart)).toLower, rest) else none
  | _, _ => none

/-- The text before the query, the query and the fragment. -/
def split (s : List Char) : List Char × Option (List Char) × Option (List Char) :=
  let body := s.takeWhile (· ≠ '#')
  let fragment := (s.dropWhile (· ≠ '#')).tail?
  (body.takeWhile (· ≠ '?'), (body.dropWhile (· ≠ '?')).tail?, fragment)

/-- The host of a file, and the path behind it. The machine at hand is not told, and neither is a
host before a drive. -/
def fileHost? (s : List Char) : Option (Option String × String) := do
  let isSlash := AddressKind.isSlash .file
  let told := s.takeWhile (!isSlash ·)
  let rest := s.dropWhile (!isSlash ·)
  let path (s : List Char) : List (List Char) := Path.segments .file s
  let text (segments : List (List Char)) : String := Path.text (Path.withoutFront segments)
  if Path.isDrive told then return (none, text (path s))
  else if told.isEmpty then return (none, text (path rest))
  else
    let host ← Host.parse? told
    if host = "localhost" then return (none, text (path rest))
    else
      let segments := path (rest.drop 1)
      return (if segments.head?.any Path.isDrive then none else some host, text segments)

/-- What a scheme and the text behind it, up to the query, tell of: the part before the path and the
path. `isLast` tells whether the address ends with that text. -/
def locate? (scheme : String) (isLast : Bool) (s : List Char) :
    Option (Option Authority × String) :=
  let kind := AddressKind.of scheme
  let path (s : List Char) : String := Path.text (Path.segments kind s)
  match kind, s with
  | .named, _ => do
    let (authority, rest) ← Authority.read? scheme isLast (s.dropWhile kind.isSlash)
    return (some authority, path (rest.drop 1))
  | .file, _ => do
    let slashes := (s.takeWhile kind.isSlash).length
    let (host, path) ←
      if 2 ≤ slashes then fileHost? (s.drop 2)
      else some (none, Path.text (Path.withoutFront (Path.segments kind (s.drop slashes))))
    return (some ⟨none, host, none⟩, path)
  | .general, '/' :: '/' :: s => do
    let (authority, rest) ← Authority.read? scheme isLast s
    return (some authority, match rest with
      | [] => ""
      | '/' :: rest => path rest
      | rest => path rest)
  | .general, '/' :: s => some (none, path s)
  | .general, s => some (none, String.ofList (Text.percentWhere Text.isPrintable s))

/-- Reads an address. Blanks around it and line breaks in it do not count. -/
def parse? (text : String) : Option Address := do
  let isBlank (c : Char) : Bool := c.toNat ≤ 0x20
  let s := ((text.toList.dropWhile isBlank).reverse.dropWhile isBlank).reverse
  let (scheme, s) ← scheme? (s.filter fun c => c ≠ '\t' && c ≠ '\n' && c ≠ '\r')
  let (body, query, fragment) := split s
  let (authority, path) ← locate? scheme (query.isNone && fragment.isNone) body
  return {
    scheme, authority, path
    query := query.map fun q =>
      String.ofList (Text.percentWhere (isQueryChar (.of scheme)) q)
    fragment := fragment.map fun f => String.ofList (Text.percentWhere isFragmentChar f) }

/-! ### Writing -/

/-- The host of an address. -/
def host? (a : Address) : Option String := a.authority.bind Authority.host

/-- An address in its normal form. Where nothing stands before a path that begins with two slashes,
a dot keeps them apart from the scheme. -/
def render (a : Address) : String :=
  let place := match a.authority with
    | some authority => "//" ++ authority.render
    | none => if a.path.startsWith "//" then "/." else ""
  a.scheme ++ ":" ++ place ++ a.path ++
    (a.query.map ("?" ++ ·)).getD "" ++ (a.fragment.map ("#" ++ ·)).getD ""

/-- An address with more names and values in its query. -/
def withPairs (a : Address) (pairs : List (String × String)) : Address :=
  let more := "&".intercalate (pairs.map fun p => Text.formEncode p.1 ++ "=" ++ Text.formEncode p.2)
  if pairs.isEmpty then a
  else { a with query := some (match a.query with
    | none | some "" => more
    | some q => q ++ "&" ++ more) }

/-- An address without a user who is told beside it. -/
def withoutTold (a : Address) : Address :=
  { a with authority := a.authority.map Authority.withoutTold }

end Address

/-! ### Requests -/

/-- Whether a token can be told in a request: it has no control characters but tabs. -/
def isTellable (token : String) : Bool :=
  token.toList.all fun c => c = '\t' || (0x20 ≤ c.toNat && c.toNat ≠ 0x7f)

/-- Whether an address can be told in a request: it is not too long, and its host has none of the
characters that may stand in a name but not there. -/
def Address.isTellable (a : Address) : Bool :=
  a.render.utf8ByteSize < 65535 &&
    !a.host?.any fun host => host.toList.any (· ∈ ['"', '\x60', '\x7b', '\x7d'])

namespace Request

/-- What keeps a request from being sent: an address that cannot be read or names no host, a token
that cannot be told, a scheme that is not spoken, or an address that cannot be told. -/
def unsendable? (r : Request) : Option String :=
  match Address.parse? r.url with
  | none => some "builder error"
  | some a =>
    let faultAt (a : Address) : String := "builder error for url (" ++ a.render ++ ")"
    let target := a.withoutTold.withPairs r.query
    if a.host?.isNone then some (faultAt a)
    else if r.bearer.any (!TagCatalog.isTellable ·) then some "builder error"
    else if (a.scheme ≠ "http" ∧ a.scheme ≠ "https") ∨ !target.isTellable then
      some (faultAt target)
    else none

/-- How a request fails where there is no network. -/
def offlineFailure (r : Request) : Failure :=
  match r.unsendable? with
  | some why => .invalidRequest why
  | none => .connect "no network"

end Request

end TagCatalog
