import TagCatalog.CommandLine.Filter
import TagCatalog.Image.Listing
import TagCatalog.Session.Images
import TagCatalog.Session.Logs
import TagCatalog.Session.Search
import TagCatalog.Terminal.Panel

/-!
What the commands of the program do.

* `Surroundings`: what a command finds around it.
* `CommandError`: why a command failed, from the outside in.
* `Invocation.run`: runs a command. Nothing is printed unless the command succeeds.
-/

namespace TagCatalog.CommandLine

/-- What a command finds around it. -/
structure Surroundings where
  env : Environment
  /-- The bytes of the file of a name, if there is one. -/
  file : String → Option Bytes
  /-- Whether output goes to a terminal. -/
  terminal : Bool

/-- What a command prints: each item is one or more lines. -/
structure Printed where
  output : List String
  /-- What is told beside the output. -/
  notes : List String
  deriving Repr, DecidableEq

/-- Why a command failed. -/
inductive CommandError
  /-- Something failed while something was being done. -/
  | during (doing : String) (cause : CommandError)
  | client (e : ClientError)
  | load (path : String) (fault : LoadFault)
  | settings (fault : SettingsFault)
  | hash (fault : Hex.Fault)
  | filter (fault : AttributeFault)
  | noImage (hash : ImageHash)
  | file (fault : FileFault)
  | notJson (flaw : Option Json.Diagnosis)
  | decode (e : Wire.DecodeError)

namespace CommandError

/-- The wording of an error. A fault of a file or of a JSON text is told once more as the cause of
what it kept from being done. -/
def message (w : Wording) : CommandError → String
  | during doing cause => doing ++ ": " ++ cause.message w
  | client .notJson => ClientError.notJson.message w ++ ": " ++ w.json none
  | client e => e.message w
  | load path (.file fault) =>
    "failed to read config " ++ path ++ ": " ++ w.file fault ++ ": " ++ w.file fault
  | load path (.notSettings flaw) =>
    "failed to parse config " ++ path ++ ": " ++ w.json flaw ++ ": " ++ w.json flaw
  | load _ (.unusable fault) => fault.message
  | settings fault => fault.message
  | hash fault => ImageHash.parseMessage fault
  | filter fault => fault.message
  | noImage h => "image " ++ h.toHex ++ " not found"
  | file fault => w.file fault
  | notJson flaw => w.json flaw
  | decode e => e.message

end CommandError

/-! ### Responses in files -/

/-- The names in a file with a list of tags. -/
def loadDictionary (s : Surroundings) (path : String) : Except CommandError TagDictionary := do
  let text ← (textOfFile (s.file path)).mapError
    fun fault => .during ("reading " ++ path) (.file fault)
  let bytes := Utf8.encode text
  match (Shape.list ServiceTag.shape).read bytes with
  | some tags => return dictionaryOfTags tags
  | none =>
    let flaw := (Json.Form.list ServiceTag.form).diagnose bytes
    throw (.during ("parsing " ++ path) (.notJson flaw))

/-- What is logged of a response that was decoded. -/
def decodedEvent (format : WireFormat) (bytes : Bytes) (r : SearchResult) : LogEvent :=
  let flags := match format, Wire.Header.decode bytes with
    | .flat, .ok fields => [("flags", fields.describe)]
    | _, _ => []
  ⟨.debug, "tagstorm::wire", "decoded search response",
    ("format", Text.quoted format.name) :: flags ++ [("kind", Text.quoted r.kind),
      ("count", toString r.size), ("bytes", toString bytes.length)]⟩

/-- The fields of a flat response as a number of four binary digits. -/
def fieldDigits (f : Wire.FieldSet) : String :=
  let digit (b : Bool) : Char := if b then '1' else '0'
  "0b" ++ String.ofList ([f.ids, f.hashes, f.tags, f.attributes].map digit)

/-- The most entries shown of a result. -/
def previewSize : Nat := 10

/-- The panel that shows a response. -/
def panel (style : Terminal.Style) (args : InspectArgs) (d : TagDictionary) (bytes : Bytes)
    (r : SearchResult) : List String :=
  let header := match args.format, Wire.Header.decode bytes with
    | .flat, .ok fields =>
      [style.row ("  flags      " ++ fieldDigits fields ++ "  " ++ style.badges fields),
        style.row ("  payload    " ++ Terminal.sizeText (bytes.length - Wire.headerLength))]
    | _, _ => []
  let entries := if r.isEmpty then [] else
    [style.divider "FIRST ENTRIES"] ++
      ((r.lines d).take previewSize).map (fun line =>
        style.row ("  " ++ Text.cut (Terminal.panelWidth - 4) line)) ++
      if previewSize < r.size then
        [style.row (style.paint .gray .dim
          ("  … " ++ toString (r.size - previewSize) ++ " more"))]
      else []
  style.title ("TAGSTORM RESPONSE: " ++ args.file) ++
    [style.opening "HEADER", style.row ("  format     " ++ args.format.name),
      style.row ("  size       " ++ Terminal.sizeText bytes.length)] ++ header ++
    [style.divider "RESULT",
      style.row ("  kind       " ++ style.paint .green .bold r.kind),
      style.row ("  count      " ++ toString r.size)] ++ entries ++
    [style.closing, style.status true "decoded cleanly"]

/-- The result in a file, with the bytes it was read from and the names of tags. -/
def readResponse (args : InspectArgs) (s : Surroundings) :
    Except CommandError (Bytes × TagDictionary × SearchResult) := do
  let bytes ← match s.file args.file with
    | some bytes => pure bytes
    | none => throw (.during ("reading " ++ args.file) (.file .missing))
  let d ← match args.tags with
    | some path => loadDictionary s path
    | none => pure ∅
  match args.format.decode d bytes with
  | .ok r => return (bytes, d, r)
  | .error e =>
    throw (.during ("decoding " ++ args.file ++ " as " ++ args.format.name ++ " response")
      (.decode e))

/-- Shows the response in a file. -/
def inspect (args : InspectArgs) (s : Surroundings) (net : Network) :
    Except CommandError Printed × Network :=
  match readResponse args s with
  | .error e => (.error e, net)
  | .ok (bytes, d, r) =>
    let style := Terminal.Style.ofEnvironment s.env s.terminal
    let output := if args.json then [r.toJson.pretty] else panel style args d bytes r
    (.ok ⟨output, []⟩, net.note (decodedEvent args.format bytes r))

/-! ### Sessions with the service -/

/-- Operations of a client on behalf of a command. -/
abbrev Task (α : Type) := ExceptT CommandError (StateM Client) α

namespace Task

variable {α : Type}

/-- An operation, whose errors are told in some way. -/
def session (s : Session α) (tell : ClientError → CommandError) : Task α := fun c =>
  match s c with
  | (.ok a, c) => (.ok a, c)
  | (.error e, c) => (.error (tell e), c)

/-- An operation, whose errors are told as they are. -/
def plainly (s : Session α) : Task α := session s .client

/-- An operation, whose errors are told with what was being done. -/
def doing (what : String) (s : Session α) : Task α := session s fun e => .during what (.client e)

/-- Logs an event. -/
def note (e : LogEvent) : Task Unit := modify fun c => { c with network := c.network.note e }

end Task

/-- The settings that hold for a command: what is given with it, else those of the file that it
names, else the standard ones. -/
def settingsFor (common : Common) (s : Surroundings) : Except CommandError Settings := do
  let base ← match common.config with
    | some path => (Settings.ofFile (s.file path)).mapError (.load path)
    | none => pure .standard
  let settings := { base with
    apiUrl := common.apiUrl.getD base.apiUrl
    token := common.token.or base.token }
  match settings.fault? with
  | some fault => throw (.settings fault)
  | none => return settings

/-- Runs operations of a client that is made for a command. -/
def online (common : Common) (s : Surroundings) (net : Network) (task : Task Printed) :
    Except CommandError Printed × Network :=
  match settingsFor common s with
  | .error e => (.error e, net)
  | .ok settings =>
    let net := net.note ⟨.debug, "tagstorm", "connecting",
      [("api_url", settings.apiUrl), ("format", settings.wireFormat.name)]⟩
    let (r, c) := task (Client.ofSettings settings net)
    (r, c.network)

/-- The search that the arguments describe, with a filter. -/
def SearchArgs.query (a : SearchArgs) (filter : Option Operator) : SearchQuery :=
  ⟨a.select, some a.orderBy, a.limit, filter⟩

/-- Searches. -/
def search (args : SearchArgs) : Task Printed := do
  let filter ← match args.filter with
    | .ok filter => pure filter
    | .error fault => throw (.filter fault)
  if let some op := filter then
    Task.note ⟨.info, "tagstorm", "searching", [("query", op.render)]⟩
  let result ←
    if args.all then
      SearchResult.images <$> Task.doing "paging through search results"
        (Session.searchAll filter args.select none)
    else Task.doing "search failed" (Session.search (args.query filter) .never)
  if args.json then return ⟨[result.toJson.pretty], []⟩
  else
    let d ← if .tags ∈ args.select then Task.plainly Session.tagDictionary else pure ∅
    return ⟨result.lines d, [toString result.size ++ " result(s)"]⟩

/-- A tag on a line. -/
def tagLine (t : ServiceTag) : String :=
  Text.padLeft 8 (toString t.id.toNat) ++ "  " ++ t.name ++ (if t.active then "" else " (inactive)")

/-- Lists the tags. -/
def listTags (json : Bool) : Task Printed := do
  let tags ← Task.doing "listing tags" Session.listTags
  if json then return ⟨[(Json.list (tags.map ServiceTag.toJson)).pretty], []⟩
  else return ⟨tags.map tagLine, []⟩

/-- An image on lines. -/
def imageLines (i : ServiceImage) (d : TagDictionary) : List String :=
  ["id       " ++ toString i.id.toNat, "hash     " ++ i.hash.toHex,
    "active   " ++ toString i.active, "tags     " ++ ", ".intercalate (i.tagNames d)] ++
    (i.attributes.entries.map fun e => Text.padRight 8 e.1 ++ " " ++ ", ".intercalate e.2) ++
    (i.caption.toList.map fun s => "caption  " ++ s)

/-- Shows an image. -/
def showImage (hash : ImageHash) (json : Bool) : Task Printed := do
  match ← Task.plainly (Session.imageByHash hash) with
  | none => throw (.noImage hash)
  | some image =>
    if json then return ⟨[image.toJson.pretty], []⟩
    else return ⟨imageLines image (← Task.plainly Session.tagDictionary), []⟩

/-- What was changed, on a line: a tag, or an attribute. -/
def changeText (e : LogEntry) : String :=
  match e.tag, e.attributeKey with
  | some tag, _ => tag
  | none, some key => key ++ "=" ++ e.attributeValue.getD ""
  | none, none => ""

/-- A change on a line. -/
def changeLine (e : LogEntry) : String :=
  let subject := (e.imageHash.map fun h => Text.cut 16 h.toHex).getD ""
  Text.padLeft 8 (toString e.id.toNat) ++ "  " ++ Text.padLeft 10 (toString e.timestamp.toInt) ++
    "  user " ++ Text.padRight 4 (toString e.user.toNat) ++ " " ++ Text.padRight 20 e.action ++
    " " ++ Text.padRight 16 subject ++ " " ++ changeText e

/-- Lists past changes. -/
def listChanges (q : LogQuery) (json : Bool) : Task Printed := do
  let entries ← Task.doing "reading logs" (Session.listLogs q)
  if json then return ⟨[(Json.list (entries.map LogEntry.toJson)).pretty], []⟩
  else return ⟨entries.map changeLine, []⟩

/-! ### Commands -/

/-- The hash that a text stands for. -/
def hashOf (text : String) : Except CommandError ImageHash :=
  (ImageHash.parse text).mapError .hash

/-- Runs a command. -/
def Invocation.run (i : Invocation) (s : Surroundings) (net : Network) :
    Except CommandError Printed × Network :=
  match i.command with
  | .inspect args => inspect args s net
  | .search args => online i.common s net (search args)
  | .tags json => online i.common s net (listTags json)
  | .image text json =>
    match hashOf text with
    | .error e => (.error e, net)
    | .ok hash => online i.common s net (showImage hash json)
  | .logs image action json =>
    match image.mapM hashOf with
    | .error e => (.error e, net)
    | .ok image => online i.common s net (listChanges ⟨image, action, none⟩ json)

end TagCatalog.CommandLine
