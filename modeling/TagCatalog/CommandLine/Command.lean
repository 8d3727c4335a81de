import TagCatalog.CommandLine.Grammar
import TagCatalog.Number.Reading
import TagCatalog.Query.Search
import TagCatalog.Terminal.Theme
import TagCatalog.Wire.Format

/-!
The commands of the program, and how a command line names them.

* `Command`: what is to be done.
* `Invocation`: a command with what holds for every command.
* `Invocation.parse`: reads a command line. What holds for every command may stand before the
  subcommand or after it; what stands after it wins, and the surroundings come last.
-/

namespace TagCatalog.CommandLine

/-- How to show a response that was kept in a file. -/
structure InspectArgs where
  file : String
  format : WireFormat
  /-- A file with a list of tags. -/
  tags : Option String
  json : Bool
  deriving Repr, DecidableEq

/-- What to search for. -/
structure SearchArgs where
  /-- Tags that an image must have. -/
  tags : List TagId
  /-- Tags that an image must not have. -/
  notTags : List TagId
  /-- Keys, or keys and values, that an image must have. -/
  attributes : List String
  minId : Option UInt64
  maxId : Option UInt64
  select : List Selection
  orderBy : Order
  limit : Option UInt64
  /-- Whether all results are wanted, page by page. -/
  all : Bool
  json : Bool
  deriving Repr, DecidableEq

/-- What is to be done. -/
inductive Command
  | inspect (args : InspectArgs)
  | search (args : SearchArgs)
  | tags (json : Bool)
  | image (hash : String) (json : Bool)
  | logs (image action : Option String) (json : Bool)
  deriving Repr, DecidableEq

/-- What holds for every command. -/
structure Common where
  /-- A file with settings. -/
  config : Option String
  apiUrl : Option String
  token : Option String
  /-- How often more detail was asked for. -/
  verbose : Nat
  deriving Repr, DecidableEq

namespace Common

/-- Nothing. -/
def none : Common := ⟨.none, .none, .none, 0⟩

/-- What is given inside, and elsewhere what is given outside. -/
def within (outer inner : Common) : Common where
  config := inner.config.or outer.config
  apiUrl := inner.apiUrl.or outer.apiUrl
  token := inner.token.or outer.token
  verbose := if inner.verbose = 0 then outer.verbose else inner.verbose

/-- What is given, and elsewhere what the surroundings give. -/
def completed (c : Common) (env : Environment) : Common :=
  { c with
    apiUrl := c.apiUrl.or (env "TAGSTORM_API_URL")
    token := c.token.or (env "TAGSTORM_TOKEN") }

end Common

/-- A command with what holds for every command. -/
structure Invocation where
  command : Command
  common : Common
  deriving Repr, DecidableEq

/-! ### Values -/

/-- A value that may be given once. -/
def once {α : Type} (before : Option α) (value : Except UsageFault α) :
    Except UsageFault (Option α) :=
  match before with
  | some _ => .error .conflict
  | none => some <$> value

/-- A flag that may be given once. -/
def onceFlag (before : Bool) : Except UsageFault Bool :=
  if before then .error .conflict else .ok true

/-- A number of 64 bits. -/
def number (s : String) : Except UsageFault UInt64 :=
  match Number.parse? 10 UInt64.size s with
  | some n => .ok (UInt64.ofNat n)
  | none => .error .badNumber

/-- The name of a file, which is not empty. -/
def path (s : String) : Except UsageFault String :=
  if s.isEmpty then .error .badValue else .ok s

/-- One of the words for some values. -/
def oneOf {α : Type} (words : List (String × α)) (s : String) : Except UsageFault α :=
  match words.lookup s with
  | some a => .ok a
  | none => .error .badValue

/-! ### Options for every command -/

/-- Values of a command beside those for every command. -/
abbrev Values (α : Type) := Common × α

/-- An option of the command alone that takes a value. -/
def CommandOption.ofValue {α : Type} (name : String) (letter : Option Char)
    (take : String → α → Except UsageFault α) : CommandOption (Values α) :=
  ⟨name, letter, .value fun s v => do return (v.1, ← take s v.2)⟩

/-- An option of the command alone that takes none. -/
def CommandOption.ofFlag {α : Type} (name : String) (set : α → Except UsageFault α) :
    CommandOption (Values α) :=
  ⟨name, none, .flag fun v => do return (v.1, ← set v.2)⟩

/-- The options that every command has. -/
def commonOptions (α : Type) : List (CommandOption (Values α)) :=
  [⟨"config", none, .value fun s (c, a) => do
      return ({ c with config := ← once c.config (path s) }, a)⟩,
    ⟨"api-url", none, .value fun s (c, a) => do
      return ({ c with apiUrl := ← once c.apiUrl (.ok s) }, a)⟩,
    ⟨"token", none, .value fun s (c, a) => do
      return ({ c with token := ← once c.token (.ok s) }, a)⟩,
    ⟨"verbose", some 'v', .flag fun (c, a) =>
      .ok ({ c with verbose := min (c.verbose + 1) 255 }, a)⟩,
    ⟨"help", some 'h', .flag fun _ => .error .helpAsked⟩]

/-- The grammar of a command without subcommands. -/
def leaf {α : Type} (options : List (CommandOption (Values α)))
    (operands : List (String → α → Except UsageFault α)) : Grammar (Values α) where
  options := commonOptions α ++ options
  operands := operands.map fun take s v => do return (v.1, ← take s v.2)
  isCommand := fun _ => false
  stray := fun _ _ => .unknownArgument

/-- Reads the arguments of a command without subcommands. -/
def readLeaf {α : Type} (g : Grammar (Values α)) (args : List String) (initial : α)
    (finish : α → Except UsageFault Command) : Except UsageFault (Common × Command) := do
  let (gathered, _) ← g.read args (.none, initial)
  let (common, a) ← gathered.settle
  return (common, ← finish a)

/-! ### The commands -/

/-- The values of `inspect` while they are gathered. -/
structure InspectDraft where
  file : Option String
  format : Option WireFormat
  tags : Option String
  json : Bool

/-- Reads the arguments of `inspect`. -/
def readInspect (args : List String) : Except UsageFault (Common × Command) :=
  readLeaf (leaf
    [.ofValue "format" none fun s d => do
        return { d with format := ← once d.format (oneOf [("flat", .flat), ("table", .table)] s) },
      .ofValue "tags" none fun s d => do return { d with tags := ← once d.tags (path s) },
      .ofFlag "json" fun d => do return { d with json := ← onceFlag d.json }]
    [fun s d => do return { d with file := some (← path s) }])
    args (⟨none, none, none, false⟩ : InspectDraft) fun d =>
    match d.file with
    | none => .error .missingOperand
    | some file => .ok (.inspect ⟨file, d.format.getD .flat, d.tags, d.json⟩)

/-- The values of `search` while they are gathered. -/
structure SearchDraft where
  tags : List TagId
  notTags : List TagId
  attributes : List String
  minId : Option UInt64
  maxId : Option UInt64
  select : List Selection
  orderBy : Option Order
  limit : Option UInt64
  all : Bool
  json : Bool

/-- Reads the arguments of `search`. All results and a limit rule each other out. -/
def readSearch (args : List String) : Except UsageFault (Common × Command) :=
  readLeaf (leaf
    [.ofValue "tag" none fun s d => do return { d with tags := d.tags ++ [← number s] },
      .ofValue "not-tag" none fun s d => do return { d with notTags := d.notTags ++ [← number s] },
      .ofValue "attr" none fun s d => .ok { d with attributes := d.attributes ++ [s] },
      .ofValue "min-id" none fun s d => do return { d with minId := ← once d.minId (number s) },
      .ofValue "max-id" none fun s d => do return { d with maxId := ← once d.maxId (number s) },
      .ofValue "select" none fun s d => do
        let fields ← (s.splitOn ",").mapM (oneOf (Selection.all.map fun f => (f.name, f)))
        return { d with select := d.select ++ fields },
      .ofValue "order-by" none fun s d => do
        return { d with orderBy := ← once d.orderBy (oneOf [("id", .id), ("hash", .hash)] s) },
      .ofValue "limit" (some 'l') fun s d => do
        return { d with limit := ← once d.limit (number s) },
      .ofFlag "all" fun d => do return { d with all := ← onceFlag d.all },
      .ofFlag "json" fun d => do return { d with json := ← onceFlag d.json }]
    [])
    args (⟨[], [], [], none, none, [], none, none, false, false⟩ : SearchDraft) fun d =>
    if d.all && d.limit.isSome then .error .conflict
    else
      let select := if d.select.isEmpty then [.id] else d.select
      .ok (.search ⟨d.tags, d.notTags, d.attributes, d.minId, d.maxId, select,
        d.orderBy.getD .id, d.limit, d.all, d.json⟩)

/-- The flag that asks for JSON, where there is nothing else to ask for. -/
def jsonFlag {α : Type} : CommandOption (Values (α × Bool)) :=
  .ofFlag "json" fun d => do return (d.1, ← onceFlag d.2)

/-- Reads the arguments of `tags`. -/
def readTags (args : List String) : Except UsageFault (Common × Command) :=
  readLeaf (leaf [jsonFlag] []) args ((), false) fun d => .ok (.tags d.2)

/-- Reads the arguments of `image`. -/
def readImage (args : List String) : Except UsageFault (Common × Command) :=
  readLeaf (leaf [jsonFlag] [fun s d => .ok (some s, d.2)]) args ((none : Option String), false)
    fun d => match d.1 with
    | none => .error .missingOperand
    | some hash => .ok (.image hash d.2)

/-- Reads the arguments of `logs`. -/
def readLogs (args : List String) : Except UsageFault (Common × Command) :=
  readLeaf (leaf
    [.ofValue "image" none fun s d => do return ((← once d.1.1 (.ok s), d.1.2), d.2),
      .ofValue "action" none fun s d => do return ((d.1.1, ← once d.1.2 (.ok s)), d.2),
      jsonFlag]
    [])
    args (((none, none), false) : (Option String × Option String) × Bool)
    fun d => .ok (.logs d.1.1 d.1.2 d.2)

/-! ### The program -/

/-- The commands by name. -/
def commands : List (String × (List String → Except UsageFault (Common × Command))) :=
  [("inspect", readInspect), ("search", readSearch), ("tags", readTags), ("image", readImage),
    ("logs", readLogs)]

/-- Whether a word is a command, help among them. -/
def isCommand (s : String) : Bool := s = "help" || (commands.lookup s).isSome

/-- The grammar of the program up to its command. -/
def program : Grammar (Values Unit) where
  options := commonOptions Unit ++ [⟨"version", some 'V', .flag fun _ => .error .versionAsked⟩]
  operands := []
  isCommand := isCommand
  stray := fun escaped s => if escaped && isCommand s then .unknownArgument else .unknownCommand

/-- The fault of a plea for help on a command. -/
def helpFault : List String → UsageFault
  | [] => .helpAsked
  | [s] => if isCommand s then .helpAsked else .unknownCommand
  | _ => .unknownCommand

/-- Reads a command line without the name of the program. -/
def Invocation.parse (args : List String) (env : Environment) : Except UsageFault Invocation := do
  let (gathered, found) ← program.read args (.none, ())
  match found with
  | none =>
    let (common, _) ← gathered.settle
    if common.completed env = .none then .error .nothingGiven else .error .noCommand
  | some (name, rest) =>
    match commands.lookup name with
    | none => .error (helpFault rest)
    | some read =>
      let (inner, command) ← read rest
      let (outer, _) ← gathered.settle
      return ⟨command, (outer.within inner).completed env⟩

end TagCatalog.CommandLine
