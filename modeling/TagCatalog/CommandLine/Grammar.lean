/-!
Reading command lines.

* `Argument`: the four kinds of argument that can be told apart by their look.
* `Action`: what an option does to the values gathered so far.
* `Grammar`: the options and operands of a command, and its subcommands.
* `Grammar.gather`: reads arguments up to a subcommand. A value that stands apart from its option,
  and an operand, is taken only when the next thing is dealt with; a fault of that next thing that
  shows in its look alone comes first.
-/

namespace TagCatalog.CommandLine

/-- Why a command line is refused, or answered without a command. -/
inductive UsageFault
  | helpAsked
  | versionAsked
  /-- There is nothing on the command line. -/
  | nothingGiven
  | noCommand
  | unknownCommand
  | unknownArgument
  | missingOperand
  /-- A value is not one of the choices, or there is none. -/
  | badValue
  /-- A value is no number, or out of range. -/
  | badNumber
  /-- An option is given twice, or with one that rules it out. -/
  | conflict
  /-- A value is given to an option that takes none. -/
  | needlessValue
  deriving Repr, DecidableEq

/-- An argument by its look. -/
inductive Argument
  /-- What follows is no option. -/
  | escape
  /-- An option by name, with a value if one is attached. -/
  | long (name : String) (value : Option String)
  /-- Options by letters, or one with a value attached. -/
  | short (letters : List Char)
  | plain
  deriving Repr, DecidableEq

/-- The look of an argument. A single hyphen is plain. -/
def Argument.ofText (s : String) : Argument :=
  match s.toList with
  | ['-', '-'] => .escape
  | '-' :: '-' :: rest =>
    let name := rest.takeWhile (· ≠ '=')
    let value := rest.dropWhile (· ≠ '=')
    .long (String.ofList name) (match value with
      | [] => none
      | _ :: value => some (String.ofList value))
  | '-' :: c :: rest => .short (c :: rest)
  | _ => .plain

/-- What an option does to the values gathered. -/
inductive Action (σ : Type)
  | flag (set : σ → Except UsageFault σ)
  | value (take : String → σ → Except UsageFault σ)

/-- An option. -/
structure CommandOption (σ : Type) where
  name : String
  letter : Option Char
  action : Action σ

/-- The options and operands of a command. -/
structure Grammar (σ : Type) where
  options : List (CommandOption σ)
  /-- What each operand does to the values gathered, in order. -/
  operands : List (String → σ → Except UsageFault σ)
  /-- Whether a word is a subcommand. -/
  isCommand : String → Bool
  /-- The fault of a word for which there is no operand, after an escape or not. -/
  stray : Bool → String → UsageFault

/-- What waits to be taken: an option for its value, or an option or operand with its value. -/
structure Pending (σ : Type) where
  take : String → σ → Except UsageFault σ
  value : Option String

/-- What was gathered so far. -/
structure Gathered (σ : Type) where
  values : σ
  pending : Option (Pending σ)

namespace Gathered

variable {σ : Type}

/-- Whether an option waits for its value. -/
def awaits (g : Gathered σ) : Bool := g.pending.any (·.value.isNone)

/-- Takes what waits. -/
def settle (g : Gathered σ) : Except UsageFault σ :=
  match g.pending with
  | none => .ok g.values
  | some ⟨_, none⟩ => .error .badValue
  | some ⟨take, some v⟩ => take v g.values

/-- Takes what waits, and then something at once. -/
def after (g : Gathered σ) (set : σ → Except UsageFault σ) : Except UsageFault (Gathered σ) := do
  return ⟨← set (← g.settle), none⟩

/-- Takes what waits, and lets something else wait. -/
def suspend (g : Gathered σ) (p : Pending σ) : Except UsageFault (Gathered σ) := do
  return ⟨← g.settle, some p⟩

/-- Gives its value to the option that waits. -/
def supply (g : Gathered σ) (v : String) : Gathered σ :=
  { g with pending := g.pending.map ({ · with value := some v }) }

end Gathered

namespace Grammar

variable {σ : Type} (g : Grammar σ)

/-- The option of a name. -/
def long? (name : String) : Option (Action σ) :=
  (g.options.find? (·.name = name)).map (·.action)

/-- The option of a letter. -/
def short? (c : Char) : Option (Action σ) :=
  (g.options.find? (·.letter = some c)).map (·.action)

/-- Deals with an option by name. -/
def readLong (name : String) (value : Option String) (s : Gathered σ) :
    Except UsageFault (Gathered σ) :=
  match g.long? name, value with
  | none, _ => .error .unknownArgument
  | some (.flag set), none => s.after set
  | some (.flag _), some _ => .error .needlessValue
  | some (.value take), some v => s.after (take v)
  | some (.value take), none => s.suspend ⟨take, none⟩

/-- Deals with options by letters. What follows the letter of an option that takes a value is that
value, less an equals sign. -/
def readShort : List Char → Gathered σ → Except UsageFault (Gathered σ)
  | [], s => .ok s
  | c :: rest, s =>
    match g.short? c with
    | none => .error .unknownArgument
    | some (.flag set) => do readShort rest (← s.after set)
    | some (.value take) =>
      match rest with
      | [] => s.suspend ⟨take, none⟩
      | '=' :: v => s.after (take (String.ofList v))
      | v => s.after (take (String.ofList v))

/-- Reads arguments, of which those before may have ended the options and used up operands. The
answer holds the subcommand that ends them, with the arguments after it. -/
def gather : List String → Bool → List (String → σ → Except UsageFault σ) → Gathered σ →
    Except UsageFault (Gathered σ × Option (String × List String))
  | [], _, _, s => .ok (s, none)
  | a :: rest, escaped, operands, s =>
    let operand : Except UsageFault (Gathered σ × Option (String × List String)) :=
      match operands with
      | [] => .error (g.stray escaped a)
      | take :: operands => do gather rest escaped operands (← s.suspend ⟨take, some a⟩)
    if escaped then operand
    else if !s.awaits && g.isCommand a then .ok (s, some (a, rest))
    else match Argument.ofText a with
      | .escape => gather rest true operands s
      | .long name value => do gather rest false operands (← g.readLong name value s)
      | .short letters => do gather rest false operands (← g.readShort letters s)
      | .plain => if s.awaits then gather rest false operands (s.supply a) else operand

/-- Reads the arguments of a command. -/
def read (args : List String) (initial : σ) :
    Except UsageFault (Gathered σ × Option (String × List String)) :=
  g.gather args false g.operands ⟨initial, none⟩

end Grammar

end TagCatalog.CommandLine
