import TagCatalog.Log
import TagCatalog.Number.Reading
import TagCatalog.Text.Alphanumeric
import TagCatalog.Text.Blank

/-!
Which events of the log are written.

* `LogRule`: up to which level certain events are written. `LogRule.parse` reads one.
* `LogFilter.admits`: whether an event is written: the closest of the rules that bear on it decides.
* `LogFilter.ofRequest`: the rules that a text gives, or those for the detail asked for, and the
  texts of rules that cannot be read.
-/

namespace TagCatalog

/-- Which events are written. -/
structure LogRule where
  /-- The part of the program, by how its name and those of its own parts begin. -/
  target : Option String := none
  /-- The activity in which they occur. -/
  activity : Option String := none
  /-- The name of a value that they carry. -/
  field : Option String := none
  /-- Whether that value is to be a certain one. -/
  isValued : Bool := false
  /-- The rank of the level up to which they are written. -/
  rank : Nat := LogLevel.trace.rank
  deriving Repr, DecidableEq

/-- Why a rule cannot be read. -/
inductive LogRuleFault
  | form
  | level
  deriving Repr, DecidableEq

/-- The wording of a fault. -/
def LogRuleFault.message : LogRuleFault → String
  | .form => "invalid filter directive"
  | .level => "error parsing level filter: expected one of \"off\", \"error\", \"warn\", " ++
      "\"info\", \"debug\", \"trace\", or a number 0-5"

namespace LogRule

/-! ### Reading -/

/-- The rank that a word in any case, or a number, stands for. -/
def rank? (s : String) : Option Nat :=
  match Number.parse? 10 UInt64.size s with
  | some n => if n ≤ LogLevel.trace.rank then some n else none
  | none => [("off", 0), ("error", 1), ("warn", 2), ("info", 3), ("debug", 4), ("trace", 5)].lookup
      s.toLower

/-- The rule with the rank that a text tells; with none, everything is written. -/
def withRank (r : LogRule) (s : String) : Except LogRuleFault LogRule :=
  if s.isEmpty then .ok r
  else match rank? s with
    | some rank => .ok { r with rank }
    | none => .error .level

/-- The rule with the name of a value, and whether it is to be a certain one. -/
def withField (r : LogRule) (s : String) : LogRule :=
  { r with field := some ((s.splitOn "=").headD ""), isValued := s.contains '=' }

/-- Whether a rule may begin with a character. -/
def isStart (c : Char) : Bool := c ∈ ['[', '-', ':', '_'] || Text.isAlphanumeric c

/-- Reads a rule: a rank, or a part of the program, an activity in brackets and in it the name of a
value in braces, each of which may be absent, and an equals sign and a rank. The places of these are
found in the text without blanks around it, and then taken from the text as it is. -/
def parse (text : String) : Except LogRuleFault LogRule :=
  let trimmed := (Text.trim text).toList
  let after (place : Nat) : String := String.ofList (text.toList.drop (place + 1))
  let between (place next : Nat) : String :=
    String.ofList ((text.toList.drop place).take (next - place))
  let lengthTo (stops : List Char) (place : Nat) : Nat :=
    place + ((trimmed.drop place).takeWhile (!stops.contains ·)).length
  let close (r : LogRule) (place : Nat) : Except LogRuleFault LogRule :=
    match trimmed[place]? with
    | none => .ok r
    | some '=' => r.withRank (after place)
    | _ => .error .form
  if !trimmed.head?.any isStart then .error .form
  else
    let a := lengthTo ['=', '['] 0
    let target := if a = 0 then none else some (between 0 a)
    match trimmed[a]? with
    | none =>
      match rank? text with
      | some rank => .ok { rank }
      | none => .ok { target := some text }
    | some '[' =>
      let b := lengthTo [']', '\x7b'] (a + 1)
      let activity := between (a + 1) b
      match trimmed[b]? with
      | none => .error .form
      | some ']' => close { target, activity := some activity } (b + 1)
      | _ =>
        let c := lengthTo ['\x7d'] (b + 1)
        if c = b + 1 ∨ trimmed[c]? ≠ some '\x7d' ∨ trimmed[c + 1]? ≠ some ']' then .error .form
        else
          let activity := if activity.isEmpty then none else some activity
          close (withField { target, activity } (between (b + 1) c)) (c + 2)
    | _ => withRank { target } (after a)

/-! ### Events -/

/-- Whether a rule bears on an event. No event occurs in an activity, and of a value that is to be a
certain one it is known within activities alone. -/
def bearsOn (r : LogRule) (e : LogEvent) : Bool :=
  r.target.all (·.isPrefixOf e.target) && r.activity.isNone && !r.isValued &&
    r.field.all fun f => f = "message" || e.fields.any (·.1 = f)

/-- Whether a rule is closer to what it bears on than another: by a longer target, or by the name of
a value. -/
def isCloser (r other : LogRule) : Bool :=
  let length (r : LogRule) : Nat := (r.target.map fun t => t.utf8ByteSize + 1).getD 0
  if length r ≠ length other then length other < length r
  else match r.field, other.field with
    | some f, some g => g < f
    | some _, none => true
    | none, _ => false

end LogRule

/-- Which events are written. -/
abbrev LogFilter := List LogRule

namespace LogFilter

/-- The rule that decides on an event: the closest, and of several the last. -/
def rule? (f : LogFilter) (e : LogEvent) : Option LogRule :=
  (f.filter (·.bearsOn e)).foldl (fun best r => match best with
    | some b => if b.isCloser r then some b else some r
    | none => some r) none

/-- Whether an event is written. -/
def admits (f : LogFilter) (e : LogEvent) : Bool :=
  (f.rule? e).any fun r => e.level.rank ≤ r.rank

/-- Warnings and errors, and one level more each time more detail was asked for. -/
def ofVerbosity (verbose : Nat) : LogFilter :=
  [{ rank := min (LogLevel.warn.rank + verbose) LogLevel.trace.rank }]

/-- Reads rules with commas between, and tells which cannot be read. Without any, errors alone are
written. -/
def parse (s : String) : LogFilter × List String :=
  let texts := (s.splitOn ",").filter (· ≠ "")
  let rules := texts.filterMap fun t => (LogRule.parse t).toOption
  let notes := texts.filterMap fun t => match LogRule.parse t with
    | .ok _ => none
    | .error e => some ("ignoring \x60" ++ t ++ "\x60: " ++ e.message)
  (if rules.isEmpty then [{ rank := LogLevel.error.rank }] else rules, notes)

/-- The rules that a text asks for, or without one those for the detail asked for, and the notes on
the text. -/
def ofRequest (text : Option String) (verbose : Nat) : LogFilter × List String :=
  match text with
  | some s => parse s
  | none => (ofVerbosity verbose, [])

end LogFilter

end TagCatalog
