/-!
The log: events with a level, a target and named values.

* `LogEvent.line`: an event as written to the log.
-/

namespace TagCatalog

/-- How much an event matters, the most first. -/
inductive LogLevel
  | error
  | warn
  | info
  | debug
  | trace
  deriving Repr, DecidableEq

namespace LogLevel

/-- The place in the order, the most first. -/
def rank : LogLevel → Nat
  | error => 1
  | warn => 2
  | info => 3
  | debug => 4
  | trace => 5

/-- The word for a level. -/
def name : LogLevel → String
  | error => "ERROR"
  | warn => "WARN"
  | info => "INFO"
  | debug => "DEBUG"
  | trace => "TRACE"

end LogLevel

/-- An event of the log. -/
structure LogEvent where
  level : LogLevel
  /-- The part of the program that tells of it. -/
  target : String
  message : String
  /-- Names with the text of their values. -/
  fields : List (String × String)
  deriving Repr, DecidableEq

/-- An event as written to the log. -/
def LogEvent.line (e : LogEvent) : String :=
  e.level.name ++ " " ++ e.target ++ ": " ++ e.message ++
    String.join (e.fields.map fun f => " " ++ f.1 ++ "=" ++ f.2)

end TagCatalog
