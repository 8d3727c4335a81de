import TagCatalog.Files
import TagCatalog.Text.Quoted
import TagCatalog.Upkeep.Constants

/-!
The chores that keep the project in order, each a few runs of the build tool.

* `Workshop`: what chores find around them: how runs of the build tool end, and files.
* `Chore`: a chore; what was said and run before a failure stays so.
* `perform`: the chore that a command line asks for, or help.
-/

namespace TagCatalog.Upkeep

/-- How a run of the build tool ends. -/
inductive ToolOutcome
  | succeeded
  | failed
  /-- There is no such tool. -/
  | absent
  deriving Repr, DecidableEq

/-- What chores find around them. -/
structure Workshop where
  /-- How a run of the build tool ends, counted from one. -/
  tool : Nat → ToolOutcome
  /-- The bytes of the file of a name, if there is one. -/
  file : String → Option Bytes

/-- Why a chore failed. -/
inductive ChoreError
  | notRun (args : List String)
  | failed (args : List String)
  | noTarget
  | unknownTarget (target : String)
  | fuzzNotRun
  | fuzzFailed (target : String)
  | unreadable (path : String)
  | disagreement (d : Disagreement)
  deriving Repr, DecidableEq

/-- The programs that can be run on made-up inputs. -/
def fuzzTargets : List String :=
  ["search_response", "vli_codec", "table_response", "record_builder"]

/-- Texts in quotes, in brackets. -/
def quotedList (l : List String) : String := "[" ++ ", ".intercalate (l.map Text.quoted) ++ "]"

/-- The wording of an error. -/
def ChoreError.message : ChoreError → String
  | notRun args => "Failed to run cargo " ++ quotedList args
  | failed args => "cargo " ++ quotedList args ++ " failed"
  | noTarget => "fuzz needs a target name"
  | unknownTarget target =>
    "unknown fuzz target '" ++ target ++ "', expected one of: " ++ ", ".intercalate fuzzTargets
  | fuzzNotRun => "Failed to run cargo fuzz (is cargo-fuzz installed?)"
  | fuzzFailed target => "fuzz target " ++ target ++ " failed"
  | unreadable path => "Failed to read " ++ path
  | disagreement d => d.message

/-- What was done so far. -/
structure Progress where
  /-- The lines said. -/
  said : List String
  /-- The arguments of each run of the build tool. -/
  runs : List (List String)
  deriving Repr, DecidableEq

/-- Chores. -/
abbrev Chore (α : Type) := ExceptT ChoreError (StateM Progress) α

namespace Chore

/-- Says some lines. -/
def say (lines : List String) : Chore Unit := modify fun p => { p with said := p.said ++ lines }

/-- Runs the build tool, and fails in one of two ways. -/
def runTool (w : Workshop) (args : List String) (notRun failed : ChoreError) : Chore Unit := do
  match w.tool ((← get).runs.length + 1) with
  | .absent => throw notRun
  | .succeeded => modify fun p => { p with runs := p.runs ++ [args] }
  | .failed =>
    modify fun p => { p with runs := p.runs ++ [args] }
    throw failed

/-- Runs the build tool. -/
def run (w : Workshop) (args : List String) : Chore Unit :=
  runTool w args (.notRun args) (.failed args)

/-- The text of a file. -/
def read (w : Workshop) (path : String) : Chore String :=
  match textOfFile (w.file path) with
  | .ok text => pure text
  | .error _ => throw (.unreadable path)

/-- Compares the bits that the code defines with those in the documents. -/
def compareConstants (w : Workshop) : Chore Unit := do
  let code ← read w "src/wire/header.rs"
  let document ← read w "README.md"
  match disagreement? code document with
  | some d => throw (.disagreement d)
  | none => return

/-- A line of equals signs. -/
def rule : String := "".pushn '=' 42

/-- Everything that has to hold. -/
def verify (w : Workshop) : Chore Unit := do
  say [rule, "tagstorm Verification Suite", rule, ""]
  say ["[1/4] Running Rust tests..."]
  run w ["test", "--quiet"]
  say ["✓ All Rust tests passed", ""]
  say ["[2/4] Building without the http feature..."]
  run w ["check", "--quiet", "--lib", "--no-default-features"]
  say ["✓ Codec-only build passes", ""]
  say ["[3/4] Running clippy..."]
  run w ["clippy", "--quiet", "--all-targets", "--", "-D", "warnings"]
  say ["✓ Clippy passed", ""]
  say ["[4/4] Verifying wire constants against README..."]
  compareConstants w
  say ["✓ Constants aligned", ""]
  say [rule, "✓ ALL VERIFICATION CHECKS PASSED", rule]

/-- What can be checked in little time. -/
def check (w : Workshop) : Chore Unit := do
  say ["Running quick checks...", ""]
  say ["[1/3] cargo check..."]
  run w ["check", "--all-targets"]
  say ["[2/3] cargo check --no-default-features..."]
  run w ["check", "--lib", "--no-default-features"]
  say ["[3/3] cargo clippy..."]
  run w ["clippy", "--quiet", "--", "-D", "warnings"]
  say ["", "✓ Quick checks passed"]

/-- Runs a program on made-up inputs for some seconds. -/
def fuzz (w : Workshop) (target seconds : String) : Chore Unit :=
  if target ∈ fuzzTargets then
    runTool w ["+nightly", "fuzz", "run", target, "--", "-max_total_time=" ++ seconds] .fuzzNotRun
      (.fuzzFailed target)
  else throw (.unknownTarget target)

end Chore

/-- An account of the chores. -/
def help : List String :=
  ["", "cargo xtask <COMMAND>", "", "Commands:",
    "  verify            Run full verification suite (tests + clippy + wire constants)",
    "  test              Run all Rust tests",
    "  check             Quick check (with and without the http feature)",
    "  bench             Run benchmarks",
    "  fuzz <target> [s] Run a fuzz target for s seconds (default 60)", "",
    "Fuzz targets: " ++ ", ".intercalate fuzzTargets, ""]

/-- The chore that a command line asks for, or none if help is asked for. -/
def chore? (w : Workshop) : List String → Option (Chore Unit)
  | "verify" :: _ => some (Chore.verify w)
  | "test" :: _ => some (Chore.run w ["test"])
  | "check" :: _ => some (Chore.check w)
  | "bench" :: _ => some (Chore.run w ["bench"])
  | ["fuzz"] => some (throw .noTarget)
  | ["fuzz", target] => some (Chore.fuzz w target "60")
  | "fuzz" :: target :: seconds :: _ => some (Chore.fuzz w target seconds)
  | _ => none

/-- What is left behind after a command line was answered. -/
structure Account where
  exit : Nat
  said : List String
  /-- What is told beside that: help, or an error. -/
  notes : List String
  runs : List (List String)
  deriving Repr, DecidableEq

/-- Does what a command line asks for. -/
def perform (args : List String) (w : Workshop) : Account :=
  match chore? w args with
  | none => ⟨0, [], help, []⟩
  | some chore =>
    match chore ⟨[], []⟩ with
    | (.ok (), p) => ⟨0, p.said, [], p.runs⟩
    | (.error e, p) => ⟨1, p.said, ["Error: " ++ e.message], p.runs⟩

end TagCatalog.Upkeep
