import TagCatalog.CommandLine.Run
import TagCatalog.Log.Filter

/-!
The program as a whole: a command line in, lines of output and an exit status out.

* `Report`: what the program leaves behind.
* `Invocation.files`: the files that have to be at hand to run a command.
* `respond`: reads a command line and runs the command. The log comes before what the command tells
  beside its output, and that before an error.
-/

namespace TagCatalog.CommandLine

/-- What the program leaves behind. -/
structure Report where
  exit : Nat
  output : List String
  /-- What is told beside the output: the log, notes, and an error. -/
  notes : List String
  deriving Repr, DecidableEq

/-- The name and version of the program. -/
def versionLine : String := "tagstorm 0.4.0"

/-- A short account of the command line. -/
def usage : String :=
  "Usage: tagstorm [OPTIONS] <inspect|search|tags|image|logs>\n\n" ++
  "Options: --config <FILE>, --api-url <URL>, --token <TOKEN>, -v, -h, -V"

/-- What the program leaves behind when the command line names no command to run. -/
def refusal : UsageFault → Report
  | .helpAsked => ⟨0, [usage], []⟩
  | .versionAsked => ⟨0, [versionLine], []⟩
  | _ => ⟨2, [], [usage]⟩

/-- The names of the files that a command reads. -/
def Invocation.files (i : Invocation) : List String :=
  i.common.config.toList ++ match i.command with
    | .inspect args => args.file :: args.tags.toList
    | _ => []

/-- What the program leaves behind after running a command. -/
def Invocation.report (i : Invocation) (s : Surroundings) (w : Wording) (net : Network) : Report :=
  let (result, net) := i.run s net
  let (filter, faults) := LogFilter.ofRequest (s.env "RUST_LOG") i.common.verbose
  let log := faults ++ (net.log.filter filter.admits).map LogEvent.line
  match result with
  | .ok printed => ⟨0, printed.output, log ++ printed.notes⟩
  | .error e => ⟨1, [], log ++ ["❌ " ++ e.message w]⟩

/-- Answers a command line. -/
def respond (args : List String) (s : Surroundings) (w : Wording) (net : Network) : Report :=
  match Invocation.parse args s.env with
  | .error fault => refusal fault
  | .ok i => i.report s w net

end TagCatalog.CommandLine
