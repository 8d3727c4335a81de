import TagCatalog.CommandLine.Process
import TagCatalog.Exchange.Address

/-!
The program: answers its command line. It has no network of its own, so requests that could be sent
fail to connect.
-/

namespace TagCatalog.CommandLine

/-- The names that the surroundings may give values to. -/
def environmentNames : List String :=
  ["TAGSTORM_API_URL", "TAGSTORM_TOKEN", "TAGSTORM_THEME", "COLORFGBG", "NO_COLOR", "RUST_LOG"]

/-- The bytes of a file, if it can be read. -/
def readFile? (name : String) : IO (Option Bytes) := do
  try
    return some (← IO.FS.readBinFile name).toList
  catch _ => return none

end TagCatalog.CommandLine

open TagCatalog TagCatalog.CommandLine

/-- Answers the command line. -/
def main (args : List String) : IO UInt32 := do
  let values ← environmentNames.mapM fun name => do return (name, ← IO.getEnv name)
  let env : Environment := fun name => (values.lookup name).join
  let names := match Invocation.parse args env with
    | .ok i => i.files
    | .error _ => []
  let files ← names.mapM fun name => do return (name, ← readFile? name)
  let surroundings : Surroundings :=
    ⟨env, fun name => (files.lookup name).join, ← (← IO.getStdout).isTty⟩
  let report := respond args surroundings .plain (.fresh [] (.failing Request.offlineFailure))
  for line in report.output do IO.println line
  for line in report.notes do IO.eprintln line
  return UInt32.ofNat report.exit
