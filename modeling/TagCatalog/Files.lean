import TagCatalog.Json.Flaw
import TagCatalog.Text.Utf8

/-!
Files as their bytes, and what may be wrong with them.

* `textOfFile`: the text of a file.
* `Wording`: how faults of files and of JSON texts are told.
-/

namespace TagCatalog

/-- What keeps a file from being read as text. -/
inductive FileFault
  /-- There is no such file. -/
  | missing
  /-- The file is no text. -/
  | notText
  deriving Repr, DecidableEq

/-- The text in the bytes of a file, if there is one. -/
def textOfFile : Option Bytes → Except FileFault String
  | none => .error .missing
  | some bytes => match Utf8.decode? bytes with
    | some s => .ok s
    | none => .error .notText

/-- How faults of files and of JSON texts are told. -/
structure Wording where
  file : FileFault → String
  /-- The words for a JSON text, with what is wrong with it if that is known. -/
  json : Option Json.Diagnosis → String

namespace Wording

/-- Plain words. -/
def plain : Wording where
  file
    | .missing => "No such file or directory (os error 2)"
    | .notText => "stream did not contain valid UTF-8"
  json
    | some d => d.message
    | none => "unexpected JSON"

end Wording

end TagCatalog
