import TagCatalog.CommandLine.Command
import TagCatalog.Text.Quoted

/-!
The filter that the arguments of a search describe.

* `attributeFilter`: a key, or a key and a value with an equals sign between.
* `SearchArgs.filter`: all that is asked for, each thing once.
-/

namespace TagCatalog.CommandLine

/-- What is wrong with the description of an attribute. -/
inductive AttributeFault
  | emptyKey (description : String)
  | empty
  deriving Repr, DecidableEq

/-- The wording of a fault. -/
def AttributeFault.message : AttributeFault → String
  | emptyKey s => "attribute filter " ++ Text.quoted s ++ " has an empty key"
  | empty => "empty attribute filter"

/-- The filter for an attribute. The first equals sign ends the key. -/
def attributeFilter (s : String) : Except AttributeFault Operator :=
  let key := s.toList.takeWhile (· ≠ '=')
  match s.toList.dropWhile (· ≠ '=') with
  | [] => if key.isEmpty then .error .empty else .ok (.hasAttribute s none)
  | _ :: value =>
    if key.isEmpty then .error (.emptyKey s)
    else .ok (.hasAttribute (String.ofList key) (some (String.ofList value)))

/-- The filters that a search asks for: tags, tags that must not be there, attributes, and bounds
of the id. -/
def SearchArgs.terms (a : SearchArgs) : Except AttributeFault (List Operator) := do
  let attributes ← a.attributes.mapM attributeFilter
  return a.tags.map .tag ++ a.notTags.map (fun t => .not (.tag t)) ++ attributes ++
    a.minId.toList.map .minId ++ a.maxId.toList.map .maxId

/-- The filter that a search asks for, if any. -/
def SearchArgs.filter (a : SearchArgs) : Except AttributeFault (Option Operator) := do
  return Operator.allOf (← a.terms)

end TagCatalog.CommandLine
