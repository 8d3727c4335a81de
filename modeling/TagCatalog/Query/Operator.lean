import TagCatalog.Image.TagDictionary
import TagCatalog.Json.Shape

/-!
Filters over images.

* `Operator.allOf`, `Operator.anyOf`: many filters as one, paired up so that the result is as
  shallow as can be.
* `Operator.depth`, `Operator.tooDeep?`: how deep a filter nests, and whether the service takes it.
* `Operator.toJson`, `Operator.shape`: a filter as an object of one member.
-/

namespace TagCatalog

/-- A filter over images. -/
inductive Operator
  | not (inner : Operator)
  | and (left right : Operator)
  | or (left right : Operator)
  | tag (id : TagId)
  /-- An attribute with a given value, or with any. -/
  | hasAttribute (key : String) (value : Option String)
  | minId (id : UInt64)
  | maxId (id : UInt64)
  deriving Repr, DecidableEq

namespace Operator

instance : Inhabited Operator := ⟨.tag 0⟩

/-- The deepest nesting that the service takes; a filter without parts has depth zero. -/
def maxDepth : Nat := 5

/-- How deep a filter nests. -/
def depth : Operator → Nat
  | not inner => 1 + inner.depth
  | and l r | or l r => 1 + max l.depth r.depth
  | tag _ | hasAttribute _ _ | minId _ | maxId _ => 0

/-- The depth of a filter that nests deeper than the service takes. -/
def tooDeep? (op : Operator) : Option Nat :=
  if maxDepth < op.depth then some op.depth else none

/-- The wording for a filter of too great a depth. -/
def tooDeepMessage (depth : Nat) : String :=
  "operator nested " ++ toString depth ++ " levels deep, limit is " ++ toString maxDepth

/-! ### Many filters as one -/

/-- Neighbours joined two by two; a last one without neighbour stays. -/
def pairUp (join : Operator → Operator → Operator) : List Operator → List Operator
  | left :: right :: rest => join left right :: pairUp join rest
  | rest => rest

/-- Joining neighbours makes no list longer. -/
theorem length_pairUp_le (join : Operator → Operator → Operator) (l : List Operator) :
    (pairUp join l).length ≤ l.length := by
  fun_induction pairUp join l with
  | case1 left right rest ih => simp only [List.length_cons]; omega
  | case2 => exact Nat.le_refl _

/-- Neighbours joined until one filter is left. -/
def balanced (join : Operator → Operator → Operator) : List Operator → Option Operator
  | [] => none
  | [op] => some op
  | left :: right :: rest => balanced join (join left right :: pairUp join rest)
termination_by l => l.length
decreasing_by
  have := length_pairUp_le join rest
  simp only [List.length_cons]
  omega

/-- The filter that wants all of a list. -/
def allOf (l : List Operator) : Option Operator := balanced and l

/-- The filter that wants any of a list. -/
def anyOf (l : List Operator) : Option Operator := balanced or l

/-! ### Text and JSON -/

/-- A filter as shown to a reader. -/
def render : Operator → String
  | not inner => "NOT " ++ inner.render
  | and l r => "(" ++ l.render ++ " AND " ++ r.render ++ ")"
  | or l r => "(" ++ l.render ++ " OR " ++ r.render ++ ")"
  | tag id => "tag:" ++ toString id.toNat
  | hasAttribute key (some value) => key ++ "=" ++ value
  | hasAttribute key none => key ++ "=*"
  | minId id => "id>=" ++ toString id.toNat
  | maxId id => "id<=" ++ toString id.toNat

/-- A filter as an object of one member, named for the kind of filter. -/
def toJson : Operator → Json
  | not inner => .object [("not", inner.toJson)]
  | and l r => .object [("and", .list [l.toJson, r.toJson])]
  | or l r => .object [("or", .list [l.toJson, r.toJson])]
  | tag id => .object [("tag", .ofNat id.toNat)]
  | hasAttribute key value => .object [("attribute", .list [.text key, .ofOption .text value])]
  | minId id => .object [("minid", .ofNat id.toNat)]
  | maxId id => .object [("maxid", .ofNat id.toNat)]

/-- Reads a filter. The object and the list of its parts each count toward the depth of the
text. -/
def shape : Shape Operator
  | room + 1, .object [(name, j)] =>
    if name = "not" then not <$> shape room j
    else if name = "tag" then tag <$> Shape.word64 room j
    else if name = "minid" then minId <$> Shape.word64 room j
    else if name = "maxid" then maxId <$> Shape.word64 room j
    else match room, j with
      | room + 1, .list [a, b] =>
        if name = "and" then do return and (← shape room a) (← shape room b)
        else if name = "or" then do return or (← shape room a) (← shape room b)
        else if name = "attribute" then do
          return hasAttribute (← Shape.text room a) (← Shape.optional Shape.text room b)
        else none
      | _, _ => none
  | _, _ => none

end Operator

end TagCatalog
