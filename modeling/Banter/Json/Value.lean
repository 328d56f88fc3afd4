import Banter.Text.CodePoint

/-! JSON data. Integers are exact, objects keep the order of their keys. -/
namespace Banter.Json

open Banter.Text (CodePoint)

inductive Value where
  | null
  | bool (b : Bool)
  | int (n : Int)
  | float (x : Float)
  | str (s : List CodePoint)
  | arr (items : List Value)
  | obj (fields : List (List CodePoint × Value))
  deriving Inhabited

namespace Value

def text (s : String) : Value :=
  .str (CodePoint.ofString s)

def record (fields : List (String × Value)) : Value :=
  .obj (fields.map fun (key, value) => (CodePoint.ofString key, value))

end Value

/-- Give a key a value. A key that is there already keeps its place. -/
def assign {α β : Type} [DecidableEq α] (fields : List (α × β)) (key : α) (value : β) :
    List (α × β) :=
  if fields.any (·.1 = key) then fields.map fun f => if f.1 = key then (key, value) else f
  else fields ++ [(key, value)]

def assignAll {α β : Type} [DecidableEq α] (pairs : List (α × β)) : List (α × β) :=
  pairs.foldl (fun fields pair => assign fields pair.1 pair.2) []

def Value.field? (fields : List (List CodePoint × Value)) (key : String) : Option Value :=
  fields.lookup (CodePoint.ofString key)

end Banter.Json
