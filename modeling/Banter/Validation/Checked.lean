import Banter.Json.Value
import Banter.Validation.Issue

/-! Checking data field by field. All issues are found, in the order of the fields. -/
namespace Banter.Validation

abbrev Checked (α : Type) := Except (List Issue) α

abbrev Fields := List (List Text.CodePoint × Json.Value)

namespace Checked

variable {α : Type}

def complain (c : Complaint) : Checked α :=
  .error [⟨[], c⟩]

/-- Issues of nested data, seen from outside. -/
def within (p : Place) : Checked α → Checked α
  | .ok a => .ok a
  | .error issues => .error (issues.map fun i => { i with place := p :: i.place })

end Checked

/-- One more checked argument for a function. The issues of the arguments before it come first. -/
def alongside {α β : Type} (x : Checked α) (f : Checked (α → β)) : Checked β :=
  match f, x with
  | .ok f, .ok a => .ok (f a)
  | .ok _, .error issues => .error issues
  | .error issues, .ok _ => .error issues
  | .error issues, .error more => .error (issues ++ more)

/-- The first of the names under which a value is given. -/
def given? (fields : Fields) (names : List String) : Option (String × Json.Value) :=
  names.findSome? fun name => (Json.Value.field? fields name).map fun v => (name, v)

/-- A field that has to be there. Its absence is reported under the first name. -/
def required {α : Type} (names : List String) (check : Json.Value → Checked α)
    (fields : Fields) : Checked α :=
  match given? fields names with
  | some (name, v) => Checked.within (.key name) (check v)
  | none => .error [⟨(names.take 1).map .key, .missing⟩]

def optional {α : Type} (names : List String) (default : α) (check : Json.Value → Checked α)
    (fields : Fields) : Checked α :=
  match given? fields names with
  | some (name, v) => Checked.within (.key name) (check v)
  | none => .ok default

def checkItems {α : Type} (check : Json.Value → Checked α) :
    Nat → List Json.Value → Checked (List α)
  | _, [] => .ok []
  | i, v :: rest =>
    (Checked.within (.index i) (check v)).map List.cons |> alongside (checkItems check (i + 1) rest)

end Banter.Validation
