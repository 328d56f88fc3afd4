import Banter.Json.Value

/-! How often each of the most recent partners was answered. -/
namespace Banter.Activity

/-- Two books on the same partners. -/
structure Ledger where
  answers : List (String × Nat)
  /-- The partners in the order in which they came, the oldest first. -/
  names : List String
  deriving DecidableEq, Repr

namespace Ledger

def capacity : Nat := 10

def empty : Ledger := ⟨[], []⟩

/-- Strike out the oldest partners, in both books, until the rest fit. -/
def evict (answers : List (String × Nat)) : List String → Ledger
  | [] => ⟨answers, []⟩
  | oldest :: rest =>
    if capacity < (oldest :: rest).length then evict (answers.filter (·.1 ≠ oldest)) rest
    else ⟨answers, oldest :: rest⟩

/-- Count one more answer for a partner. A newcomer goes to the end and may push out the oldest. -/
def record (l : Ledger) (name : String) : Ledger :=
  let answers := Json.assign l.answers name ((l.answers.lookup name).getD 0 + 1)
  if name ∈ l.names then { l with answers := answers } else evict answers (l.names ++ [name])

def pushedOut (l : Ledger) (name : String) : List String :=
  if name ∈ l.names then [] else l.names.take (l.names.length + 1 - capacity)

end Ledger
end Banter.Activity
