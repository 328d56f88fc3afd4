import Banter.Activity.Snapshot
import Banter.Draws

/-! Which lines of a reply are said. -/
namespace Banter.Selection

def mostParts : Nat := 3

/-- Up to this many items are drawn from a pool; of more, indexes are drawn until they differ. -/
def poolLimit : Nat := 21

/-- Take `count` items of a pool. The last item takes the place of the one drawn. -/
def fromPool : Nat → List Nat → Draws → List Nat × Draws
  | 0, _, d => ([], d)
  | count + 1, pool, d =>
    let (j, d) := d.below pool.length
    match pool[j]?, pool.getLast? with
    | some x, some last =>
      let (chosen, d) := fromPool count (pool.set j last).dropLast d
      (x :: chosen, d)
    | _, _ => ([], d)

def freshIndex (n : Nat) (taken : List Nat) : Nat → Draws → Nat × Draws
  | 0, d => (((List.range n).find? fun i => !taken.contains i).getD 0, d)
  | attempts + 1, d =>
    let (j, d) := d.below n
    if taken.contains j then freshIndex n taken attempts d else (j, d)

def distinct (n : Nat) : Nat → List Nat → Draws → List Nat × Draws
  | 0, taken, d => (taken, d)
  | count + 1, taken, d =>
    let (j, d) := freshIndex n taken d.patience d
    distinct n count (j :: taken) d

/-- Distinct indexes below `n`. -/
def sample (n count : Nat) (d : Draws) : List Nat × Draws :=
  if n ≤ poolLimit then fromPool count (List.range n) d else distinct n count [] d

/-- The items at the given indexes, in their own order. -/
def pick {α : Type} (items : List α) (indexes : List Nat) : List α :=
  (items.zipIdx.filter fun (_, i) => indexes.contains i).map Prod.fst

/-- In a busy channel the first part alone; else one to three of them, in their own order. -/
def limitParts {α : Type} (parts : List α) (participants : Int) (d : Draws) : List α × Draws :=
  match parts with
  | [] => ([], d)
  | first :: _ =>
    if (Activity.quietLimit : Int) < participants then ([first], d)
    else
      let (extra, d) := d.below mostParts
      let count := min (1 + extra) parts.length
      if parts.length ≤ count then (parts, d)
      else
        let (chosen, d) := sample parts.length count d
        (pick parts chosen, d)

end Banter.Selection
