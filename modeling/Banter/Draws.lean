import Banter.Number.Binary64

/-!
A source of random numbers that can be replayed: a script of draws from the unit interval, and
after it a fixed cycle. Integers are drawn from it without bias.
-/
namespace Banter

structure Draws where
  script : List Float
  /-- How far the cycle has run. -/
  cycled : Nat
  used : Nat

namespace Draws

def ofScript (script : List Float) : Draws := ⟨script, 0, 0⟩

def cycleLength : Nat := 16

/-- A walk through the sixteenths that visits each of them. -/
def cycle (n : Nat) : Float :=
  Float.ofNat ((7 * n + 3) % cycleLength) / Float.ofNat cycleLength

def next (d : Draws) : Float × Draws :=
  match d.script with
  | x :: rest => (x, { d with script := rest, used := d.used + 1 })
  | [] => (cycle d.cycled, { d with cycled := d.cycled + 1, used := d.used + 1 })

/-- Draws are multiples of two to the minus this. -/
def precision : Nat := 53

/-- Draws are counted in units of one over this. -/
def units : Nat := Nat.pow 2 precision

/-- Draws from here on would favour small numbers below `n`. -/
def fairLimit (n : Nat) : Float :=
  Float.ofNat (units - units % n) / Float.ofNat units

/-- Attempts after which every number of the cycle has been seen. -/
def patience (d : Draws) : Nat :=
  d.script.length + cycleLength

def belowWithin (n : Nat) : Nat → Draws → Nat × Draws
  | 0, d => (0, d)
  | attempts + 1, d =>
    let (x, d) := d.next
    if fairLimit n ≤ x then belowWithin n attempts d
    else ((Binary64.floorScaled precision x % n).toNat, d)

/-- An integer below `n`. Draws that would favour small numbers are passed over. -/
def below (n : Nat) (d : Draws) : Nat × Draws :=
  belowWithin n d.patience d

end Draws
end Banter
