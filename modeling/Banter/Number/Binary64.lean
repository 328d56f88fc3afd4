/-! The value of a double, read off its bits. -/
namespace Banter

/-- A finite magnitude, `significand * 2 ^ exponent`. The lowest of its binade has a closer
neighbour below than above. -/
structure Magnitude where
  significand : Nat
  exponent : Int
  lowest : Bool

namespace Binary64

def fieldBits (x : Float) : Nat := x.toBits.toNat

def negative (x : Float) : Bool :=
  Nat.pow 2 63 ≤ fieldBits x

def magnitude (x : Float) : Magnitude :=
  let fraction : Nat := fieldBits x % Nat.pow 2 52
  let biased : Nat := fieldBits x / Nat.pow 2 52 % Nat.pow 2 11
  if biased = 0 then ⟨fraction, -1074, false⟩
  else ⟨Nat.pow 2 52 + fraction, (biased : Int) - 1075, fraction == 0 && 1 < biased⟩

/-- The integer nearest to zero that a finite double is or exceeds, by magnitude. -/
def truncate (x : Float) : Int :=
  let m := magnitude x
  let whole := if 0 ≤ m.exponent then m.significand * Nat.pow 2 m.exponent.toNat
    else m.significand / Nat.pow 2 (-m.exponent).toNat
  if negative x then -(whole : Int) else whole

def isWhole (x : Float) : Bool :=
  let m := magnitude x
  0 ≤ m.exponent || m.significand % Nat.pow 2 (-m.exponent).toNat == 0

/-- The greatest integer not above `x * 2 ^ scale`, for a finite `x`. -/
def floorScaled (scale : Nat) (x : Float) : Int :=
  let m := magnitude x
  let e := m.exponent + scale
  let signed : Int := if negative x then -m.significand else m.significand
  if 0 ≤ e then signed * Nat.pow 2 e.toNat else signed / Nat.pow 2 (-e).toNat

end Binary64
end Banter
