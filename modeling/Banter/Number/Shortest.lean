import Banter.Number.Binary64

/-!
The shortest decimal that reads back as a given double: of the decimals with the fewest digits
that round to it, the one nearest to it.
-/
namespace Banter.Shortest

/-- A positive rational with the ends of the interval that rounds to it, all over one
denominator. -/
structure Target where
  low : Nat
  value : Nat
  high : Nat
  denominator : Nat
  closed : Bool

def Target.ofMagnitude (m : Magnitude) : Target :=
  let e := m.exponent - 2
  let up := Nat.pow 2 e.toNat
  ⟨(4 * m.significand - if m.lowest then 1 else 2) * up, 4 * m.significand * up,
    (4 * m.significand + 2) * up, Nat.pow 2 (-e).toNat, m.significand % 2 == 0⟩

def digitCount (n : Nat) : Nat := (Nat.toDigits 10 n).length

def Target.leading (t : Target) : Int :=
  if t.denominator ≤ t.value then digitCount (t.value / t.denominator) - 1
  else -digitCount ((t.denominator + t.value - 1) / t.value - 1)

/-- Does `n * 10 ^ place` round to the target? -/
def Target.admits (t : Target) (place : Int) (n : Nat) : Bool :=
  let x := n * t.denominator * Nat.pow 10 place.toNat
  let scale := Nat.pow 10 (-place).toNat
  if t.closed then t.low * scale ≤ x && x ≤ t.high * scale
  else t.low * scale < x && x < t.high * scale

def Target.below (t : Target) (place : Int) : Nat :=
  t.value * Nat.pow 10 (-place).toNat / (t.denominator * Nat.pow 10 place.toNat)

/-- Is the upper neighbour nearer? An exact tie goes to the even one. -/
def Target.upperNearer (t : Target) (place : Int) (n : Nat) : Bool :=
  let twice := 2 * t.value * Nat.pow 10 (-place).toNat
  let middle := (2 * n + 1) * t.denominator * Nat.pow 10 place.toNat
  middle < twice || (middle == twice && n % 2 == 1)

/-- The better of the two neighbours on a grid, if one of them rounds to the target. -/
def Target.onGrid (t : Target) (place : Int) : Option Nat :=
  let n := t.below place
  match t.admits place n, t.admits place (n + 1) with
  | true, true => some (if t.upperNearer place n then n + 1 else n)
  | true, false => some n
  | false, true => some (n + 1)
  | false, false => none

/-- Try grids of more and more digits, `count` of them. -/
def Target.search (t : Target) : Nat → Int → Nat × Int
  | 0, place => (t.below place, place)
  | count + 1, place =>
    match t.onGrid place with
    | some n => (n, place)
    | none => t.search count (place - 1)

/-- The digits, and where the point stands relative to the first of them. -/
def decimal (m : Magnitude) : List Char × Int :=
  let t := Target.ofMagnitude m
  let (n, place) := t.search 17 t.leading
  let digits := Nat.toDigits 10 n
  ((digits.reverse.dropWhile (· == '0')).reverse, digits.length + place)

structure Style where
  /-- Positional notation is for points from here on. -/
  pointFrom : Int
  /-- And up to here. -/
  pointTo : Int
  exponentMark : Char
  exponentDigits : Nat
  infinity : List Char
  notANumber : List Char

/-- Positional from 10 ^ -4 up to 10 ^ 16, always with a point; else an exponent of two digits. -/
def plainStyle : Style :=
  ⟨-3, 16, 'e', 2, "inf".toList, "nan".toList⟩

def positional (digits : List Char) (point : Int) : List Char :=
  if point ≤ 0 then "0.".toList ++ List.replicate (-point).toNat '0' ++ digits
  else
    let n := point.toNat
    let fraction := digits.drop n
    digits.take n ++ List.replicate (n - digits.length) '0' ++ '.' ::
      (if fraction.isEmpty then ['0'] else fraction)

def scientific (style : Style) (digits : List Char) (point : Int) : List Char :=
  let power := (Nat.toDigits 10 (point - 1).natAbs)
  digits.take 1 ++ (if digits.length ≤ 1 then [] else '.' :: digits.drop 1) ++
    style.exponentMark :: (if point - 1 < 0 then '-' else '+') ::
      (List.replicate (style.exponentDigits - power.length) '0' ++ power)

def write (style : Style) (x : Float) : List Char :=
  if x.isNaN then style.notANumber
  else
    let sign := if Binary64.negative x then ['-'] else []
    if x.isInf then sign ++ style.infinity
    else
      let m := Binary64.magnitude x
      if m.significand = 0 then sign ++ "0.0".toList
      else
        let (digits, point) := decimal m
        sign ++ if style.pointFrom ≤ point ∧ point ≤ style.pointTo then positional digits point
          else scientific style digits point

end Banter.Shortest
