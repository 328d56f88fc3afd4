/-! Decimal numerals and the doubles they denote. -/
namespace Banter.Decimal

def digitsValue (digits : List Char) : Nat :=
  digits.foldl (fun n c => 10 * n + (c.toNat - 48)) 0

def infinity : Float := 1.0 / 0.0

def notANumber : Float := 0.0 / 0.0

/-- The double nearest to `m * 10 ^ e`. Beyond 310 digits before the point it is infinite, and
below 10 ^ -330 it is zero. -/
def nearest (negative : Bool) (m : Nat) (e : Int) : Float :=
  let size : Int := (Nat.toDigits 10 m).length + e
  let x :=
    if m = 0 ∨ size < -330 then 0.0
    else if 310 < size then infinity
    else if 0 ≤ e then Float.ofScientific m false e.toNat
    else Float.ofScientific m true (-e).toNat
  if negative then -x else x

/-- A numeral with its point and exponent taken apart. -/
structure Numeral where
  negative : Bool
  whole : List Char
  fraction : List Char
  exponent : Int

def Numeral.value (n : Numeral) : Float :=
  nearest n.negative (digitsValue (n.whole ++ n.fraction)) (n.exponent - n.fraction.length)

def takeDigits (s : List Char) : List Char × List Char :=
  (s.takeWhile Char.isDigit, s.dropWhile Char.isDigit)

def takeExponent? (s : List Char) : Option (Int × List Char) :=
  let signed (negative : Bool) (t : List Char) : Option (Int × List Char) :=
    match takeDigits t with
    | ([], _) => none
    | (digits, rest) =>
      some (if negative then -(digitsValue digits : Int) else digitsValue digits, rest)
  match s with
  | c :: rest =>
    if c = 'e' ∨ c = 'E' then
      match rest with
      | '-' :: more => signed true more
      | '+' :: more => signed false more
      | _ => signed false rest
    else none
  | [] => none

/-- The words for numbers that have no numeral, in any case. -/
def ofWord (negative : Bool) (s : List Char) : Option Float :=
  let word := s.map Char.toLower
  if word = "inf".toList ∨ word = "infinity".toList then
    some (if negative then -infinity else infinity)
  else if word = "nan".toList then some notANumber
  else none

def ofUnsigned (negative : Bool) (s : List Char) : Option Float :=
  match ofWord negative s with
  | some x => some x
  | none =>
    let (whole, afterWhole) := takeDigits s
    let (fraction, afterFraction) := match afterWhole with
      | '.' :: rest => takeDigits rest
      | _ => ([], afterWhole)
    if whole.isEmpty && fraction.isEmpty then none
    else
      match (takeExponent? afterFraction).getD (0, afterFraction) with
      | (exponent, []) => some (Numeral.value ⟨negative, whole, fraction, exponent⟩)
      | _ => none

/-- A whole text as a number: an optional sign, then a numeral with digits before or after the
point, or one of the words. -/
def parse? : List Char → Option Float
  | '-' :: rest => ofUnsigned true rest
  | '+' :: rest => ofUnsigned false rest
  | s => ofUnsigned false s

end Banter.Decimal
