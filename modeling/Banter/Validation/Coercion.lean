import Banter.Json.Reader
import Banter.Number.Binary64
import Banter.Text.Blank
import Banter.Validation.Checked

/-! Reading plain data as the type that a field has. Numbers and truth values may come as text. -/
namespace Banter.Validation

open Banter.Json (Value)
open Banter.Text (CodePoint)

def asString : Value → Checked String
  | .str s => .ok (CodePoint.toString s)
  | _ => Checked.complain .notString

def readable (s : List CodePoint) : Checked (List Char) :=
  match CodePoint.chars? s with
  | some cs => .ok cs
  | none => Checked.complain .notUnicode

def trueWords : List String := ["true", "t", "yes", "y", "on", "1"]

def falseWords : List String := ["false", "f", "no", "n", "off", "0"]

def boolOfText (s : List Char) : Checked Bool :=
  let word := String.ofList (s.map Char.toLower)
  if trueWords.contains word then .ok true
  else if falseWords.contains word then .ok false
  else Checked.complain .badBool

def halfWord : Int := Nat.pow 2 63

def inWord (n : Int) : Bool :=
  -halfWord ≤ n && n < halfWord

def boolOfInt (n : Int) : Checked Bool :=
  if n = 0 then .ok false
  else if n = 1 then .ok true
  else if inWord n then Checked.complain .badBool
  else Checked.complain .notBool

def intOfFloat (x : Float) : Checked Int :=
  if !x.isFinite then Checked.complain .notFinite
  else if !Binary64.isWhole x then Checked.complain .fractional
  else
    let n := Binary64.truncate x
    if -halfWord < n ∧ n < halfWord then .ok n else Checked.complain .hugeInt

def asBool : Value → Checked Bool
  | .bool b => .ok b
  | .str s => readable s >>= boolOfText
  | .int n => boolOfInt n
  | .float x =>
    match intOfFloat x with
    | .ok n => boolOfInt n
    | .error _ => Checked.complain .notBool
  | _ => Checked.complain .notBool

/-- White space, without the information separators. -/
def isSpacing (c : Char) : Bool :=
  Text.isBlank c && !(0x1c ≤ c.toNat && c.toNat ≤ 0x1f)

def trimSpacing (s : List Char) : List Char :=
  ((s.dropWhile isSpacing).reverse.dropWhile isSpacing).reverse

/-- Single underscores inside a numeral do not count. -/
def dropUnderscores (s : List Char) : Option (List Char) :=
  let rec doubled : List Char → Bool
    | '_' :: '_' :: _ => true
    | _ :: rest => doubled rest
    | [] => false
  if s.head? = some '_' ∨ s.getLast? = some '_' ∨ doubled s then none
  else some (s.filter (· ≠ '_'))

/-- A point with zeros behind it does not count. Anything else behind a point is no integer. -/
def dropZeroFraction (s : List Char) : Option (List Char) :=
  match s.dropWhile (· ≠ '.') with
  | [] => some s
  | _ :: fraction =>
    if !fraction.isEmpty && fraction.all (· == '0') then some (s.takeWhile (· ≠ '.')) else none

/-- Behind a zero: further zeros and underscores do not count, unless nothing or a point comes
next. -/
def dropZerosAfter (last : Char) : List Char → Option (List Char)
  | [] => some [last]
  | c :: rest =>
    if c = '0' || c = '_' then dropZerosAfter c rest
    else if c = '.' then some (last :: c :: rest)
    else if c.isDigit || c = '-' then some (c :: rest)
    else none

/-- Zeros in front do not count. A sign may come behind them. -/
def dropLeadingZeros (s : List Char) : Option (List Char) :=
  match s with
  | [] => none
  | c :: rest =>
    if c = '0' then dropZerosAfter c rest
    else if c.isDigit || c = '-' then some s
    else none

/-- A plus sign does not count, but no other sign may follow it. -/
def dropPlus (s : List Char) : Option (List Char) :=
  match s with
  | '+' :: '-' :: _ => none
  | '+' :: rest => some rest
  | _ => some s

/-- A numeral without what does not count. No underscore may stand next to a sign. -/
def plainNumeral (s : List Char) : Option (List Char) := do
  let unmarked ← dropPlus (trimSpacing s)
  let short ← dropLeadingZeros unmarked
  let whole ← dropZeroFraction short
  match whole with
  | '-' :: '_' :: _ => none
  | _ => dropUnderscores whole

/-- The value of a plain numeral. Sign and digits are counted first. -/
def intOfNumeral (s : List Char) : Checked Int :=
  let (negative, unsigned) := match s with
    | '-' :: rest => (true, rest)
    | _ => (false, s)
  let digits := unsigned.takeWhile Char.isDigit
  if digits.isEmpty || (1 < digits.length && digits.head? == some '0') then
    Checked.complain .badInt
  else if Json.digitLimit < digits.length + (if negative then 1 else 0) then
    Checked.complain .hugeInt
  else if digits.length < unsigned.length then Checked.complain .badInt
  else
    let n : Int := Decimal.digitsValue digits
    .ok (if negative then -n else n)

def intOfText (s : List Char) : Checked Int :=
  match plainNumeral s with
  | some numeral => intOfNumeral numeral
  | none => Checked.complain .badInt

def asInt : Value → Checked Int
  | .int n => .ok n
  | .bool b => .ok (if b then 1 else 0)
  | .float x => intOfFloat x
  | .str s => readable s >>= intOfText
  | _ => Checked.complain .notInt

def floatOfText (s : List Char) : Checked Float :=
  match Decimal.parse? (trimSpacing s) with
  | some x => .ok x
  | none =>
    match (dropUnderscores s).bind Decimal.parse? with
    | some x => .ok x
    | none => Checked.complain .badNumber

def asFloat : Value → Checked Float
  | .float x => .ok x
  | .int n =>
    let x := Decimal.nearest (n < 0) n.natAbs 0
    if x.isFinite then .ok x else Checked.complain .notNumber
  | .bool b => .ok (if b then 1.0 else 0.0)
  | .str s => readable s >>= floatOfText
  | _ => Checked.complain .notNumber

def asRecord {α : Type} (name : String) (check : Fields → Checked α) : Value → Checked α
  | .obj fields => check fields
  | _ => Checked.complain (.notRecord name)

def asList {α : Type} (check : Value → Checked α) : Value → Checked (List α)
  | .arr items => checkItems check 0 items
  | _ => Checked.complain .notList

end Banter.Validation
