import Banter.Json.Value
import Banter.Number.Decimal
import Banter.Text.Hex

/-!
Reading JSON. Beyond the standard it takes the words for infinities and for what is not a number,
and escapes for lone surrogates; of a repeated key the last value counts.
-/
namespace Banter.Json

open Banter.Text (CodePoint hexValue4)

inductive Flaw where
  | expectingValue
  | expectingComma
  | expectingColon
  | expectingName
  | controlCharacter
  | badEscape
  | badUnicodeEscape
  | unterminatedString
  | extraData
  | byteOrderMark
  deriving DecidableEq, Repr

inductive Fault where
  /-- The flaw is where `left` characters of the text remain. -/
  | malformed (flaw : Flaw) (left : Nat)
  | digits (count : Nat)
  deriving DecidableEq, Repr

def digitLimit : Nat := 4300

def isSpace (c : Char) : Bool :=
  c == ' ' || c == '\t' || c == '\n' || c == '\r'

def skipSpace (s : List Char) : List Char :=
  s.dropWhile isSpace

def simpleEscape : Char → Option Char
  | '\x22' => some '\x22'
  | '\x5c' => some '\x5c'
  | '/' => some '/'
  | 'b' => some '\x08'
  | 'f' => some '\x0c'
  | 'n' => some '\n'
  | 'r' => some '\r'
  | 't' => some '\t'
  | _ => none

/-- The rest of a string and what follows its closing quote. `opening` begins with the opening
quote, where the blame falls if no closing quote comes. -/
def scanString (opening : List Char) :
    List Char → Except Fault (List CodePoint × List Char)
  | [] => .error (.malformed .unterminatedString opening.length)
  | c :: rest =>
    if c = '\x22' then .ok ([], rest)
    else if c = '\x5c' then
      match rest with
      | [] => .error (.malformed .unterminatedString opening.length)
      | 'u' :: more =>
        match more with
        | a :: b :: c :: d :: e :: tail =>
          match hexValue4 a b c d with
          | some n => do
            let (s, after) ← scanString opening (e :: tail)
            return (CodePoint.ofUnit n :: s, after)
          | none => .error (.malformed .badUnicodeEscape (more.length + 1))
        | _ => .error (.malformed .badUnicodeEscape (more.length + 1))
      | e :: more =>
        match simpleEscape e with
        | some x => do
          let (s, after) ← scanString opening more
          return (.scalar x :: s, after)
        | none => .error (.malformed .badEscape (more.length + 2))
    else if c.toNat < 0x20 then .error (.malformed .controlCharacter (rest.length + 1))
    else do
      let (s, after) ← scanString opening rest
      return (.scalar c :: s, after)

def afterLiteral (word : String) (s : List Char) : Option (List Char) :=
  if word.toList.isPrefixOf s then some (s.drop word.length) else none

/-- An integer part without superfluous zeros. -/
def scanWhole : List Char → Option (List Char × List Char)
  | '0' :: rest => some (['0'], rest)
  | s => match Decimal.takeDigits s with
    | ([], _) => none
    | (digits, rest) => some (digits, rest)

/-- A fraction counts only if a digit follows the point. -/
def scanFraction (s : List Char) : List Char × List Char :=
  match s with
  | '.' :: rest => match Decimal.takeDigits rest with
    | ([], _) => ([], s)
    | (digits, more) => (digits, more)
  | _ => ([], s)

def integer (negative : Bool) (digits : List Char) : Except Fault Value :=
  if digitLimit < digits.length then .error (.digits digits.length)
  else
    let n : Int := Decimal.digitsValue digits
    .ok (.int (if negative then -n else n))

/-- A number: an integer unless it has a fraction or an exponent. -/
def scanUnsigned (start : List Char) (negative : Bool) (s : List Char) :
    Except Fault (Value × List Char) :=
  match scanWhole s with
  | none => .error (.malformed .expectingValue start.length)
  | some (whole, afterWhole) =>
    let (fraction, afterFraction) := scanFraction afterWhole
    match fraction, Decimal.takeExponent? afterFraction with
    | [], none => do return (← integer negative whole, afterWhole)
    | _, exponent =>
      let (exponent, rest) := exponent.getD (0, afterFraction)
      .ok (.float (Decimal.Numeral.value ⟨negative, whole, fraction, exponent⟩), rest)

def scanNumber (s : List Char) : Except Fault (Value × List Char) :=
  match s with
  | '-' :: rest => scanUnsigned s true rest
  | _ => scanUnsigned s false s

def literals : List (String × Value) :=
  [("null", .null), ("true", .bool true), ("false", .bool false),
   ("NaN", .float Decimal.notANumber), ("Infinity", .float Decimal.infinity),
   ("-Infinity", .float (-Decimal.infinity))]

def scanLiteral (s : List Char) : Option (Value × List Char) :=
  literals.findSome? fun (word, value) => (afterLiteral word s).map fun rest => (value, rest)

mutual

/-- A value and what follows it. The count bounds the depth of the calls: a character opens at most
two. -/
def scanValue : Nat → List Char → Except Fault (Value × List Char)
  | 0, s => .error (.malformed .expectingValue s.length)
  | fuel + 1, s =>
    match s with
    | '\x22' :: rest => do
      let (t, after) ← scanString s rest
      return (.str (CodePoint.joinHalves t), after)
    | '[' :: rest =>
      match skipSpace rest with
      | ']' :: after => .ok (.arr [], after)
      | inner => do
        let (items, after) ← scanItems fuel inner
        return (.arr items, after)
    | '\x7b' :: rest =>
      match skipSpace rest with
      | '\x7d' :: after => .ok (.obj [], after)
      | inner => do
        let (fields, after) ← scanFields fuel inner
        return (.obj (assignAll fields), after)
    | _ =>
      match scanLiteral s with
      | some found => .ok found
      | none => scanNumber s

def scanItems : Nat → List Char → Except Fault (List Value × List Char)
  | 0, s => .error (.malformed .expectingValue s.length)
  | fuel + 1, s => do
    let (item, after) ← scanValue fuel s
    match skipSpace after with
    | ']' :: rest => return ([item], rest)
    | ',' :: rest => do
      let (items, after) ← scanItems fuel (skipSpace rest)
      return (item :: items, after)
    | other => .error (.malformed .expectingComma other.length)

def scanFields : Nat → List Char → Except Fault (List (List CodePoint × Value) × List Char)
  | 0, s => .error (.malformed .expectingValue s.length)
  | fuel + 1, s =>
    match s with
    | '\x22' :: rest => do
      let (key, afterKey) ← scanString s rest
      match skipSpace afterKey with
      | ':' :: rest => do
        let (value, after) ← scanValue fuel (skipSpace rest)
        let field := (CodePoint.joinHalves key, value)
        match skipSpace after with
        | '\x7d' :: rest => return ([field], rest)
        | ',' :: rest => do
          let (fields, after) ← scanFields fuel (skipSpace rest)
          return (field :: fields, after)
        | other => .error (.malformed .expectingComma other.length)
      | other => .error (.malformed .expectingColon other.length)
    | _ => .error (.malformed .expectingName s.length)

end

def read (s : List Char) : Except Fault Value :=
  match s with
  | [] => .error (.malformed .expectingValue 0)
  | c :: _ =>
    if c.toNat = 0xfeff then .error (.malformed .byteOrderMark s.length)
    else do
      let (value, after) ← scanValue (2 * s.length + 2) (skipSpace s)
      match skipSpace after with
      | [] => return value
      | rest => .error (.malformed .extraData rest.length)

end Banter.Json
