import Banter.Charset.Chart.Cp932
import Banter.Charset.Chart.JisX0208
import Banter.Charset.Chart.JisX0212
import Banter.Charset.Chart.JisX0213
import Banter.Charset.Piece

/-! Japanese by one byte, two or three. -/
namespace Banter.Charset

/-- Katakana of half width, which take one byte. -/
def halfWidth? (b : Nat) : Option Char :=
  if 0xa1 ≤ b ∧ b ≤ 0xdf then some (Char.ofNat (0xfec0 + b)) else none

/-! The first plane of JIS X 0213 holds JIS X 0208. -/

inductive Edition where
  | first
  | second
  deriving DecidableEq, Repr

def planeOne (e : Edition) (n : Nat) : List Char :=
  match jisX0213Pairs.lookup n with
  | some pair => pair.toList
  | none => ((jisX0208.char? n <|> jisX0213First.char? n) <|>
      if e = .second then jisX0213Later.char? n else none).toList

/-- What the second edition added is passed over whole where the first is read. -/
def planeOnePiece (e : Edition) (n : Nat) : Piece :=
  match planeOne e n with
  | [] => .broken (if (jisX0213Later.char? n).isSome then 2 else 1)
  | chars => .text chars 2

/-- One character was taken for another when the first edition was put into practice. -/
def planeTwo (e : Edition) (n : Nat) : List Char :=
  if n = 0x7d3b ∧ e = .first then ['鬝'] else jisX0213Second.chars n

/-! Shifted bytes: two rows of ninety-four share a first byte. -/

def opensShifted (b : Nat) : Bool :=
  0x81 ≤ b && b ≤ 0x9f || 0xe0 ≤ b && b ≤ 0xfc

def closesShifted (c : Nat) : Bool :=
  0x40 ≤ c && c ≤ 0xfc && c ≠ 0x7f

def shiftedNumber (b c : Nat) : Nat :=
  let row := 2 * (b - if b < 0xe0 then 0x81 else 0xc1)
  let cell := c - if c < 0x80 then 0x40 else 0x41
  (0x21 + row + cell / 94) * 0x100 + 0x21 + cell % 94

def shiftedPair (piece : Nat → Piece) (b : Nat) : List Nat → Piece
  | [] => .cutOff
  | c :: _ => if closesShifted c then piece (shiftedNumber b c) else .broken 1

def jisX0208Pair (n : Nat) : Piece :=
  .ofChars (jisX0208.chars n) 2

def nextShiftJis (b : Nat) (rest : List Nat) : Piece :=
  match if b < 0x80 then some (Char.ofNat b) else halfWidth? b with
  | some c => .single c
  | none => if opensShifted b then shiftedPair jisX0208Pair b rest else .broken 1

/-- The rows of the second plane that the pairs beyond the first plane take up in turn. -/
def secondRows : List Nat :=
  [0x21, 0x28, 0x23, 0x24, 0x25, 0x2c, 0x2d, 0x2e, 0x2f]

def secondNumber (n : Nat) : Nat :=
  let i := n / 0x100 - 0x7f
  secondRows.getD i (0x6e + (i - 9)) * 0x100 + n % 0x100

/-- The backslash and the tilde are among the pairs, since their bytes stand for the yen sign and
the overline. -/
def shiftedPlanes (e : Edition) (n : Nat) : Piece :=
  if n = 0x2140 then .text ['\\'] 2
  else if n = 0x2232 then .text ['~'] 2
  else if n < 0x7f00 then planeOnePiece e n
  else .ofChars (planeTwo e (secondNumber n)) 2

def latinOfYen (b : Nat) : Char :=
  if b = 0x5c then '¥' else if b = 0x7e then '‾' else Char.ofNat b

def nextShiftJisX0213 (e : Edition) (b : Nat) (rest : List Nat) : Piece :=
  match if b < 0x80 then some (latinOfYen b) else halfWidth? b with
  | some c => .single c
  | none => if opensShifted b then shiftedPair (shiftedPlanes e) b rest else .broken 1

/-- Bytes that open no pair have private characters. -/
def cp932Single? (b : Nat) : Option Char :=
  if b ≤ 0x80 then some (Char.ofNat b)
  else if b = 0xa0 then some (Char.ofNat 0xf8f0)
  else if 0xfd ≤ b then some (Char.ofNat (0xf8f1 + (b - 0xfd)))
  else halfWidth? b

def cp932Pair (b c : Nat) : List Char :=
  match cp932Added.char? (b * 0x100 + c) with
  | some char => [char]
  | none =>
    if !closesShifted c then []
    else if b ≤ 0xea then jisX0208.chars (shiftedNumber b c)
    else if 0xf0 ≤ b && b ≤ 0xf9 then
      [Char.ofNat (0xe000 + 188 * (b - 0xf0) + (c - if c < 0x80 then 0x40 else 0x41))]
    else []

def nextCp932 (b : Nat) (rest : List Nat) : Piece :=
  match cp932Single? b, rest with
  | some c, _ => .single c
  | none, [] => .cutOff
  | none, c :: _ => .ofChars (cp932Pair b c) 2

/-! High bytes: charts with both bytes raised by 0x80, and two bytes that lead elsewhere. -/

/-- The number of a pair of high bytes, zero where one is too low. -/
def highNumber (b c : Nat) : Nat :=
  if 0xa1 ≤ b ∧ 0xa1 ≤ c then (b - 0x80) * 0x100 + (c - 0x80) else 0

/-- The charts are those behind no leading byte and behind 0x8f. -/
def nextHigh (main third : Nat → Piece) (b : Nat) (rest : List Nat) : Piece :=
  if b < 0x80 then .single (Char.ofNat b)
  else if b = 0x8e then
    match rest with
    | [] => .cutOff
    | c :: _ => .ofChars (halfWidth? c).toList 2
  else if b = 0x8f then
    match rest with
    | c :: d :: _ => third (highNumber c d)
    | _ => .cutOff
  else
    match rest with
    | [] => .cutOff
    | c :: _ => main (highNumber b c)

def nextEucJp : Nat → List Nat → Piece :=
  nextHigh jisX0208Pair fun n => .ofChars (jisX0212.chars n) 3

def nextEucJisX0213 (e : Edition) : Nat → List Nat → Piece :=
  nextHigh (planeOnePiece e) fun n =>
    match planeTwo e n with
    | [] => .ofChars (jisX0212.chars n) 3
    | chars => .text chars 3

end Banter.Charset
