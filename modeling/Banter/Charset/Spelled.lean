import Banter.Charset.Piece
import Banter.Text.Hex

/-! Characters spelled out behind a backslash. Other bytes are the characters of their own
numbers. -/
namespace Banter.Charset

/-- A number of so many hexadecimal digits. Without all of them, the digits that are there are
broken along with the bytes passed before. -/
def hexPiece (passed : Nat) : Nat → Nat → List Nat → Piece
  | 0, n, _ => if n < 0x110000 then .text [Char.ofNat n] passed else .broken passed
  | _ + 1, _, [] => .cutOff
  | count + 1, n, b :: rest =>
    match Text.hexValue (Char.ofNat b) with
    | some d => hexPiece (passed + 1) count (16 * n + d) rest
    | none => .broken passed

def hexCount? (c : Char) : Option Nat :=
  match c with
  | 'u' => some 4
  | 'U' => some 8
  | _ => none

/-- A byte in two digits is another short form. -/
def shortCount? (c : Char) : Option Nat :=
  if c = 'x' then some 2 else hexCount? c

def backslash : Nat := '\\'.toNat

/-- Only the numbers of characters are spelled out. -/
def nextNumbered (b : Nat) (rest : List Nat) : Piece :=
  match rest with
  | [] => .single (Char.ofNat b)
  | c :: rest =>
    if b ≠ backslash then .single (Char.ofNat b)
    else
      match hexCount? (Char.ofNat c) with
      | some count => hexPiece 2 count 0 rest
      | none => .text ['\\', Char.ofNat c] 2

def control? (c : Char) : Option Char :=
  match c with
  | '\\' | '\'' | '"' => some c
  | 'a' => some '\x07'
  | 'b' => some '\x08'
  | 't' => some '\t'
  | 'n' => some '\n'
  | 'v' => some '\x0b'
  | 'f' => some '\x0c'
  | 'r' => some '\r'
  | _ => none

def isOctal (c : Char) : Bool :=
  '0' ≤ c && c ≤ '7'

def octalPiece (bytes : List Nat) : Piece :=
  let digits := ((bytes.take 3).map Char.ofNat).takeWhile isOctal
  .text [Char.ofNat (digits.foldl (fun n c => 8 * n + (c.toNat - 48)) 0)] (digits.length + 1)

/-- No names of characters are known: one in braces is passed over whole. -/
def namedPiece (bytes : List Nat) : Piece :=
  match bytes with
  | [] => .cutOff
  | b :: name =>
    if b ≠ '\x7b'.toNat then .broken 2
    else
      let inner := name.takeWhile (· ≠ '\x7d'.toNat)
      if inner.length = name.length then .cutOff
      else .broken (inner.length + if inner.isEmpty then 3 else 4)

/-- Controls, quotes and the backslash have short forms too. -/
def nextSpelled (b : Nat) (rest : List Nat) : Piece :=
  if b ≠ backslash then .single (Char.ofNat b)
  else
    match rest with
    | [] => .cutOff
    | b :: more =>
      let c := Char.ofNat b
      match control? c, shortCount? c with
      | some d, _ => .text [d] 2
      | none, some count => hexPiece 2 count 0 more
      | none, none =>
        if c = '\n' then .text [] 2
        else if c = 'N' then namedPiece more
        else if isOctal c then octalPiece rest
        else .text ['\\', c] 2

end Banter.Charset
