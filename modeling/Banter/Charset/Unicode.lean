import Banter.Charset.Piece
import Banter.Text.CodePoint
import Banter.Text.Utf8

/-! The forms of Unicode in units of two bytes, of four, and of six bits. -/
namespace Banter.Charset

inductive ByteOrder where
  | big
  | little
  deriving DecidableEq, Repr

/-- Puts the byte that counts most in front. -/
def ByteOrder.arrange (order : ByteOrder) (bytes : List Nat) : List Nat :=
  match order with
  | .big => bytes
  | .little => bytes.reverse

def ByteOrder.number (order : ByteOrder) (bytes : List Nat) : Nat :=
  (order.arrange bytes).foldl (fun n b => 0x100 * n + b) 0

/-- Half of a surrogate pair that stands alone is broken. -/
def nextUtf16 (order : ByteOrder) (a : Nat) : List Nat → Piece
  | [] => .cutOff
  | b :: rest =>
    let unit := order.number [a, b]
    if Text.CodePoint.isHigh unit then
      match rest with
      | c :: d :: _ =>
        let low := order.number [c, d]
        if Text.CodePoint.isLow low then .text [Text.CodePoint.joined unit low] 4 else .broken 2
      | _ => .cutOff
    else if Text.CodePoint.isLow unit then .broken 2
    else .text [Char.ofNat unit] 2

def nextUtf32 (order : ByteOrder) (a : Nat) : List Nat → Piece
  | b :: c :: d :: _ =>
    let n := order.number [a, b, c, d]
    if n.isValidChar then .text [Char.ofNat n] 4 else .broken 4
  | _ => .cutOff

def base64Value? (b : Nat) : Option Nat :=
  let c := Char.ofNat b
  if c.isUpper then some (b - 'A'.toNat)
  else if c.isLower then some (26 + (b - 'a'.toNat))
  else if c.isDigit then some (52 + (b - '0'.toNat))
  else if c = '+' then some 62
  else if c = '/' then some 63
  else none

/-- A passage of six bits each: how many bits wait for a unit, what they are, and the first half of
a surrogate pair. -/
structure Passage where
  count : Nat
  bits : Nat
  high : Option Nat
  deriving DecidableEq, Repr

namespace Passage

def empty : Passage := ⟨0, 0, none⟩

/-- Six more bits, and the character that they complete. -/
def push (p : Passage) (value : Nat) : Passage × List (Option Char) :=
  let count := p.count + 6
  let bits := p.bits * 64 + value
  if count < 16 then ({ p with count, bits }, [])
  else
    let unit := bits / Nat.pow 2 (count - 16)
    let rest : Passage := ⟨count - 16, bits % Nat.pow 2 (count - 16), none⟩
    match p.high with
    | some high =>
      if Text.CodePoint.isLow unit then (rest, [some (Text.CodePoint.joined high unit)])
      else
        let (rest, chars) := start rest unit
        (rest, none :: chars)
    | none => start rest unit
where
  start (rest : Passage) (unit : Nat) : Passage × List (Option Char) :=
    if Text.CodePoint.isHigh unit then ({ rest with high := some unit }, [])
    else if Text.CodePoint.isLow unit then (rest, [none])
    else (rest, [some (Char.ofNat unit)])

/-- Bits that belong to no unit are less than six, and zero. -/
def isComplete (p : Passage) : Bool :=
  p.count < 6 && p.bits == 0

end Passage

def ascii? (b : Nat) : Option Char :=
  if b < 0x80 then some (Char.ofNat b) else none

/-- Direct characters, and passages between a plus sign and the first byte that has no value in
them. A hyphen there does not count. -/
def readUtf7 : Option Passage → List Nat → List (Option Char)
  | none, [] => []
  | some p, [] => if p.isComplete && p.high.isNone then [] else [none]
  | none, b :: rest =>
    if b ≠ '+'.toNat then ascii? b :: readUtf7 none rest
    else
      match rest with
      | [] => []
      | c :: more =>
        if c = '-'.toNat then some '+' :: readUtf7 none more
        else if (base64Value? c).isNone then none :: readUtf7 none more
        else readUtf7 (some .empty) (c :: more)
  | some p, b :: rest =>
    match base64Value? b with
    | some value =>
      let (p, chars) := p.push value
      chars ++ readUtf7 (some p) rest
    | none =>
      if !p.isComplete then none :: readUtf7 none rest
      else (if p.high.isSome && b < 0x80 then [none] else []) ++
        (if b = '-'.toNat then [] else [ascii? b]) ++ readUtf7 none rest

end Banter.Charset
