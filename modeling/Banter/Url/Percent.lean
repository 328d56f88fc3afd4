import Banter.Text.Hex
import Banter.Text.Utf8

/-! Percent encoding. -/
namespace Banter.Url

/-- The controls, which every part of a URL encodes, along with all that is not ASCII. -/
def isControl (n : Nat) : Bool :=
  n < 0x20 || 0x7f ≤ n

def fragmentSet (n : Nat) : Bool :=
  isControl n || [0x20, 0x22, 0x3c, 0x3e, 0x60].contains n

def pathSet (n : Nat) : Bool :=
  fragmentSet n || [0x23, 0x3f, 0x7b, 0x7d].contains n

def userinfoSet (n : Nat) : Bool :=
  pathSet n || [0x2f, 0x3a, 0x3b, 0x3d, 0x40, 0x5b, 0x5c, 0x5d, 0x5e, 0x7c].contains n

/-- The set for the query of the schemes of the web, where the apostrophe is encoded too. -/
def querySet (n : Nat) : Bool :=
  isControl n || [0x20, 0x22, 0x23, 0x27, 0x3c, 0x3e].contains n

def encodeByte (b : Nat) : List Char :=
  ['%', Text.hexDigitUpper (b / 16), Text.hexDigitUpper (b % 16)]

def encodeChar (set : Nat → Bool) (c : Char) : List Char :=
  if set c.toNat then (Text.Utf8.encodeChar c).flatMap encodeByte else [c]

def percentEncode (set : Nat → Bool) (s : List Char) : List Char :=
  s.flatMap (encodeChar set)

/-- Bytes, with escapes resolved. A percent sign without two digits stands for itself. -/
def percentDecode : List Nat → List Nat
  | 0x25 :: a :: b :: rest =>
    match Text.hexValue (Char.ofNat a), Text.hexValue (Char.ofNat b) with
    | some high, some low => (high * 16 + low) :: percentDecode rest
    | _, _ => 0x25 :: percentDecode (a :: b :: rest)
  | n :: rest => n :: percentDecode rest
  | [] => []

end Banter.Url
