/-! UTF-8, and the parts of it that are broken. -/
namespace Banter.Text.Utf8

def encodeChar (c : Char) : List Nat :=
  let n := c.toNat
  if n < 0x80 then [n]
  else if n < 0x800 then [0xc0 + n / 0x40, 0x80 + n % 0x40]
  else if n < 0x10000 then [0xe0 + n / 0x1000, 0x80 + n / 0x40 % 0x40, 0x80 + n % 0x40]
  else [0xf0 + n / 0x40000, 0x80 + n / 0x1000 % 0x40, 0x80 + n / 0x40 % 0x40, 0x80 + n % 0x40]

def encode (s : List Char) : List Nat :=
  s.flatMap encodeChar

/-- What a first byte calls for: how many bytes follow, the span of the next of them, and the bits
that it gives itself. -/
structure Lead where
  following : Nat
  low : Nat
  high : Nat
  bits : Nat

def lead? (b : Nat) : Option Lead :=
  if b < 0x80 then some ⟨0, 0x80, 0xbf, b⟩
  else if 0xc2 ≤ b ∧ b ≤ 0xdf then some ⟨1, 0x80, 0xbf, b - 0xc0⟩
  else if b = 0xe0 then some ⟨2, 0xa0, 0xbf, 0⟩
  else if b = 0xed then some ⟨2, 0x80, 0x9f, 0xd⟩
  else if 0xe1 ≤ b ∧ b ≤ 0xef then some ⟨2, 0x80, 0xbf, b - 0xe0⟩
  else if b = 0xf0 then some ⟨3, 0x90, 0xbf, 0⟩
  else if 0xf1 ≤ b ∧ b ≤ 0xf3 then some ⟨3, 0x80, 0xbf, b - 0xf0⟩
  else if b = 0xf4 then some ⟨3, 0x80, 0x8f, 4⟩
  else none

/-- The following bytes that are in place, and the code point so far. -/
def follow : Nat → Nat → Nat → Nat → List Nat → Nat × Nat
  | 0, _, _, bits, _ => (0, bits)
  | _ + 1, _, _, bits, [] => (0, bits)
  | n + 1, low, high, bits, b :: rest =>
    if low ≤ b ∧ b ≤ high then
      let (taken, bits) := follow n 0x80 0xbf (bits * 0x40 + (b - 0x80)) rest
      (taken + 1, bits)
    else (0, bits)

/-- Characters, with `none` for each longest part of a character that is broken off. The count says
how many bytes of the last character are still to be passed. -/
def decodeFrom : Nat → List Nat → List (Option Char)
  | _, [] => []
  | n + 1, _ :: rest => decodeFrom n rest
  | 0, b :: rest =>
    match lead? b with
    | none => none :: decodeFrom 0 rest
    | some l =>
      let (taken, bits) := follow l.following l.low l.high l.bits rest
      (if taken = l.following then some (Char.ofNat bits) else none) :: decodeFrom taken rest

def replacement : Char := Char.ofNat 0xfffd

def decode? (bytes : List Nat) : Option (List Char) :=
  (decodeFrom 0 bytes).mapM id

/-- Bytes that are a character broken off at their end. Half of a surrogate pair is none, but is
told only by its last byte. -/
def isBrokenOff : List Nat → Bool
  | [] => false
  | [0xed, b] => 0x80 ≤ b && b ≤ 0xbf
  | b :: rest =>
    match lead? b with
    | none => false
    | some l =>
      rest.length < l.following && (follow l.following l.low l.high l.bits rest).1 == rest.length

/-- Characters, and the bytes at the end that may still become one. No other broken part is
allowed. -/
def decodePart? (bytes : List Nat) : Option (List Char × List Nat) :=
  let ends := [1, 2, 3].map fun n => bytes.drop (bytes.length - n)
  let tail := (ends.find? isBrokenOff).getD []
  (decode? (bytes.take (bytes.length - tail.length))).map (·, tail)

end Banter.Text.Utf8
