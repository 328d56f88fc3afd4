import Banter.Charset.Chart.Big5
import Banter.Charset.Chart.Gb18030
import Banter.Charset.Chart.Gb2312
import Banter.Charset.Chart.Gbk
import Banter.Charset.Chart.HongKong
import Banter.Charset.Piece

/-! Chinese by one byte, two or four. -/
namespace Banter.Charset

def nextPair (chars : Nat → Nat → List Char) (b : Nat) (rest : List Nat) : Piece :=
  if b < 0x80 then .single (Char.ofNat b)
  else
    match rest with
    | [] => .cutOff
    | c :: _ => .ofChars (chars b c) 2

def gb2312Pair (b c : Nat) : List Char :=
  if 0x80 ≤ b ∧ 0x80 ≤ c then gb2312.chars ((b - 0x80) * 0x100 + (c - 0x80)) else []

def furtherIdeographs : Array Char := gb2312.missing 0x4e00 0x9fa5

/-- A second byte, counted without the gap at 0x7f. -/
def trailIndex (c : Nat) : Nat :=
  c - if c < 0x7f then 0x40 else 0x41

/-- The further ideographs fill the rows in front of GB 2312, then the left part of the rows beside
its own ideographs. -/
def furtherIdeograph? (b c : Nat) : Option Char :=
  if c < 0x40 || c = 0x7f || c = 0xff then none
  else if 0x81 ≤ b && b ≤ 0xa0 then furtherIdeographs[(b - 0x81) * 190 + trailIndex c]?
  else if 0xaa ≤ b && b ≤ 0xfe && c ≤ 0xa0 then
    furtherIdeographs[6080 + (b - 0xaa) * 96 + trailIndex c]?
  else none

def gbkPair (b c : Nat) : List Char :=
  match gbkAdded.char? (b * 0x100 + c) <|> furtherIdeograph? b c with
  | some char => [char]
  | none => gb2312Pair b c

def gb18030Pair (b c : Nat) : List Char :=
  match gbkPair b c with
  | [] => (Stretch.char? gb18030Pairs (b * 0x100 + c)).toList
  | chars => chars

/-- Four bytes count in turn to 126, 10, 126 and 10. -/
def gb18030Four (b c d e : Nat) : List Char :=
  if b < 0x81 || 0xfe < b || d < 0x81 || 0xfe < d || e < 0x30 || 0x39 < e then []
  else
    let n := (((b - 0x81) * 10 + (c - 0x30)) * 126 + (d - 0x81)) * 10 + (e - 0x30)
    if b < 0x90 then (Stretch.char? gb18030Fours n).toList
    else
      let n := n - 15 * 12600
      if n < 0x100000 then [Char.ofNat (0x10000 + n)] else []

def nextGb18030 (b : Nat) (rest : List Nat) : Piece :=
  if b < 0x80 then .single (Char.ofNat b)
  else
    match rest with
    | [] => .cutOff
    | c :: rest =>
      if 0x30 ≤ c ∧ c ≤ 0x39 then
        match rest with
        | d :: e :: _ => .ofChars (gb18030Four b c d e) 4
        | _ => .cutOff
      else .ofChars (gb18030Pair b c) 2

/-- ASCII with passages of GB 2312 in low bytes between two signs. The state tells whether the text
is in such a passage. -/
def nextHz (inside : Bool) (b : Nat) (rest : List Nat) : Piece × Bool :=
  if b = '~'.toNat then
    match rest with
    | [] => (.cutOff, inside)
    | c :: _ =>
      let c := Char.ofNat c
      if c = '~' ∧ !inside then (.text ['~'] 2, inside)
      else if c = '\x7b' ∧ !inside then (.text [] 2, true)
      else if c = '\n' ∧ !inside then (.text [] 2, inside)
      else if c = '\x7d' ∧ inside then (.text [] 2, false)
      else (.broken 1, inside)
  else if 0x80 ≤ b then (.broken 1, inside)
  else if !inside then (.single (Char.ofNat b), inside)
  else
    match rest with
    | [] => (.cutOff, inside)
    | c :: _ => (.ofChars (gb2312.chars (b * 0x100 + c)) 2, inside)

def big5Pair (b c : Nat) : List Char :=
  big5.chars (b * 0x100 + c)

def cp950Pair (b c : Nat) : List Char :=
  match cp950Changed.char? (b * 0x100 + c) with
  | some char => [char]
  | none => big5Pair b c

def hongKongPair (b c : Nat) : List Char :=
  let n := b * 0x100 + c
  match hongKongPairs.lookup n, hongKong.char? n with
  | some pair, _ => pair.toList
  | none, some char => [char]
  | none, none => if 0xc6a1 ≤ n && n ≤ 0xc8ff then [] else big5Pair b c

end Banter.Charset
