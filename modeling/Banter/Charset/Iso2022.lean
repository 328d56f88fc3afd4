import Banter.Charset.Chinese
import Banter.Charset.Japanese
import Banter.Charset.Korean
import Banter.Charset.Page.Iso8859

/-!
Text with sequences that switch between charts, after ISO 2022. A sequence names a set of
characters by its final letter and puts it in one of three places, from which the bytes are read.
-/
namespace Banter.Charset.Iso2022

inductive CharacterSet where
  | ascii
  | yenLatin
  | katakana
  | latin1
  | greek
  | jisX0208
  | jisX0208Older
  | jisX0212
  | planeOne (edition : Edition)
  | planeTwo
  | gb2312
  | ksX1001
  deriving DecidableEq, Repr

/-- The final letter of a set, and whether its characters take two bytes. -/
def CharacterSet.mark : CharacterSet → Char × Bool
  | ascii => ('B', false)
  | yenLatin => ('J', false)
  | katakana => ('I', false)
  | latin1 => ('A', false)
  | greek => ('F', false)
  | jisX0208 => ('B', true)
  | jisX0208Older => ('@', true)
  | jisX0212 => ('D', true)
  | planeOne .first => ('O', true)
  | planeOne .second => ('Q', true)
  | planeTwo => ('P', true)
  | gb2312 => ('A', true)
  | ksX1001 => ('C', true)

/-- A form of the scheme: the sets beside ASCII that it knows, and what else it makes use of. -/
structure Variety where
  sets : List CharacterSet
  /-- Two control characters switch to the second place and back. -/
  shifts : Bool := false
  /-- Single characters may come from the third place. -/
  third : Bool := false
  /-- A sequence may have a part in front that tells the edition. -/
  editions : Bool := true
  deriving DecidableEq, Repr

def japanese : Variety := { sets := [.jisX0208, .yenLatin, .jisX0208Older] }

def japanese1 : Variety := { sets := .jisX0212 :: japanese.sets }

def japanese2 : Variety :=
  { sets := japanese1.sets ++ [.ksX1001, .gb2312, .latin1, .greek], third := true }

def japanese3 : Variety := { sets := [.jisX0208, .planeOne .first, .planeTwo] }

def japanese2004 : Variety := { sets := [.jisX0208, .planeOne .second, .planeTwo] }

def japaneseExtended : Variety := { sets := .katakana :: japanese1.sets }

def korean : Variety := { sets := [.ksX1001], shifts := true, editions := false }

structure State where
  first : CharacterSet := .ascii
  second : CharacterSet := .ascii
  third : CharacterSet := .ascii
  isShifted : Bool := false
  /-- Is an unknown sequence passed on? -/
  isPassing : Bool := false
  deriving DecidableEq, Repr

def escape : Nat := 0x1b

def isFinal (b : Nat) : Bool :=
  0x40 ≤ b && b ≤ 0x5a

def longestSequence : Nat := 16

/-- How long a sequence is whose first bytes are passed, zero for one without an end, `none` if the
bytes end first. The first count says how many bytes to leave unseen. -/
def sequenceSize? (editions : Bool) : Nat → Nat → List Nat → Option Nat
  | _, passed, [] => if longestSequence ≤ passed then some 0 else none
  | n + 1, passed, _ :: rest => sequenceSize? editions n (passed + 1) rest
  | 0, passed, b :: rest =>
    if longestSequence ≤ passed then some 0
    else if isFinal b then some (passed + 1)
    else if editions && b == '&'.toNat && rest.head? == some '@'.toNat then
      if longestSequence ≤ passed + 3 then some 0 else sequenceSize? editions 2 (passed + 1) rest
    else sequenceSize? editions 0 (passed + 1) rest

inductive Place where
  | first
  | second
  | third
  deriving DecidableEq, Repr

def designation? (v : Variety) (bytes : List Nat) : Option (Place × Char × Bool) :=
  match bytes.map Char.ofNat with
  | [_, '$', mark] => some (.first, mark, true)
  | [_, '(', mark] => some (.first, mark, false)
  | [_, ')', mark] => some (.second, mark, false)
  | [_, '.', mark] => if v.third then some (.third, mark, false) else none
  | [_, '$', '(', mark] => some (.first, mark, true)
  | [_, '$', ')', mark] => some (.second, mark, true)
  | [_, _, _, '\x1b', '$', 'B'] => if v.editions then some (.first, 'B', true) else none
  | _ => none

def designated? (v : Variety) (bytes : List Nat) : Option (Place × CharacterSet) := do
  let (place, mark) ← designation? v bytes
  let set ← (.ascii :: v.sets).find? fun set => set.mark == mark
  some (place, set)

def State.put (s : State) (place : Place) (set : CharacterSet) : State :=
  match place with
  | .first => { s with first := set }
  | .second => { s with second := set }
  | .third => { s with third := set }

def readSequence (v : Variety) (s : State) (rest : List Nat) : Piece × State :=
  match sequenceSize? v.editions 0 1 rest with
  | none => (.cutOff, s)
  | some 0 => (.broken 1, s)
  | some size =>
    match designated? v (escape :: rest.take (size - 1)) with
    | some (place, set) => (.text [] size, s.put place set)
    | none => (.broken size, s)

/-- The tilde of full width is a plain one here. -/
def planeOneChars (e : Edition) (n : Nat) : List Char :=
  if n = 0x2232 then ['~'] else Charset.planeOne e n

def CharacterSet.pair (set : CharacterSet) (n : Nat) : List Char :=
  match set with
  | jisX0208 | jisX0208Older => Charset.jisX0208.chars n
  | jisX0212 => Charset.jisX0212.chars n
  | planeOne e => planeOneChars e n
  | planeTwo => Charset.planeTwo .second n
  | gb2312 => Charset.gb2312.chars n
  | ksX1001 => Charset.ksX1001.chars n
  | _ => []

/-- Sets of high bytes have nothing to give where low bytes are read. -/
def CharacterSet.read (set : CharacterSet) (b : Nat) (rest : List Nat) : Piece :=
  match set with
  | ascii => .single (Char.ofNat b)
  | yenLatin => .single (latinOfYen b)
  | katakana => .ofChars (halfWidth? (b + 0x80)).toList 1
  | latin1 | greek => .broken 1
  | _ =>
    match rest with
    | [] => .cutOff
    | c :: _ =>
      match set.pair (b * 0x100 + c) with
      | [] => .broken 2
      | chars => .text chars 2

/-- The Greek page as it was before three signs came to it. -/
def olderGreek? (b : Nat) : Option Char :=
  if b = 0xa4 ∨ b = 0xa5 ∨ b = 0xaa then none else Page.char? Page.isoPart7 b

def CharacterSet.raised? (set : CharacterSet) (b : Nat) : Option Char :=
  match set with
  | ascii => if b < 0x80 then some (Char.ofNat b) else none
  | latin1 => if b < 0x80 then some (Char.ofNat (b + 0x80)) else none
  | greek => olderGreek? ((b + 0x80) % 0x100)
  | _ => none

def readThird (set : CharacterSet) : List Nat → Piece
  | _ :: b :: _ =>
    match set.raised? b with
    | some c => .text [c] 3
    | none => .broken 3
  | _ => .cutOff

def next (v : Variety) (s : State) (b : Nat) (rest : List Nat) : Piece × State :=
  if s.isPassing then (.single (Char.ofNat b), { s with isPassing := !isFinal b })
  else if b = escape then
    match rest with
    | [] => (.cutOff, s)
    | c :: _ =>
      if "()$.&".toList.contains (Char.ofNat c) then readSequence v s rest
      else if v.third ∧ c = 'N'.toNat then (readThird s.third rest, s)
      else (.single (Char.ofNat b), { s with isPassing := true })
  else if b = 0xe ∧ v.shifts then (.text [] 1, { s with isShifted := true })
  else if b = 0xf ∧ v.shifts then (.text [] 1, { s with isShifted := false })
  else if b = '\n'.toNat then (.single '\n', { s with isShifted := false })
  else if b < 0x20 then (.single (Char.ofNat b), s)
  else if 0x80 ≤ b then (.broken 1, s)
  else ((if s.isShifted then s.second else s.first).read b rest, s)

def longestRest : Nat := 8

/-- The characters, unless too much is cut off. -/
def read? (v : Variety) (bytes : List Nat) : Option (List (Option Char)) :=
  let reading := readFrom (next v) {} 0 bytes
  if longestRest < reading.rest.length then none else some reading.marked

end Banter.Charset.Iso2022
