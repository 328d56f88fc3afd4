import Banter.Charset.Chart.KsX1001
import Banter.Charset.Piece

/-! Korean by pairs of bytes, and by letters that are put together. -/
namespace Banter.Charset

/-- The letters that start a syllable, in the order of the syllables. -/
def initials : List Char :=
  "ㄱㄲㄴㄷㄸㄹㅁㅂㅃㅅㅆㅇㅈㅉㅊㅋㅌㅍㅎ".toList

def vowels : List Char :=
  "ㅏㅐㅑㅒㅓㅔㅕㅖㅗㅘㅙㅚㅛㅜㅝㅞㅟㅠㅡㅢㅣ".toList

def finals : List Char :=
  "ㄱㄲㄳㄴㄵㄶㄷㄹㄺㄻㄼㄽㄾㄿㅀㅁㅂㅄㅅㅆㅇㅈㅊㅋㅌㅍㅎ".toList

/-- The syllable of a first letter, a vowel and a last letter. Zero ends no syllable. -/
def syllable (initial vowel final : Nat) : Char :=
  Char.ofNat (0xac00 + (initial * 21 + vowel) * 28 + final)

/-- The letter of a second byte behind 0xa4. -/
def letter? (b : Nat) : Option Char :=
  if 0xa1 ≤ b then some (Char.ofNat (0x3131 + (b - 0xa1))) else none

/-- Where a letter may be left out this byte fills its place. -/
def filler : Nat := 0xd4

def composed? (b c d : Nat) : Option Char := do
  let initial ← (letter? b).bind initials.idxOf?
  let vowel ← (letter? c).bind vowels.idxOf?
  let final ← if d = filler then some 0 else ((letter? d).bind finals.idxOf?).map (· + 1)
  some (syllable initial vowel final)

def ksX1001Pair (b c : Nat) : List Char :=
  if 0x80 ≤ b ∧ 0x80 ≤ c then ksX1001.chars ((b - 0x80) * 0x100 + (c - 0x80)) else []

/-- A filler announces a syllable by its letters. -/
def nextEucKr (b : Nat) (rest : List Nat) : Piece :=
  if b < 0x80 then .single (Char.ofNat b)
  else
    match rest with
    | [] => .cutOff
    | c :: rest =>
      if b = 0xa4 ∧ c = filler then
        match rest with
        | 0xa4 :: i :: 0xa4 :: v :: 0xa4 :: f :: _ => .ofChars (composed? i v f).toList 8
        | _ :: _ :: _ :: _ :: _ :: _ :: _ => .broken 1
        | _ => .cutOff
      else .ofChars (ksX1001Pair b c) 2

def furtherSyllables : Array Char := ksX1001.missing 0xac00 0xd7a3

/-- A second byte that may be a letter of ASCII or a high byte. -/
def letterIndex? (c : Nat) : Option Nat :=
  if 0x41 ≤ c ∧ c ≤ 0x5a then some (c - 0x41)
  else if 0x61 ≤ c ∧ c ≤ 0x7a then some (26 + (c - 0x61))
  else if 0x81 ≤ c ∧ c ≤ 0xfe then some (52 + (c - 0x81))
  else none

/-- The further syllables fill the rows in front of KS X 1001, then the left part of its rows. -/
def furtherSyllable? (b c : Nat) : Option Char := do
  let i ← letterIndex? c
  if 0x81 ≤ b && b ≤ 0xa0 then furtherSyllables[(b - 0x81) * 178 + i]?
  else if 0xa1 ≤ b && b ≤ 0xc6 && i < 84 then furtherSyllables[5696 + (b - 0xa1) * 84 + i]?
  else none

def cp949Pair (b c : Nat) : List Char :=
  match ksX1001Pair b c with
  | [] => (furtherSyllable? b c).toList
  | chars => chars

/-! Three times five bits for the letters of a syllable. -/

/-- A place of a syllable: left out, or a letter by its index. -/
abbrev Slot := Option Nat

def initialSlot? (n : Nat) : Option Slot :=
  if n = 1 then some none
  else if 2 ≤ n ∧ n ≤ 20 then some (some (n - 2))
  else none

/-- The vowels go by six, with gaps of two. -/
def vowelSlot? (n : Nat) : Option Slot :=
  if n = 2 then some none
  else if n = 0 ∨ n % 8 < 2 ∨ 30 ≤ n then none
  else some (some (n / 8 * 6 + n % 8 - 3))

def finalSlot? (n : Nat) : Option Slot :=
  if n = 1 then some none
  else if 2 ≤ n ∧ n ≤ 17 then some (some (n - 2))
  else if 19 ≤ n ∧ n ≤ 29 then some (some (n - 3))
  else none

/-- A letter on its own is no syllable, and other incomplete syllables are not written. -/
def slotsChar? : Slot → Slot → Slot → Option Char
  | none, none, none => some '\u3000'
  | none, none, some f => finals[f]?
  | none, some v, none => vowels[v]?
  | some i, none, none => initials[i]?
  | some i, some v, f => some (syllable i v ((f.map (· + 1)).getD 0))
  | _, _, _ => none

def johabSyllable? (b c : Nat) : Option Char := do
  let initial ← initialSlot? (b / 4 % 32)
  let vowel ← vowelSlot? (b % 4 * 8 + c / 32)
  let final ← finalSlot? (c % 32)
  slotsChar? initial vowel final

def johabSign (b c : Nat) : List Char :=
  if b < 0xd9 || b = 0xdf || 0xf9 < b || c < 0x31 || 0x7e < c && c < 0x91 || c = 0xff ||
      b = 0xda && 0xa1 ≤ c && c ≤ 0xd3 then []
  else
    let row := if b < 0xe0 then 2 * (b - 0xd9) else 2 * b - 0x197
    let cell := c - if c < 0x91 then 0x31 else 0x43
    ksX1001.chars ((0x21 + row + cell / 94) * 0x100 + 0x21 + cell % 94)

def johabPair (b c : Nat) : List Char :=
  if b < 0xd8 then (johabSyllable? b c).toList else johabSign b c

end Banter.Charset
