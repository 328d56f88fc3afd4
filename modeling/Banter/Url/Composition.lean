import Banter.Url.Character.Combining

/-! The composed form of a domain: characters are taken apart, their marks put in order, and
whatever makes one character is joined again. -/
namespace Banter.Url

/-- The first syllable of Hangul. A syllable is made of a lead, a vowel and perhaps a tail. -/
def firstSyllable : Nat := 0xac00

def firstLead : Nat := 0x1100

def firstVowel : Nat := 0x1161

/-- One less than the first tail, for syllables without one. -/
def noTail : Nat := 0x11a7

def leads : Nat := 19

def vowels : Nat := 21

def tails : Nat := 28

def halves? (n : Nat) : Option (Nat × Nat) :=
  if firstSyllable ≤ n && n < firstSyllable + leads * vowels * tails then
    let i := n - firstSyllable
    if i % tails = 0 then
      some (firstLead + i / tails / vowels, firstVowel + i / tails % vowels)
    else some (n - i % tails, noTail + i % tails)
  else pairs.findSome? fun (whole, a, b) => if whole = n then some (a, b) else none

def whole? (a b : Nat) : Option Nat :=
  if firstLead ≤ a && a < firstLead + leads && firstVowel ≤ b && b < firstVowel + vowels then
    some (firstSyllable + ((a - firstLead) * vowels + (b - firstVowel)) * tails)
  else if firstSyllable ≤ a && a < firstSyllable + leads * vowels * tails &&
      (a - firstSyllable) % tails == 0 && noTail < b && b < noTail + tails then
    some (a + (b - noTail))
  else pairs.findSome? fun (whole, x, y) => if x = a && y = b then some whole else none

/-- Take a character apart, layer by layer. The count bounds the layers. -/
def takeApart : Nat → Nat → List Nat
  | 0, n => [n]
  | layers + 1, n =>
    match halves? n with
    | some (a, b) => takeApart layers a ++ [b]
    | none => [n]

def mostLayers : Nat := 8

/-- Put a mark in front of marks in order. It passes those of a lower class. -/
def insertMark (n : Nat) : List Nat → List Nat
  | [] => [n]
  | m :: rest => if 0 < place m && place m < place n then m :: insertMark n rest else n :: m :: rest

def inOrder (s : List Nat) : List Nat :=
  s.foldr insertMark []

/-- Join what makes one character with the given base. The marks kept so far, last one first, hide
the marks of their class and below from it. -/
def joinFrom (base : Nat) (kept : List Nat) : List Nat → List Nat
  | [] => base :: kept.reverse
  | n :: rest =>
    let hidden := kept.head?.any fun m => place n ≤ place m
    match if hidden then none else whole? base n with
    | some whole => joinFrom whole kept rest
    | none =>
      if place n = 0 then base :: kept.reverse ++ joinFrom n [] rest
      else joinFrom base (n :: kept) rest

def compose (s : List Char) : List Char :=
  match inOrder (s.flatMap fun c => takeApart mostLayers c.toNat) with
  | [] => []
  | n :: rest => (joinFrom n [] rest).map Char.ofNat

end Banter.Url
