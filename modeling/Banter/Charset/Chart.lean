import Banter.Text.Hex

/-!
Charts of characters that are numbered by pairs of bytes, and pages of one byte for one character.
Charts are written as rows of hexadecimal numbers: blanks and line ends part the rows, hyphens the
numbers of a row.
-/
namespace Banter

namespace Text.Table

def number (digits : List Char) : Nat :=
  digits.foldl (fun n c => 16 * n + (hexValue c).getD 0) 0

def rows (table : String) : List (List Nat) :=
  ((table.toList.splitOnP fun c => c == ' ' || c == '\n').filter (!·.isEmpty)).map fun row =>
    (row.splitOn '-').map number

end Text.Table

namespace Charset

/-- Characters with numbers in a row. -/
structure Run where
  first : Nat
  chars : Array Char
  deriving DecidableEq, Repr

abbrev Chart := List Run

/-- A line holds the first number and, behind a blank, the characters. -/
def Chart.ofText (text : String) : Chart :=
  ((text.toList.splitOn '\n').filter (!·.isEmpty)).map fun line =>
    ⟨Text.Table.number (line.take 4), (line.drop 5).toArray⟩

def Chart.char? (chart : Chart) (n : Nat) : Option Char :=
  chart.findSome? fun run => if run.first ≤ n then run.chars[n - run.first]? else none

def Chart.chars (chart : Chart) (n : Nat) : List Char :=
  (chart.char? n).toList

def Chart.missing (chart : Chart) (first last : Nat) : Array Char :=
  let places := ((chart.flatMap (·.chars.toList)).map Char.toNat).filter (first ≤ ·)
  let held := places.foldl (fun held n => held.setIfInBounds (n - first) true)
    (Array.replicate (last + 1 - first) false)
  held.zipIdx.filterMap fun (isHeld, i) => if isHeld then none else some (Char.ofNat (first + i))

/-- Numbers in a row whose characters are in a row too. -/
structure Stretch where
  first : Nat
  last : Nat
  char : Nat
  deriving DecidableEq, Repr

namespace Stretch

/-- A row of a table holds the first number, the last, and the character of the first. -/
def ofText (table : String) : List Stretch :=
  (Text.Table.rows table).filterMap fun
    | [first, last, char] => some ⟨first, last, char⟩
    | _ => none

def char? (all : List Stretch) (n : Nat) : Option Char :=
  (all.find? fun s => s.first ≤ n && n ≤ s.last).map fun s => Char.ofNat (s.char + (n - s.first))

end Stretch

namespace Page

def gap : Char := Char.ofNat 0xfffd

/-- A page is given by its last characters. The bytes in front have the characters of their own
numbers. -/
def char? (page : String) (b : Nat) : Option Char :=
  let first := 0x100 - page.length
  if b < first then some (Char.ofNat b)
  else (page.toList[b - first]?).filter (· ≠ gap)

/-- The characters of one page in the place of the bytes. -/
def latin1 : String := ""

def ascii : String := String.ofList (List.replicate 0x80 gap)

end Page

end Charset
end Banter
