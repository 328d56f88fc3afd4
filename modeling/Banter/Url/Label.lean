import Banter.Url.Character.Direction
import Banter.Url.Character.Joining
import Banter.Url.Character.Mark
import Banter.Url.Character.Permitted
import Banter.Url.Character.Spelling
import Banter.Url.Composition
import Banter.Url.Punycode

/-! Domains and their labels: how they are spelled, what makes them well formed, and the ASCII form. -/
namespace Banter.Url

def isAscii (s : List Char) : Bool :=
  s.all (·.toNat < 0x80)

/-- The normal spelling of a text in a domain, unless it holds a character that has none. -/
def spell (s : List Char) : Option (List Char) := do
  let spelled ← s.mapM fun c =>
    if isPermitted c then some [c] else if isIgnored c then some [] else respelled? c
  return compose spelled.flatten

def joiner : Char := Char.ofNat 0x200d

def nonJoiner : Char := Char.ofNat 0x200c

/-- Joiners stand behind a virama. Non-joiners may also part letters that would join. The text
before comes last character first. -/
def joinersFit : List Char → List Char → Bool
  | _, [] => true
  | before, c :: rest =>
    let behindVirama := before.head?.any isVirama
    let parting := (before.dropWhile isTransparent).head?.any joinsNext &&
      (rest.dropWhile isTransparent).head?.any joinsPrevious
    (if c = joiner then behindVirama else if c = nonJoiner then behindVirama || parting else true) &&
      joinersFit (c :: before) rest

def wellFormed (label : List Char) : Bool :=
  !label.head?.any isMark && joinersFit [] label

/-- The mark of labels that are written in ASCII but stand for others. -/
def asciiMark : List Char := "xn--".toList

/-- What a label stands for. An ASCII form has to stand for a label in normal spelling that could
not be written without it. -/
def readLabel (label : List Char) : Option (List Char) :=
  if asciiMark.isPrefixOf label then
    if isAscii label then do
      let read ← Punycode.decode? (label.drop asciiMark.length)
      if isAscii read || spell read ≠ some read || !wellFormed read then none else return read
    else none
  else if wellFormed label then some label
  else none

def writeLabel (label : List Char) : List Char :=
  if isAscii label then label else asciiMark ++ Punycode.encode label

/-- Is a label written from right to left, even in part? -/
def isDirected (label : List Char) : Bool :=
  label.any fun c => [.right, .arabicNumber].contains (Direction.ofChar c)

/-- A label keeps to the direction of its first character, which also ends it, but for numbers and
marks. Two kinds of numbers do not mix. -/
def directionFits (label : List Char) : Bool :=
  let all := label.map Direction.ofChar
  let last := (all.reverse.dropWhile (· == .nonspacing)).head?
  match all with
  | [] => true
  | .left :: _ =>
    !all.contains .right && !all.contains .arabicNumber &&
      last.any fun d => d == .left || d == .europeanNumber
  | .right :: _ =>
    !all.contains .left && !(all.contains .arabicNumber && all.contains .europeanNumber) &&
      last.any fun d => d == .right || d == .arabicNumber || d == .europeanNumber
  | _ => false

def forbidden (c : Char) : Bool :=
  let n := c.toNat
  n ≤ 0x20 || n == 0x7f ||
    ['%', '#', '/', ':', '<', '>', '?', '@', '[', '\x5c', ']', '^', '|'].contains c

/-- Where one label has a direction, all have to keep to theirs. -/
def directionsFit (labels : List (List Char)) : Bool :=
  !labels.any isDirected || labels.all directionFits

def domainToAscii (domain : List Char) : Option (List Char) := do
  let labels := (← spell domain).splitOn '.'
  let read ← labels.mapM readLabel
  let ascii := ['.'].intercalate (labels.map writeLabel)
  if !directionsFit read || ascii.any forbidden then none else return ascii

end Banter.Url
