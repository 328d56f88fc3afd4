import Banter.Text.Words

/-! Sentences end at white space that follows a full stop, an exclamation or a question mark. -/
namespace Banter.Text

def isSentenceMark (c : Char) : Bool :=
  c == '.' || c == '!' || c == '?'

/-- Where a scan stands: in running text, right behind a mark, or in the white space after one. -/
inductive Cursor where
  | running
  | marked
  | between
  deriving DecidableEq, Repr

def Cursor.after (c : Char) : Cursor :=
  if isSentenceMark c then .marked else .running

/-- Cut at every run of white space that follows a mark. The run itself is dropped. -/
def pieces : Cursor → List Char → List (List Char)
  | _, [] => [[]]
  | .running, c :: rest => extendWord c (pieces (.after c) rest)
  | .marked, c :: rest =>
    if isBlank c then [] :: pieces .between rest else extendWord c (pieces (.after c) rest)
  | .between, c :: rest =>
    if isBlank c then pieces .between rest else extendWord c (pieces (.after c) rest)

/-- The pieces that hold a word, with single spaces inside. -/
def sentencesOf (s : List Char) : List (List Char) :=
  ((pieces .running (trim s)).filter fun p => !p.all isBlank).map fun p => unwords (words p)

def sentences (text : Option String) : List String :=
  (sentencesOf (given text)).map String.ofList

/-- Group words into sentences: a group ends behind a word whose last character is a mark, and at
the end. -/
def sentenceGroups : List (List Char) → List (List (List Char))
  | [] => []
  | [word] => [[word]]
  | word :: next :: rest =>
    if word.getLast?.any isSentenceMark then [word] :: sentenceGroups (next :: rest)
    else match sentenceGroups (next :: rest) with
      | [] => [[word]]
      | group :: groups => (word :: group) :: groups

end Banter.Text
