import Banter.Text.Sentence

/-!
Cutting a reply into chat lines. Whole sentences share a line while they fit; a sentence longer
than a line is packed word by word; a word is never cut.
-/
namespace Banter.Text

def lineLimit : Int := 80

/-- A unit goes behind a space, or starts the line. -/
def glue (line unit : List Char) : List Char :=
  if line.isEmpty then unit else line ++ ' ' :: unit

def overflows (limit : Int) (line unit : List Char) : Bool :=
  !line.isEmpty && limit < line.length + unit.length + 1

def close (line : List Char) : List (List Char) :=
  if line.isEmpty then [] else [line]

/-- Fill lines with words from an open line on. The last line stays open. -/
def packWords (limit : Int) : List Char → List (List Char) → List (List Char) × List Char
  | line, [] => ([], line)
  | line, word :: rest =>
    if overflows limit line word then
      let packed := packWords limit word rest
      (line :: packed.1, packed.2)
    else packWords limit (glue line word) rest

/-- Fill lines with sentences from an open line on. What a long sentence leaves open is filled
further by the next one. -/
def packSentences (limit : Int) : List Char → List (List Char) → List (List Char)
  | line, [] => close line
  | line, sentence :: rest =>
    if (sentence.length : Int) ≤ limit then
      if overflows limit line sentence then line :: packSentences limit sentence rest
      else packSentences limit (glue line sentence) rest
    else
      let packed := packWords limit [] (words sentence)
      close line ++ packed.1 ++ packSentences limit packed.2 rest

def segmentChars (limit : Int) (s : List Char) : List (List Char) :=
  packSentences limit [] (sentencesOf s)

def segment (text : Option String) (limit : Int) : List String :=
  (segmentChars limit (given text)).map String.ofList

end Banter.Text
