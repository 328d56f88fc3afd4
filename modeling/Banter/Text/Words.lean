import Banter.Text.Blank

/-! Words are the maximal runs of characters that are not white space. -/
namespace Banter.Text

/-- Put a character in front of the first word, or let it start one. -/
def extendWord (c : Char) : List (List Char) → List (List Char)
  | [] => [[c]]
  | word :: rest => (c :: word) :: rest

def words : List Char → List (List Char)
  | [] => []
  | [c] => if isBlank c then [] else [[c]]
  | c :: d :: rest =>
    if isBlank c then words (d :: rest)
    else if isBlank d then [c] :: words (d :: rest)
    else extendWord c (words (d :: rest))

def unwords (ws : List (List Char)) : List Char :=
  [' '].intercalate ws

/-- Each run of white space becomes one space, and none is left at the ends. -/
def squeeze (text : Option String) : String :=
  String.ofList (unwords (words (given text)))

end Banter.Text
