import Banter.Text.Case.Cased
import Banter.Text.Case.Lowercase

/-! Lowercasing a text. Only the capital sigma depends on its neighbours: behind a letter and not
before one it takes its final form. -/
namespace Banter.Text

/-- Does a cased character come next, not counting those passed over? -/
def casedAhead (s : List Char) : Bool :=
  match s.dropWhile isCaseIgnorable with
  | [] => false
  | c :: _ => isCased c

/-- The flag tells whether a cased character came before, not counting those passed over. -/
def lowerFrom : Bool → List Char → List Char
  | _, [] => []
  | behind, c :: rest =>
    (if c = 'Σ' then [if behind && !casedAhead rest then 'ς' else 'σ'] else lowerChar c) ++
      lowerFrom (if isCaseIgnorable c then behind else isCased c) rest

def lower (s : List Char) : List Char :=
  lowerFrom false s

def lowerText (s : String) : String :=
  String.ofList (lower s.toList)

end Banter.Text
