/-! Line ends: a line feed, a carriage return, or both in this order. -/
namespace Banter.Text

def unifyNewlines : List Char → List Char
  | [] => []
  | '\r' :: '\n' :: rest => '\n' :: unifyNewlines rest
  | c :: rest => (if c = '\r' then '\n' else c) :: unifyNewlines rest

/-- Lines with their line feeds. The last line may lack one. -/
def lines : List Char → List (List Char)
  | [] => []
  | c :: rest =>
    if c = '\n' then [c] :: lines rest
    else match lines rest with
      | [] => [[c]]
      | line :: more => (c :: line) :: more

/-- The lines of a text that more may follow: those that have ended for sure. -/
def endedLines (s : List Char) : List (List Char) :=
  let known := if s.getLast? = some '\r' then s.dropLast else s
  (lines (unifyNewlines known)).filter (·.getLast? = some '\n')

end Banter.Text
