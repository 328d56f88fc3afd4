import Banter.Json.Writer
import Banter.Text.Quoted

/-! Code points that a form of writing has no room for. -/
namespace Banter.Wire

open Banter.Text (CodePoint)

/-- Code points in a row that do not fit, and the place of the first. -/
structure Misfit where
  place : Nat
  points : List Nat
  deriving DecidableEq, Repr

namespace Misfit

/-- The message names the form, and what it has no room for. -/
def message (form reason : String) (m : Misfit) : String :=
  "'" ++ form ++ "' codec can't encode character" ++
    (match m.points with
      | [n] => " '" ++ String.ofList (Text.escapeNumber n) ++ "' in position " ++ toString m.place
      | _ => "s in position " ++ toString m.place ++ "-" ++
          toString (m.place + m.points.length - 1)) ++ ": " ++ reason

def isAscii (c : Char) : Bool :=
  c.toNat < 0x80

def beyondAscii? (s : List Char) : Option Misfit :=
  let before := s.takeWhile isAscii
  match (s.drop before.length).takeWhile (!isAscii ·) with
  | [] => none
  | strangers => some ⟨before.length, strangers.map Char.toNat⟩

def half? : CodePoint → Option Nat
  | .scalar _ => none
  | .surrogate n => some n

/-- The first halves of surrogate pairs in the fields of a record, by their place in the text that
would be sent. -/
def halves? (before : List (String × List CodePoint)) :
    List (String × List CodePoint) → Option Misfit
  | [] => none
  | (key, text) :: rest =>
    let whole := text.takeWhile fun p => (half? p).isNone
    match ((text.drop whole.length).takeWhile fun p => (half? p).isSome).filterMap half? with
    | [] => halves? (before ++ [(key, text)]) rest
    | points =>
      let written := Json.write (.record ((before ++ [(key, whole)]).map fun (k, t) => (k, .str t)))
      some ⟨written.length - "\x22\x7d".length, points⟩

end Misfit
end Banter.Wire
