import Banter.Text.Blank

/-! Spans between two asterisks describe actions and are not spoken. -/
namespace Banter.Text

/-- Drop every span from one asterisk to the next. The state holds, in reverse, what was read since
an asterisk that stays if no other follows. -/
def dropSpans : Option (List Char) → List Char → List Char
  | none, [] => []
  | some held, [] => '*' :: held.reverse
  | none, c :: rest => if c = '*' then dropSpans (some []) rest else c :: dropSpans none rest
  | some held, c :: rest =>
    if c = '*' then dropSpans none rest else dropSpans (some (c :: held)) rest

def stripRoleplayChars (s : List Char) : List Char :=
  trim (dropSpans none s)

def stripRoleplay (text : Option String) : String :=
  String.ofList (stripRoleplayChars (given text))

/-- The segments between asterisks, one more than there are asterisks. -/
def starSegments : List Char → List (List Char)
  | [] => [[]]
  | c :: rest =>
    match starSegments rest with
    | [] => [[c]]
    | segment :: more => if c = '*' then [] :: segment :: more else (c :: segment) :: more

end Banter.Text
