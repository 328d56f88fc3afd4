import Banter.Text.CodePoint
import Banter.Text.Hex
import Banter.Text.Printable

/-! Quoted texts, with escapes for what cannot be shown. -/
namespace Banter.Text

/-- Single quotes, unless only double quotes can do without an escape. -/
def quoteMark (s : List CodePoint) : Char :=
  if s.contains (.scalar '\x27') && !s.contains (.scalar '\x22') then '\x22' else '\x27'

def escapeNumber (n : Nat) : List Char :=
  if n < 0x100 then '\x5c' :: 'x' :: hexDigits 2 n
  else if n < 0x10000 then '\x5c' :: 'u' :: hexDigits 4 n
  else '\x5c' :: 'U' :: hexDigits 8 n

def quoteCodePoint (mark : Char) : CodePoint → List Char
  | .surrogate n => escapeNumber n
  | .scalar c =>
    if c = mark ∨ c = '\x5c' then ['\x5c', c]
    else if c = '\t' then ['\x5c', 't']
    else if c = '\n' then ['\x5c', 'n']
    else if c = '\r' then ['\x5c', 'r']
    else if isPrintable c then [c]
    else escapeNumber c.toNat

def quoted (s : List CodePoint) : List Char :=
  let mark := quoteMark s
  mark :: s.flatMap (quoteCodePoint mark) ++ [mark]

def quotedText (s : String) : String :=
  String.ofList (quoted (CodePoint.ofString s))

end Banter.Text
