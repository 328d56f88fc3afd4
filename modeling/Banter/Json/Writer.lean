import Banter.Json.Value
import Banter.Number.Shortest
import Banter.Text.Hex

/-! Writing JSON without superfluous space. Only quotes, backslashes and controls are escaped. -/
namespace Banter.Json

open Banter.Text (CodePoint hexDigits)

def escapeUnit (n : Nat) : List Char :=
  '\x5c' :: 'u' :: hexDigits 4 n

def writeChar (c : Char) : List Char :=
  match c with
  | '\x22' => ['\x5c', '\x22']
  | '\x5c' => ['\x5c', '\x5c']
  | '\n' => ['\x5c', 'n']
  | '\r' => ['\x5c', 'r']
  | '\t' => ['\x5c', 't']
  | '\x0c' => ['\x5c', 'f']
  | '\x08' => ['\x5c', 'b']
  | c => if c.toNat < 0x20 then escapeUnit c.toNat else [c]

def writeCodePoint : CodePoint → List Char
  | .scalar c => writeChar c
  | .surrogate n => escapeUnit n

def writeString (s : List CodePoint) : List Char :=
  '\x22' :: s.flatMap writeCodePoint ++ ['\x22']

def writeInt (n : Int) : List Char :=
  (toString n).toList

/-- The words for numbers without a numeral differ from those of running text. -/
def numberStyle : Shortest.Style :=
  { Shortest.plainStyle with infinity := "Infinity".toList, notANumber := "NaN".toList }

mutual

def write : Value → List Char
  | .null => "null".toList
  | .bool true => "true".toList
  | .bool false => "false".toList
  | .int n => writeInt n
  | .float x => Shortest.write numberStyle x
  | .str s => writeString s
  | .arr items => '[' :: writeItems items ++ [']']
  | .obj fields => '\x7b' :: writeFields fields ++ ['\x7d']

def writeItems : List Value → List Char
  | [] => []
  | [v] => write v
  | v :: rest => write v ++ ',' :: writeItems rest

def writeFields : List (List CodePoint × Value) → List Char
  | [] => []
  | [(key, v)] => writeString key ++ ':' :: write v
  | (key, v) :: rest => writeString key ++ ':' :: write v ++ ',' :: writeFields rest

end

def writeText (v : Value) : String :=
  String.ofList (write v)

end Banter.Json
