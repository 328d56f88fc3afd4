import Banter.Json.Value
import Banter.Number.Shortest
import Banter.Text.Quoted

/-! Data shown in running text: words for the constants, quoted strings, spaces after commas. -/
namespace Banter.Json

open Banter.Text (CodePoint)

structure Wording where
  null : String
  true : String
  false : String

def wording : Wording := ⟨"None", "True", "False"⟩

mutual

def display : Value → List Char
  | .null => wording.null.toList
  | .bool b => (if b then wording.true else wording.false).toList
  | .int n => (toString n).toList
  | .float x => Shortest.write Shortest.plainStyle x
  | .str s => Text.quoted s
  | .arr items => '[' :: displayItems items ++ [']']
  | .obj fields => '\x7b' :: displayFields fields ++ ['\x7d']

def displayItems : List Value → List Char
  | [] => []
  | [v] => display v
  | v :: rest => display v ++ ',' :: ' ' :: displayItems rest

def displayFields : List (List CodePoint × Value) → List Char
  | [] => []
  | [(key, v)] => Text.quoted key ++ ':' :: ' ' :: display v
  | (key, v) :: rest =>
    Text.quoted key ++ ':' :: ' ' :: display v ++ ',' :: ' ' :: displayFields rest

end

/-- As running text, where a string stands without quotes. -/
def plain : Value → List Char
  | .str s => s.map CodePoint.toChar
  | v => display v

def kindName : Value → String
  | .null => "NoneType"
  | .bool _ => "bool"
  | .int _ => "int"
  | .float _ => "float"
  | .str _ => "str"
  | .arr _ => "list"
  | .obj _ => "dict"

end Banter.Json
