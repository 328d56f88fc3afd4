import Banter.Charset.Name
import Banter.Reply.Fault
import Banter.Text.Blank
import Banter.Url.Percent
import Banter.Wire.Misfit

/-!
The character set in the content type of a response. The value of a parameter can be written in
sections, and sections with escapes in front of which a character set stands.
-/
namespace Banter.Wire

/-- Parameters are parted by semicolons outside of quotes. A quote behind a backslash is none. -/
def splitParameters : Bool → Bool → List Char → List (List Char)
  | _, _, [] => [[]]
  | inQuotes, escaped, c :: rest =>
    if c = ';' && !inQuotes then [] :: splitParameters false false rest
    else
      match splitParameters (inQuotes != (c = '\x22' && !escaped)) (c = '\\') rest with
      | [] => [[c]]
      | piece :: pieces => (c :: piece) :: pieces

def dropEscapes (escaped : Char) : List Char → List Char
  | '\\' :: c :: rest =>
    if c = escaped then c :: dropEscapes escaped rest else '\\' :: dropEscapes escaped (c :: rest)
  | c :: rest => c :: dropEscapes escaped rest
  | [] => []

def unquote (s : List Char) : List Char :=
  match s with
  | '\x22' :: rest =>
    if rest.getLast? = some '\x22' then dropEscapes '\x22' (dropEscapes '\\' rest.dropLast) else s
  | '<' :: rest => if rest.getLast? = some '>' then rest.dropLast else s
  | _ => s

structure Parameter where
  name : List Char
  value : List Char
  deriving DecidableEq, Repr

/-- A name without a value is left as it is written. -/
def Parameter.ofPiece (piece : List Char) : Parameter :=
  match piece.dropWhile (· ≠ '=') with
  | _ :: value =>
    ⟨(Text.trim (piece.takeWhile (· ≠ '='))).map Char.toLower, unquote (Text.trim value)⟩
  | [] => ⟨Text.trim piece, []⟩

structure Section where
  number : Option Nat
  value : List Char
  hasEscapes : Bool
  deriving DecidableEq, Repr

/-- What the text of a value is, and the character set that it is said to be in. -/
structure ParameterText where
  text : List Char
  charset : Option (List Char)
  deriving DecidableEq, Repr

inductive ContentTypeFlaw where
  | notAscii (strangers : Misfit)
  /-- Some sections of a parameter are numbered, as the first is or is not, and some are not. -/
  | partlyNumbered (firstIs : Bool)
  | longNumber (digits : Nat)
  | nulInName
  deriving DecidableEq, Repr

namespace ContentTypeFlaw

def message : ContentTypeFlaw → String
  | notAscii strangers => strangers.message "ascii" "ordinal not in range(128)"
  | partlyNumbered firstIs =>
    let (one, other) := if firstIs then ("NoneType", "int") else ("int", "NoneType")
    "'<' not supported between instances of '" ++ one ++ "' and '" ++ other ++ "'"
  | longNumber digits => Json.digitsMessage digits
  | nulInName => "embedded null character"

end ContentTypeFlaw

def isWord (c : Char) : Bool :=
  c.isAlphanum || c == '_'

/-- The name of the parameter that a section is of, and the digits of its number. -/
def sectionName? (name : List Char) : Option (List Char × List Char) :=
  let whole := name.takeWhile isWord
  match name.drop whole.length with
  | '*' :: rest =>
    let digits := rest.takeWhile Char.isDigit
    let after := rest.drop digits.length
    if !whole.isEmpty ∧ (after = [] ∨ after = ['*'] ∧ digits ≠ []) then some (whole, digits)
    else none
  | _ => none

def digitsNumber? (digits : List Char) : Except ContentTypeFlaw (Option Nat) :=
  if Json.digitLimit < digits.length then .error (.longNumber digits.length)
  else if digits.isEmpty then .ok none
  else .ok (some (digits.foldl (fun n c => 10 * n + (c.toNat - 48)) 0))

/-- Parameters whose values are whole, and the sections of others by their names, in the order in
which the names come up. -/
structure Parameters where
  whole : List Parameter
  parts : List (List Char × List Section)

def addSection (name : List Char) (s : Section) :
    List (List Char × List Section) → List (List Char × List Section)
  | [] => [(name, [s])]
  | (other, sections) :: rest =>
    if other = name then (other, sections ++ [s]) :: rest
    else (other, sections) :: addSection name s rest

def Parameters.add (ps : Parameters) (p : Parameter) : Except ContentTypeFlaw Parameters := do
  match sectionName? p.name with
  | none => .ok { ps with whole := ps.whole ++ [p] }
  | some (name, digits) =>
    let number ← digitsNumber? digits
    let s : Section := ⟨number, p.value, p.name.getLast? = some '*'⟩
    .ok { ps with parts := addSection name s ps.parts }

/-- The first piece is never a section. -/
def Parameters.ofText (content : List Char) : Except ContentTypeFlaw Parameters :=
  match (splitParameters false false content).map Parameter.ofPiece with
  | [] => .ok ⟨[], []⟩
  | first :: rest => rest.foldlM Parameters.add ⟨[first], []⟩

/-- By number, then by value, and sections without escapes first. -/
def Section.comesFirst (a b : Section) : Bool :=
  let numbers := compare (a.number.getD 0) (b.number.getD 0)
  let values := compare (String.ofList a.value) (String.ofList b.value)
  match numbers.then values with
  | .lt => true
  | .gt => false
  | .eq => !a.hasEscapes || b.hasEscapes

/-- Escapes give bytes, which are taken for characters until the character set is known. -/
def Section.chars (s : Section) : List Char :=
  if s.hasEscapes then (Url.percentDecode (s.value.map Char.toNat)).map Char.ofNat else s.value

/-- Escapes anywhere call for a character set and a language in front, with an apostrophe behind
each. -/
def joinSections (sections : List Section) : ParameterText :=
  let text := (sections.mergeSort Section.comesFirst).flatMap Section.chars
  if !sections.any (·.hasEscapes) then ⟨text, none⟩
  else
    match text.splitOn '\x27' with
    | charset :: _ :: value :: more =>
      ⟨['\x27'].intercalate (value :: more), some (if charset.isEmpty then usAscii else charset)⟩
    | _ => ⟨text, some usAscii⟩
where
  usAscii : List Char := "us-ascii".toList

/-- The sections of one parameter are numbered all or none. -/
def checkNumbers (sections : List Section) : Except ContentTypeFlaw Unit :=
  match sections with
  | [] => .ok ()
  | first :: rest =>
    if rest.any fun s => s.number.isSome != first.number.isSome then
      .error (.partlyNumbered first.number.isSome)
    else .ok ()

def Parameters.find? (ps : Parameters) (name : String) : Option ParameterText :=
  let isNamed (other : List Char) := String.ofList (other.map Char.toLower) = name
  match ps.whole.find? fun p => isNamed p.name with
  | some p => some ⟨p.value, none⟩
  | none => (ps.parts.find? fun (other, _) => isNamed other).map fun (_, s) => joinSections s

/-- The characters of a name. A text that is not in its character set is taken as it is. -/
def ParameterText.name (t : ParameterText) : Except ContentTypeFlaw (List Char) :=
  match t.charset with
  | none => .ok t.text
  | some charset =>
    if t.text.isEmpty then .ok []
    else if charset.contains '\x00' then .error .nulInName
    else
      .ok (((Charset.ofName? charset).bind (·.decodeStrictly? (t.text.map Char.toNat))).getD t.text)

/-- The character set that a content type names, if it is known, else UTF-8. -/
def charsetOf (contentType : List Char) : Except ContentTypeFlaw Charset := do
  let ps ← Parameters.ofText contentType
  ps.parts.forM fun (_, sections) => checkNumbers sections
  match ps.find? "charset" with
  | none => .ok .utf8
  | some text =>
    let name ← text.name
    if !name.all Misfit.isAscii then .ok .utf8
    else if name.contains '\x00' then .error .nulInName
    else .ok ((Charset.ofName? name).getD .utf8)

end Banter.Wire
