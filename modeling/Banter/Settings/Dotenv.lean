import Banter.Json.Value
import Banter.Text.Blank
import Banter.Text.Newline

/-!
Files of settings: a name, an equals sign and a value a line, with quotes, comments and references
to other settings. A line that does not follow the form is passed over.
-/
namespace Banter.Dotenv

def isInline (c : Char) : Bool :=
  Text.isBlank c && c ≠ '\n' && c ≠ '\r'

def skipInline (s : List Char) : List Char :=
  s.dropWhile isInline

def inLine (c : Char) : Bool :=
  c ≠ '\n' && c ≠ '\r'

/-- The word `export` in front of a name has no meaning. -/
def skipExport (s : List Char) : List Char :=
  match "export".toList.isPrefixOf s, s.drop 6 with
  | true, c :: rest => if isInline c then skipInline rest else s
  | _, _ => s

/-- A name, in single quotes or without, or none where a comment begins. -/
def takeName (s : List Char) : Option (Option (List Char) × List Char) :=
  match s with
  | '#' :: _ => some (none, s)
  | '\x27' :: rest =>
    match rest.takeWhile (· ≠ '\x27'), rest.dropWhile (· ≠ '\x27') with
    | [], _ => none
    | _, [] => none
    | name, _ :: after => some (some name, after)
  | _ =>
    let inName (c : Char) : Bool := c ≠ '=' && c ≠ '#' && !Text.isBlank c
    match s.takeWhile inName with
    | [] => none
    | name => some (some name, s.dropWhile inName)

/-- The text up to the closing quote, and what follows it. A character behind a backslash closes
nothing. -/
def takeQuoted (mark : Char) : List Char → Option (List Char × List Char)
  | [] => none
  | '\x5c' :: c :: rest =>
    (takeQuoted mark rest).map fun (value, after) => ('\x5c' :: c :: value, after)
  | c :: rest =>
    if c = mark then some ([], rest)
    else (takeQuoted mark rest).map fun (value, after) => (c :: value, after)

def singleEscape : Char → Option Char
  | '\x5c' => some '\x5c'
  | '\x27' => some '\x27'
  | _ => none

def doubleEscape : Char → Option Char
  | 'a' => some '\x07'
  | 'b' => some '\x08'
  | 'f' => some '\x0c'
  | 'n' => some '\n'
  | 'r' => some '\r'
  | 't' => some '\t'
  | 'v' => some '\x0b'
  | '\x22' => some '\x22'
  | c => singleEscape c

/-- Resolve the escapes that a table knows and leave all others. -/
def unescape (table : Char → Option Char) : List Char → List Char
  | '\x5c' :: c :: rest =>
    match table c with
    | some x => x :: unescape table rest
    | none => '\x5c' :: unescape table (c :: rest)
  | c :: rest => c :: unescape table rest
  | [] => []

/-- A value without quotes ends at a number sign behind white space. The flag tells whether white
space came before. -/
def dropComment : Bool → List Char → List Char
  | _, [] => []
  | spaced, c :: rest =>
    if spaced && c = '#' then [] else c :: dropComment (Text.isBlank c) rest

/-- The value behind an equals sign. White space in front of it does not count, but makes a number
sign the start of a comment. -/
def takeValue (s : List Char) : Option (List Char × List Char) :=
  match skipInline s with
  | '\x27' :: rest =>
    (takeQuoted '\x27' rest).map fun (v, after) => (unescape singleEscape v, after)
  | '\x22' :: rest =>
    (takeQuoted '\x22' rest).map fun (v, after) => (unescape doubleEscape v, after)
  | start =>
    some (Text.trimRight (dropComment (start.length < s.length) (start.takeWhile inLine)),
      start.dropWhile inLine)

def takeEnd (s : List Char) : Option (List Char) :=
  let afterSpace := skipInline s
  let afterComment := match afterSpace with
    | '#' :: _ => afterSpace.dropWhile inLine
    | _ => afterSpace
  match skipInline afterComment with
  | [] => some []
  | '\r' :: '\n' :: rest => some rest
  | c :: rest => if inLine c then none else some rest

def takeAssignment (s : List Char) : Option (Option (List Char) × List Char) :=
  match s with
  | '=' :: rest => (takeValue rest).map fun (v, after) => (some v, after)
  | _ => some (none, s)

abbrev Binding := String × Option String

def skipLine (s : List Char) : List Char :=
  (s.dropWhile inLine).drop 1

/-- One binding, and the rest of the file. Where the form is broken, the rest of the line at that
point is lost. -/
def takeBinding (s : List Char) : Option Binding × List Char :=
  let start := skipExport s
  match takeName start with
  | none => (none, skipLine start)
  | some (name, afterName) =>
    match takeAssignment (skipInline afterName) with
    | none => (none, skipLine (skipInline ((skipInline afterName).drop 1)))
    | some (value, afterValue) =>
      match takeEnd afterValue with
      | none => (none, skipLine afterValue)
      | some rest => (name.map fun n => (String.ofList n, value.map String.ofList), rest)

/-- The bindings of a file, in order. The count bounds the lines. -/
def bindingsFrom : Nat → List Char → List Binding
  | 0, _ => []
  | fuel + 1, s =>
    match s.dropWhile Text.isBlank with
    | [] => []
    | start =>
      let (binding, rest) := takeBinding start
      binding.toList ++ bindingsFrom fuel rest

def bindings (s : List Char) : List Binding :=
  bindingsFrom (s.length + 1) s

structure Reference where
  name : List Char
  default : List Char
  size : Nat

def reference? (s : List Char) : Option Reference :=
  let inName (c : Char) : Bool := c ≠ '\x7d' && c ≠ ':'
  let name := s.takeWhile inName
  match s.dropWhile inName with
  | '\x7d' :: _ => some ⟨name, [], name.length + 3⟩
  | ':' :: '-' :: rest =>
    let default := rest.takeWhile (· ≠ '\x7d')
    if default.length < rest.length then some ⟨name, default, name.length + default.length + 5⟩
    else none
  | _ => none

/-- Put values in the place of references. The count says how many characters of the last one are
still to be passed. -/
def expand (value : List Char → Option (List Char)) : Nat → List Char → List Char
  | _, [] => []
  | n + 1, _ :: rest => expand value n rest
  | 0, c :: rest =>
    let found := match c, rest with
      | '$', '\x7b' :: inner => reference? inner
      | _, _ => none
    match found with
    | some r => (value r.name).getD r.default ++ expand value (r.size - 1) rest
    | none => c :: expand value 0 rest

/-- The value of a name for a reference: from the file so far, else from the environment. A name
without a value stands for nothing. -/
def valueOf (environment : List (String × String)) (soFar : List Binding) (name : List Char) :
    Option (List Char) :=
  match soFar.lookup (String.ofList name) with
  | some value => some (Text.given value)
  | none => (environment.lookup (String.ofList name)).map String.toList

/-- A byte order mark at the start of a file is no part of it. -/
def dropMark (s : List Char) : List Char :=
  match s with
  | c :: rest => if c.toNat = 0xfeff then rest else s
  | [] => []

/-- The settings of a file, with references resolved from top to bottom. -/
def read (environment : List (String × String)) (file : String) : List Binding :=
  (bindings (Text.unifyNewlines (dropMark file.toList))).foldl (fun soFar (name, value) =>
    Json.assign soFar name (value.map fun v =>
      String.ofList (expand (valueOf environment soFar) 0 v.toList))) []

end Banter.Dotenv
