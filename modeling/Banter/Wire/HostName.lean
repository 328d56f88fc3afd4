import Banter.Settings.Settings
import Banter.Text.Quoted
import Banter.Url.Character.Symbol

/-!
The hosts that requests can go to. A domain that starts with an ASCII form is read label by label,
and each label has to be a word: letters, marks and digits, with hyphens inside.
-/
namespace Banter.Wire

inductive HostFlaw where
  | longUrl
  /-- Four numbers, but not with full stops between them. -/
  | looseAddress (host : List Char)
  | longDomain
  | emptyLabel
  | hyphensInside
  | hyphenAtEdge
  /-- A sign that is part of no word, with its place in the label. -/
  | sign (c : Char) (place : Nat) (label : List Char)
  /-- A character that its neighbours do not allow. -/
  | misplaced (c : Char) (place : Nat) (label : List Char)
  /-- A letter of which it is not known in what direction it is written. -/
  | undirected (place : Nat) (label : List Char)
  deriving DecidableEq, Repr

namespace HostFlaw

def codePoint (c : Char) : String :=
  "U+" ++ String.ofList ((Text.hexDigits 4 c.toNat).map Char.toUpper)

def message : HostFlaw → String
  | longUrl => "URL too long"
  | looseAddress host => "Invalid IPv4 address: " ++ Text.quotedText (String.ofList host)
  | longDomain => "Domain too long"
  | emptyLabel => "Empty Label"
  | hyphensInside => "Label has disallowed hyphens in 3rd and 4th position"
  | hyphenAtEdge => "Label must not start or end with a hyphen"
  | sign c place label =>
    "Codepoint " ++ codePoint c ++ " at position " ++ toString place ++ " of " ++
      Text.quotedText (String.ofList label) ++ " not allowed"
  | misplaced c place label =>
    "Codepoint " ++ codePoint c ++ " not allowed at position " ++ toString place ++ " in " ++
      Text.quotedText (String.ofList label)
  | undirected place label =>
    "Unknown directionality in label " ++ Text.quotedText (String.ofList label) ++
      " at position " ++ toString place

end HostFlaw

/-- A state while four numbers are looked for: the dividers to come, and whether a digit of the
present number was seen. -/
abbrev NumberState := Nat × Bool

/-- One more character. A digit may count as a digit or as a divider. -/
def stepNumber (c : Char) (states : List NumberState) : List NumberState :=
  (states.flatMap fun (dividers, seen) =>
    (if c.isDigit then [(dividers, true)] else []) ++
      if seen && 0 < dividers then [(dividers - 1, false)] else []).eraseDups

def looksLikeAddress (host : List Char) : Bool :=
  (host.foldl (fun states c => stepNumber c states) [(3, false)]).contains (0, true)

/-- May a character stand here? The text before comes last character first. -/
def placeFits (label before : List Char) (c : Char) (after : List Char) : Bool :=
  let n := c.toNat
  if n = 0xb7 then before.head? == some 'l' && after.head? == some 'l'
  else if n = 0x375 then after.head?.any Url.isGreek
  else if n = 0x5f3 || n = 0x5f4 then before.head?.any Url.isHebrew
  else if n = 0x30fb then label.any fun d => d ≠ c && Url.isJapanese d
  else true

def characterFlaw? (label : List Char) : List Char → List Char → Option HostFlaw
  | _, [] => none
  | before, c :: after =>
    let place := before.length + 1
    if Url.isSymbol c then some (.sign c place label)
    else if !placeFits label before c after then some (.misplaced c place label)
    else characterFlaw? label (c :: before) after

/-- Letters too new to be shown have no known direction. -/
def directionFlaw? (label : List Char) : Option HostFlaw :=
  (label.findIdx? fun c => !Text.isPrintable c && c ≠ Url.joiner && c ≠ Url.nonJoiner).map fun i =>
    .undirected (i + 1) label

def labelFlaw? (label : List Char) : Option HostFlaw :=
  if label.isEmpty then some .emptyLabel
  else if (label.drop 2).take 2 = ['-', '-'] then some .hyphensInside
  else if label.head? = some '-' ∨ label.getLast? = some '-' then some .hyphenAtEdge
  else characterFlaw? label [] label <|> directionFlaw? label

/-- The longest name of a domain, with a full stop at its end. -/
def longestDomain : Nat := 254

def domainFlaw? (domain : List Char) : Option HostFlaw :=
  if longestDomain < domain.length then some .longDomain
  else
    let labels := domain.splitOn '.'
    let labels := if labels.getLast? = some [] then labels.dropLast else labels
    labels.findSome? fun label => labelFlaw? ((Url.readLabel label).getD label)

def longestUrl : Nat := 65536

/-- What stands in the way of every request. Domains that do not start with an ASCII form are not
looked at any closer. -/
def obstacle? (s : Settings) : Option HostFlaw :=
  if longestUrl < s.messageUrl.length then some .longUrl
  else
    match s.endpoint.host with
    | .domain name =>
      if looksLikeAddress name then some (.looseAddress name)
      else if Url.asciiMark.isPrefixOf name then domainFlaw? name
      else none
    | _ => none

end Banter.Wire
