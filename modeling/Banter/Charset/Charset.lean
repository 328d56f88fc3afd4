import Banter.Charset.Iso2022
import Banter.Charset.Spelled
import Banter.Charset.Unicode
import Banter.Text.Hex
import Banter.Url.Punycode

/-! Character sets, and the texts that bytes are in them. -/
namespace Banter

namespace Charset

inductive Obstacle where
  /-- There is no mark to tell the order of the bytes in a unit of so many bits. -/
  | unmarked (bits : Nat)
  /-- A sequence is not ended for too long. -/
  | overfull
  | notText
  | lettersOnly
  | noCharacters
  /-- Nothing broken is ever accepted. -/
  | strictOnly
  | notAscii (byte place : Nat)
  deriving DecidableEq, Repr

def Obstacle.message : Obstacle → String
  | unmarked bits => "UTF-" ++ toString bits ++ " stream does not start with BOM"
  | overfull => "pending buffer overflow"
  | notText => ""
  | lettersOnly => "descriptor 'translate' for 'str' objects doesn't apply to a 'bytes' object"
  | noCharacters => "undefined encoding"
  | strictOnly => "Unsupported error handling replace"
  | notAscii byte place =>
    "'ascii' codec can't decode byte 0x" ++ String.ofList (Text.hexDigits 2 byte) ++
      " in position " ++ toString place ++ ": ordinal not in range(128)"

end Charset

inductive Charset where
  | utf8
  /-- UTF-8 with a mark in front that does not count. -/
  | utf8Marked
  /-- Without a given order a mark in front has to tell it. -/
  | utf16 (order : Option Charset.ByteOrder)
  | utf32 (order : Option Charset.ByteOrder)
  | utf7
  | page (last : String)
  | pieces (next : Nat → List Nat → Charset.Piece)
  | hz
  | iso2022 (variety : Charset.Iso2022.Variety)
  | punycode
  | unusable (why : Charset.Obstacle)

namespace Charset

def utf8Mark : List Nat := [0xef, 0xbb, 0xbf]

/-- The start of a mark alone is no text. -/
def withoutMark (bytes : List Nat) : List Nat :=
  if bytes.length < utf8Mark.length ∧ bytes.isPrefixOf utf8Mark then []
  else if utf8Mark.isPrefixOf bytes then bytes.drop utf8Mark.length
  else bytes

/-- The order that a mark tells, and what follows it. Bytes that are fewer than a unit need no
mark. -/
def ordered (mark : List Nat) (bytes : List Nat) : Option (ByteOrder × List Nat) :=
  if (ByteOrder.big.arrange mark).isPrefixOf bytes then some (.big, bytes.drop mark.length)
  else if (ByteOrder.little.arrange mark).isPrefixOf bytes then
    some (.little, bytes.drop mark.length)
  else if bytes.length < mark.length then some (.little, bytes)
  else none

/-- The digits behind the last hyphen have to be ASCII. -/
def readPunycode (bytes : List Nat) : Except Obstacle (List Char) :=
  let tail := (bytes.reverse.takeWhile (· ≠ '-'.toNat)).reverse
  let basic := bytes.take (bytes.length - tail.length - 1)
  match tail.findIdx? (0x80 ≤ ·) with
  | some place => .error (.notAscii (tail.getD place 0) place)
  | none =>
    .ok (Url.Punycode.decodeLoosely (tail.map Char.ofNat)
      (basic.map fun b => (ascii? b).getD Text.Utf8.replacement))

/-- The characters of a text, with `none` for what is broken. -/
def read (c : Charset) (bytes : List Nat) : Except Obstacle (List (Option Char)) :=
  match c with
  | utf8 => .ok (Text.Utf8.decodeFrom 0 bytes)
  | utf8Marked => .ok (Text.Utf8.decodeFrom 0 (withoutMark bytes))
  | utf16 (some order) => .ok (readAll (nextUtf16 order) bytes)
  | utf16 none =>
    match ordered [0xfe, 0xff] bytes with
    | some (order, bytes) => .ok (readAll (nextUtf16 order) bytes)
    | none => .error (.unmarked 16)
  | utf32 (some order) => .ok (readAll (nextUtf32 order) bytes)
  | utf32 none =>
    match ordered [0, 0, 0xfe, 0xff] bytes with
    | some (order, bytes) => .ok (readAll (nextUtf32 order) bytes)
    | none => .error (.unmarked 32)
  | utf7 => .ok (readUtf7 none bytes)
  | page last => .ok (bytes.map (Page.char? last))
  | pieces next => .ok (readAll next bytes)
  | hz => .ok (readFrom nextHz false 0 bytes).marked
  | iso2022 variety =>
    match Iso2022.read? variety bytes with
    | some chars => .ok chars
    | none => .error .overfull
  | punycode => (readPunycode bytes).map (·.map some)
  | unusable why => .error why

/-- Everything broken becomes the replacement character. -/
def decode (c : Charset) (bytes : List Nat) : Except Obstacle (List Char) :=
  (c.read bytes).map (·.map (·.getD Text.Utf8.replacement))

/-- Nothing may be broken. Without a mark the order is little end first. -/
def decodeStrictly? (c : Charset) (bytes : List Nat) : Option (List Char) :=
  match c with
  | punycode => (bytes.mapM ascii?).bind Url.Punycode.decode?
  | _ =>
    match c.read bytes with
    | .ok chars => chars.mapM id
    | .error (.unmarked 16) => (readAll (nextUtf16 .little) bytes).mapM id
    | .error (.unmarked _) => (readAll (nextUtf32 .little) bytes).mapM id
    | .error _ => none

end Charset
end Banter
