import Banter.Json.Reader

/-! Why an outcome carries no reply that can be used. -/
namespace Banter

inductive BodyFlaw where
  | empty
  /-- The line and column count from one, the offset from zero. -/
  | notJson (flaw : Json.Flaw) (line column offset : Nat)
  | notArray (kind : String)
  | emptyArray
  | notObject (kind : String)
  | badReply (message : String)
  | described (text : String)
  deriving DecidableEq, Repr

inductive ReplyFault where
  | general (message : String)
  | transport (message : String)
  | unsuccessful (status : Int) (body : String)
  | malformed (flaw : BodyFlaw)
  | missing (field : String) (detail : Option String)
  | ignored (message : String)
  deriving DecidableEq, Repr

/-- What breaks the reading of an outcome off, without being a fault of the reply. -/
inductive Breach where
  | digits (count : Nat)
  | noBody
  deriving DecidableEq, Repr

namespace Json

def Flaw.message : Flaw → String
  | expectingValue => "Expecting value"
  | expectingComma => "Expecting ',' delimiter"
  | expectingColon => "Expecting ':' delimiter"
  | expectingName => "Expecting property name enclosed in double quotes"
  | controlCharacter => "Invalid control character at"
  | badEscape => "Invalid \x5cescape"
  | badUnicodeEscape => "Invalid \x5cuXXXX escape"
  | unterminatedString => "Unterminated string starting at"
  | extraData => "Extra data"
  | byteOrderMark => "Unexpected UTF-8 BOM (decode using utf-8-sig)"

def digitsMessage (count : Nat) : String :=
  "Exceeds the limit (" ++ toString digitLimit ++
    " digits) for integer string conversion: value has " ++ toString count ++
    " digits; use sys.set_int_max_str_digits() to increase the limit"

end Json

def Breach.message : Breach → String
  | digits count => Json.digitsMessage count
  | noBody => "'NoneType' object is not subscriptable"

def BodyFlaw.message : BodyFlaw → String
  | empty => "empty response body"
  | notJson flaw line column offset =>
    "response is not JSON: " ++ flaw.message ++ ": line " ++ toString line ++ " column " ++
      toString column ++ " (char " ++ toString offset ++ ")"
  | notArray kind => "expected a JSON array, got " ++ kind
  | emptyArray => "empty response array"
  | notObject kind => "expected an object as first element, got " ++ kind
  | badReply message => "invalid reply object: " ++ message
  | described text => text

def ReplyFault.message : ReplyFault → String
  | general message => message
  | transport message => message
  | unsuccessful status _ => "generation service returned HTTP " ++ toString status
  | malformed flaw => flaw.message
  | missing field detail =>
    "reply is missing required field '" ++ field ++ "'" ++
      match detail with
      | some d => if d.isEmpty then "" else ": " ++ d
      | none => ""
  | ignored message => message

end Banter
