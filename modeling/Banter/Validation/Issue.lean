import Banter.Url.Flaw

/-! What can be wrong with given data, and where. -/
namespace Banter.Validation

inductive Place where
  | key (name : String)
  | index (n : Nat)
  deriving DecidableEq, Repr

inductive Complaint where
  | missing
  | notString
  | notUnicode
  | notBool
  | badBool
  | notInt
  | badInt
  | hugeInt
  | fractional
  | notFinite
  | notNumber
  | badNumber
  | notList
  | notRecord (name : String)
  | notUrl
  | badScheme
  | badUrl (flaw : Url.Flaw)
  | notMember (options : List String)
  | unacceptable (reason : String)
  deriving DecidableEq, Repr

namespace Complaint

def code : Complaint → String
  | missing => "missing"
  | notString => "string_type"
  | notUnicode => "string_unicode"
  | notBool => "bool_type"
  | badBool => "bool_parsing"
  | notInt => "int_type"
  | badInt => "int_parsing"
  | hugeInt => "int_parsing_size"
  | fractional => "int_from_float"
  | notFinite => "finite_number"
  | notNumber => "float_type"
  | badNumber => "float_parsing"
  | notList => "list_type"
  | notRecord _ => "model_type"
  | notUrl => "url_type"
  | badScheme => "url_scheme"
  | badUrl _ => "url_parsing"
  | notMember _ => "enum"
  | unacceptable _ => "value_error"

/-- Quoted options with commas, and a word before the last. -/
def alternatives : List String → String
  | [] => ""
  | [a] => "'" ++ a ++ "'"
  | [a, b] => "'" ++ a ++ "' or '" ++ b ++ "'"
  | a :: rest => "'" ++ a ++ "', " ++ alternatives rest

def message : Complaint → String
  | missing => "Field required"
  | notString => "Input should be a valid string"
  | notUnicode => "Input should be a valid string, unable to parse raw data as a unicode string"
  | notBool => "Input should be a valid boolean"
  | badBool => "Input should be a valid boolean, unable to interpret input"
  | notInt => "Input should be a valid integer"
  | badInt => "Input should be a valid integer, unable to parse string as an integer"
  | hugeInt => "Unable to parse input string as an integer, exceeded maximum size"
  | fractional => "Input should be a valid integer, got a number with a fractional part"
  | notFinite => "Input should be a finite number"
  | notNumber => "Input should be a valid number"
  | badNumber => "Input should be a valid number, unable to parse string as a number"
  | notList => "Input should be a valid list"
  | notRecord name => "Input should be a valid dictionary or instance of " ++ name
  | notUrl => "URL input should be a string or URL"
  | badScheme => "URL scheme should be 'http' or 'https'"
  | badUrl flaw => "Input should be a valid URL, " ++ flaw.message
  | notMember options => "Input should be " ++ alternatives options
  | unacceptable reason => "Value error, " ++ reason

end Complaint

def Place.text : Place → String
  | key name => name
  | index n => toString n

structure Issue where
  place : List Place
  complaint : Complaint
  deriving DecidableEq, Repr

def Issue.text (i : Issue) : String :=
  String.intercalate "." (i.place.map Place.text) ++ ": " ++ i.complaint.message

end Banter.Validation
