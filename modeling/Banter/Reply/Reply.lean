import Banter.Json.Display
import Banter.Reply.Fault
import Banter.Text.Blank
import Banter.Validation.Coercion

/-! How a request ended, and the reply that its response carries. -/
namespace Banter

open Validation (Checked Fields alongside required optional asString asRecord)

/-- The status and body that came back, or the failure that kept them from coming. -/
structure Outcome where
  sender : String
  status : Option Int
  body : Option String
  failure : Option String
  deriving DecidableEq, Repr

def successful (status : Int) : Bool :=
  200 ≤ status && status < 300

def Outcome.ok (o : Outcome) : Bool :=
  o.failure.isNone && o.status.any successful

structure Reply where
  text : String
  action : String
  deriving DecidableEq, Repr

namespace Reply

def noAction : String := "NONE"

def ignoreAction : String := "IGNORE"

/-- No action, or a blank one, is the action of doing nothing. -/
def actionOf : Json.Value → String
  | .null => noAction
  | .str s => if (s.map Text.CodePoint.toChar).all Text.isBlank then noAction
    else String.ofList (Text.trim (s.map Text.CodePoint.toChar))
  | v => String.ofList (Text.trim (Json.plain v))

def ofFields (f : Fields) : Checked Reply :=
  (required ["text"] asString f).map mk
    |> alongside (optional ["action"] noAction (fun v => .ok (actionOf v)) f)

def toJson (r : Reply) : Json.Value :=
  .record [("text", .text r.text), ("action", .text r.action)]

def ofJson : Json.Value → Checked Reply :=
  asRecord "GenerationReply" ofFields

inductive Stop where
  | fault (f : ReplyFault)
  | breach (b : Breach)
  deriving DecidableEq, Repr

/-- The place of a flaw, in a text of which `left` characters remain. -/
def locate (flaw : Json.Flaw) (text : List Char) (left : Nat) : BodyFlaw :=
  let offset := text.length - left
  let before := text.take offset
  .notJson flaw (before.count '\n' + 1) ((before.reverse.takeWhile (· ≠ '\n')).length + 1) offset

def malformed {α : Type} (flaw : BodyFlaw) : Except Stop α :=
  .error (.fault (.malformed flaw))

/-- The reply in a field list. A fault of the text is told apart from any other. -/
def ofObject (f : Fields) : Except Stop Reply :=
  match ofFields f with
  | .error issues =>
    match issues.find? fun i => i.place.head? == some (.key "text"), issues with
    | some issue, _ => .error (.fault (.missing "text" (some issue.complaint.message)))
    | none, issue :: _ => malformed (.badReply issue.complaint.message)
    | none, [] => malformed (.badReply "")
  | .ok reply =>
    if Text.blank reply.text then .error (.fault (.missing "text" (some "empty")))
    else if reply.action = ignoreAction then .error (.fault (.ignored "reply marked IGNORE"))
    else .ok reply

/-- The reply in a body: the first item of an array, an object. -/
def ofBody (body : String) : Except Stop Reply :=
  let text := Text.trim body.toList
  if text.isEmpty then malformed .empty
  else
    match Json.read text with
    | .error (.digits count) => .error (.breach (.digits count))
    | .error (.malformed flaw left) => malformed (locate flaw text left)
    | .ok (.arr []) => malformed .emptyArray
    | .ok (.arr (.obj fields :: _)) => ofObject fields
    | .ok (.arr (v :: _)) => malformed (.notObject (Json.kindName v))
    | .ok v => malformed (.notArray (Json.kindName v))

def keptBody : Nat := 500

def excerpt (n : Nat) (s : String) : String :=
  String.ofList (s.toList.take n)

def ofOutcome (o : Outcome) : Except Stop Reply :=
  match o.failure with
  | some message => .error (.fault (.transport message))
  | none =>
    if o.status.any successful then ofBody (o.body.getD "")
    else
      match o.body with
      | some body => .error (.fault (.unsuccessful (o.status.getD 0) (excerpt keptBody body)))
      | none => .error (.breach .noBody)

end Reply
end Banter
