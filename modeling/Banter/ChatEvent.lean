import Banter.Validation.Coercion

/-! A line observed in the chat. -/
namespace Banter

open Validation (Checked Fields alongside required optional asString asRecord)

inductive Channel where
  | publicChat
  | privateChat
  | clan
  | system
  deriving DecidableEq, Repr

namespace Channel

def all : List Channel := [.publicChat, .privateChat, .clan, .system]

def label : Channel → String
  | publicChat => "public"
  | privateChat => "private"
  | clan => "clan"
  | system => "system"

def ofJson : Json.Value → Checked Channel
  | .str s =>
    match Validation.readable s with
    | .error issues => .error issues
    | .ok word =>
      match all.find? fun c => c.label.toList == word with
      | some c => .ok c
      | none => Checked.complain (.notMember (all.map label))
  | _ => Checked.complain (.notMember (all.map label))

end Channel

structure ChatEvent where
  sender : String
  text : String
  channel : Channel
  deriving DecidableEq, Repr

namespace ChatEvent

def ofFields (f : Fields) : Checked ChatEvent :=
  (required ["sender_id"] asString f).map mk
    |> alongside (required ["text"] asString f)
    |> alongside (optional ["channel_kind"] .publicChat Channel.ofJson f)

def toJson (e : ChatEvent) : Json.Value :=
  .record [("sender_id", .text e.sender), ("text", .text e.text),
    ("channel_kind", .text e.channel.label)]

def ofJson : Json.Value → Checked ChatEvent :=
  asRecord "ChatEvent" ofFields

end ChatEvent
end Banter
