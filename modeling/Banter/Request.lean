import Banter.Activity.Snapshot
import Banter.Json.Display
import Banter.Json.Writer
import Banter.Validation.Coercion

/-! The request that is sent for an answered message, with its social context. -/
namespace Banter

open Validation (Checked Fields alongside required optional asString asInt asBool asRecord asList)

structure RecentPlayer where
  name : String
  interactions : Int
  deriving DecidableEq, Repr

structure RequestContext where
  recentPlayers : List RecentPlayer
  totalPlayers : Int
  currentSpeaker : String
  isBusyChat : Bool
  deriving DecidableEq, Repr

structure Request where
  userId : String
  userName : String
  text : String
  context : RequestContext
  deriving DecidableEq, Repr

namespace RecentPlayer

def ofFields (f : Fields) : Checked RecentPlayer :=
  (required ["name"] asString f).map mk
    |> alongside (optional ["interactions"] 0 asInt f)

def toJson (p : RecentPlayer) : Json.Value :=
  .record [("name", .text p.name), ("interactions", .int p.interactions)]

def ofJson : Json.Value → Checked RecentPlayer :=
  asRecord "RecentPlayer" ofFields

end RecentPlayer

namespace RequestContext

def empty : RequestContext := ⟨[], 0, "", false⟩

def ofFields (f : Fields) : Checked RequestContext :=
  (optional ["recentPlayers", "recent_players"] [] (asList RecentPlayer.ofJson) f).map mk
    |> alongside (optional ["totalPlayers", "total_players"] 0 asInt f)
    |> alongside (optional ["currentSpeaker", "current_speaker"] "" asString f)
    |> alongside (optional ["isBusyChat", "is_busy_chat"] false asBool f)

def toJson (c : RequestContext) : Json.Value :=
  .record [("recentPlayers", .arr (c.recentPlayers.map RecentPlayer.toJson)),
    ("totalPlayers", .int c.totalPlayers), ("currentSpeaker", .text c.currentSpeaker),
    ("isBusyChat", .bool c.isBusyChat)]

def ofJson : Json.Value → Checked RequestContext :=
  asRecord "RequestContext" ofFields

end RequestContext

namespace Request

def ofFields (f : Fields) : Checked Request :=
  (required ["userId", "user_id"] asString f).map mk
    |> alongside (required ["userName", "user_name"] asString f)
    |> alongside (required ["text"] asString f)
    |> alongside (optional ["context"] .empty RequestContext.ofJson f)

def toJson (r : Request) : Json.Value :=
  .record [("userId", .text r.userId), ("userName", .text r.userName), ("text", .text r.text),
    ("context", r.context.toJson)]

def ofJson : Json.Value → Checked Request :=
  asRecord "GenerationRequest" ofFields

/-- The request for a message, with the partners that the snapshot lists. -/
def build (sender text : String) (s : Activity.Snapshot) : Request where
  userId := sender
  userName := sender
  text := text
  context := {
    recentPlayers := s.recentInteractors.map fun name => ⟨name, s.count name⟩
    totalPlayers := s.participantCount
    currentSpeaker := sender
    isBusyChat := s.busy }

def build? (sender text : Option String) (s : Activity.Snapshot) : Checked Request :=
  match sender, text with
  | none, _ => .error [⟨[.key "current_speaker"], .notString⟩]
  | some _, none => .error [⟨[.key "text"], .notString⟩]
  | some sender, some text => .ok (build sender text s)

/-- The fields that start the text of a request, as code points. -/
def textFields (sender text : List Text.CodePoint) : List (String × List Text.CodePoint) :=
  [("userId", sender), ("userName", sender), ("text", text)]

def body (r : Request) : String :=
  Json.writeText r.toJson

def shown (r : Request) : String :=
  String.ofList (Json.display r.toJson)

end Request
end Banter
