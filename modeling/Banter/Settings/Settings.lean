import Banter.Json.Display
import Banter.Settings.Dotenv
import Banter.Text.Lower
import Banter.Url.Parser
import Banter.Validation.Coercion

/-! Settings, from arguments, the environment and a file. -/
namespace Banter

open Validation (Checked Fields alongside asString asBool asFloat)

def defaultBotName : String := "troll"

structure Settings where
  enabled : Bool
  endpoint : Url
  showOverlay : Bool
  botName : String
  /-- Seconds between two ticks. -/
  heartbeat : Float
  logLevel : String

structure Settings.Name where
  full : String
  short : String

namespace Settings.Name

def enabled : Name := ⟨"TROLL_ENABLED", "enabled"⟩

def endpoint : Name := ⟨"TROLL_API_ENDPOINT", "api_endpoint"⟩

def showOverlay : Name := ⟨"TROLL_SHOW_OVERLAY", "show_overlay"⟩

def botName : Name := ⟨"TROLL_BOT_NAME", "bot_name"⟩

def heartbeat : Name := ⟨"TROLL_HEARTBEAT_SECONDS", "heartbeat_seconds"⟩

def logLevel : Name := ⟨"TROLL_LOG_LEVEL", "log_level"⟩

def all : List Name := [enabled, endpoint, showOverlay, botName, heartbeat, logLevel]

end Settings.Name

/-- Where settings come from, the first having most weight. -/
structure Sources where
  arguments : List (String × Json.Value)
  environment : List (String × String)
  file : String

namespace Sources

/-- Names in the environment and in the file have no case. Of names that differ in case only, the
last one counts. -/
def caseless {α : Type} (entries : List (String × α)) (name : String) : Option α :=
  (entries.reverse.find? fun e => Text.lowerText e.1 == Text.lowerText name).map Prod.snd

def fromEnvironment (s : Sources) (name : String) : Option Json.Value :=
  (caseless s.environment name).map .text

def fromFile (s : Sources) (name : String) : Option Json.Value :=
  (caseless (Dotenv.read s.environment s.file) name).join.map .text

/-- The value of a setting and the name it is given under. The full name counts before the short
one, but an argument before all else. -/
def find? (s : Sources) (n : Settings.Name) : Option (String × Json.Value) :=
  let under (name : String) (value : Option Json.Value) := value.map fun v => (name, v)
  under n.full (s.arguments.lookup n.full) <|> under n.short (s.arguments.lookup n.short) <|>
    under n.full (s.fromEnvironment n.full) <|> under n.full (s.fromFile n.full) <|>
    under n.short (s.fromEnvironment n.short) <|> under n.short (s.fromFile n.short)

end Sources

namespace Settings

def defaultEndpoint : String := "http://localhost:3000"

def messagePath : String := "/troll/message"

def asEndpoint : Json.Value → Checked Url
  | .str s =>
    match (Validation.readable s).map Url.parse with
    | .error issues => .error issues
    | .ok (.ok url) => .ok url
    | .ok (.error (.flaw f)) => Checked.complain (.badUrl f)
    | .ok (.error .scheme) => Checked.complain .badScheme
  | _ => Checked.complain .notUrl

/-- A blank name would be part of every name, so the default takes its place. -/
def asBotName (v : Json.Value) : Checked String :=
  match v with
  | .null => .ok defaultBotName
  | v =>
    let name := Text.trim (Json.plain v)
    .ok (if name.isEmpty then defaultBotName else String.ofList name)

def asHeartbeat (v : Json.Value) : Checked Float :=
  match asFloat v with
  | .error issues => .error issues
  | .ok x =>
    if x ≤ 0.0 then Checked.complain (.unacceptable "heartbeat interval must be positive")
    else .ok x

/-- A setting, or its default, which is checked like any other value. -/
def setting {α : Type} (s : Sources) (n : Name) (default : Json.Value)
    (check : Json.Value → Checked α) : Checked α :=
  match s.find? n with
  | some (name, v) => Checked.within (.key name) (check v)
  | none => Checked.within (.key n.full) (check default)

def ofSources (s : Sources) : Checked Settings :=
  (setting s .enabled (.bool false) asBool).map mk
  |> alongside (setting s .endpoint (.text defaultEndpoint) asEndpoint)
  |> alongside (setting s .showOverlay (.bool true) asBool)
  |> alongside (setting s .botName (.text defaultBotName) asBotName)
  |> alongside (setting s .heartbeat (.float 0.6) asHeartbeat)
  |> alongside (setting s .logLevel (.text "INFO") asString)

/-- Where requests go: the path of messages behind the endpoint, less the slashes at its end. -/
def messageUrl (s : Settings) : String :=
  String.ofList ((s.endpoint.write.reverse.dropWhile (· == '/')).reverse ++ messagePath.toList)

end Settings
end Banter
