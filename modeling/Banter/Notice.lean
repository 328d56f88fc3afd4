/-! The journal: what a responder reports about its own doings. -/
namespace Banter

inductive Level where
  | debug
  | info
  | warning
  | error
  deriving DecidableEq, Repr

namespace Level

def rank : Level → Nat
  | debug => 10
  | info => 20
  | warning => 30
  | error => 40

def label : Level → String
  | debug => "DEBUG"
  | info => "INFO"
  | warning => "WARNING"
  | error => "ERROR"

/-- The least rank that is shown, by name. -/
def threshold? (name : String) : Option Nat :=
  [("CRITICAL", 50), ("FATAL", 50), ("ERROR", 40), ("WARN", 30), ("WARNING", 30), ("INFO", 20),
    ("DEBUG", 10), ("NOTSET", 0)].lookup name

end Level

inductive Notice where
  | banner (text : String)
  | disabled
  | started (endpoint : String)
  | stopped
  | heard (sender : String)
  | heardText (text : String)
  | skipped (sender reason : String)
  | evicted (name : String)
  | requesting (payload : String)
  | requestFailed (message : String)
  | answered (status : Int) (excerpt : String)
  | requestBroke (sender : String)
  | ignoring (sender : String)
  | unsuccessful (status : Int) (excerpt : String)
  | dropping (sender message : String)
  | emptyReply (sender : String)
  | queued (count : Nat) (sender : String)
  | emoteSpotted (emote : String)
  | emoteFailed (emote : String)
  | sending (line : String)
  | sendFailed (line : String)
  | rosterFailed
  | beatFailed (message : String)
  | inputFailed
  deriving DecidableEq, Repr

namespace Notice

def level : Notice → Level
  | skipped .. | evicted _ | requesting _ | answered .. | emoteSpotted _ => .debug
  | disabled | dropping .. => .warning
  | requestFailed _ | requestBroke _ | unsuccessful .. | emoteFailed _ | sendFailed _ | rosterFailed
  | beatFailed _ | inputFailed => .error
  | _ => .info

def text : Notice → String
  | banner text => text
  | disabled => "TROLL_ENABLED is false; nothing to do"
  | started endpoint => "Bridge troll started. API endpoint: " ++ endpoint
  | stopped => "Bridge troll stopped"
  | heard sender => "Chat message received from: " ++ sender
  | heardText text => "Message content: '" ++ text ++ "'"
  | skipped sender reason => "Skipping message from " ++ sender ++ " (" ++ reason ++ ")"
  | evicted name => "Evicted " ++ name ++ " from recent interactors"
  | requesting payload => "API request body: " ++ payload
  | requestFailed message => "API request failed: " ++ message
  | answered status excerpt => "API response " ++ toString status ++ ": " ++ excerpt
  | requestBroke sender => "Generation request for " ++ sender ++ " failed"
  | ignoring sender => "Ignoring message from " ++ sender ++ " due to IGNORE action"
  | unsuccessful status excerpt =>
    "API request unsuccessful: " ++ toString status ++ " body=" ++ excerpt
  | dropping sender message => "Dropping reply for " ++ sender ++ ": " ++ message
  | emptyReply sender => "Reply for " ++ sender ++ " was empty after cleanup"
  | queued count sender => "Queued " ++ toString count ++ " line(s) for " ++ sender
  | emoteSpotted emote => "Detected emote in reply: " ++ emote
  | emoteFailed emote => "Host failed to perform emote " ++ emote
  | sending line => "Sending message: '" ++ line ++ "'"
  | sendFailed line => "send_line failed for '" ++ line ++ "'"
  | rosterFailed => "Failed to read active participants from host"
  | beatFailed message => "Heartbeat error: " ++ message
  | inputFailed => "stdin reader failed"

def isRequest : Notice → Bool
  | requesting _ => true
  | _ => false

end Notice
end Banter
