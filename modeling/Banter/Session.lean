import Banter.ChatEvent
import Banter.Gate
import Banter.Reply.Absorption
import Banter.Wire.Exchange

/-!
A session: all state of a responder in one chat. Chat lines pass the gate and may issue a ticket
for a request; finished requests are handed back and wait until the next tick, which absorbs them
and says at most one line.
-/
namespace Banter

structure Ticket where
  token : Nat
  request : Request
  deriving DecidableEq, Repr

/-- A responder in a chat of state `σ`. -/
structure Session (σ : Type) where
  settings : Settings
  host : σ
  draws : Draws
  tracker : Activity.Tracker Float
  gate : Gate
  queue : Delivery.Queue
  /-- Finished requests that are not absorbed yet. -/
  handoff : List Outcome
  pending : Option Nat
  nextToken : Nat
  started : Bool
  journal : List Notice

structure Hearing where
  decision : Option Decision
  ticket : Option Ticket

namespace Session

variable {σ : Type}

def fresh (settings : Settings) (host : σ) (draws : Draws) : Session σ where
  settings := settings
  host := host
  draws := draws
  tracker := .fresh settings.botName
  gate := .fresh Gate.defaultCooldown
  queue := .fresh Delivery.Queue.defaultDelay
  handoff := []
  pending := none
  nextToken := 1
  started := false
  journal := []

def note (s : Session σ) (notices : List Notice) : Session σ :=
  { s with journal := s.journal ++ notices }

/-- Forget everything but the settings, the host, the draws and the numbering. -/
def reset (s : Session σ) : Session σ :=
  { s with
    tracker := s.tracker.reset
    queue := s.queue.reset
    gate := s.gate.reset
    handoff := []
    pending := none }

def start (s : Session σ) : Session σ :=
  { s.reset with started := true }.note [.started s.settings.endpoint.text]

def stop (s : Session σ) : Session σ :=
  { s with started := false }.reset.note [.stopped]

def requestInFlight (s : Session σ) : Bool :=
  s.pending.isSome

def idle (s : Session σ) : Bool :=
  !s.requestInFlight && s.handoff.isEmpty && s.queue.lines.isEmpty && !s.queue.busy

def coolingDown (s : Session σ) (clock : Float) : Bool :=
  !s.gate.rested clock

def hear (s : Session σ) (clock : Float) (e : ChatEvent) : Hearing × Session σ :=
  if !s.started || e.channel ≠ .publicChat then (⟨none, none⟩, s)
  else
    let tracker := s.tracker.recordActivity clock
    let a := s.gate.evaluate tracker s.draws (some e.sender) (some e.text) s.queue.lastSent
      s.requestInFlight clock
    let s := { s with gate := a.gate, tracker := a.tracker, draws := a.draws }.note a.notices
    if a.decision.accepted then
      let ticket : Ticket := ⟨s.nextToken, .build e.sender e.text s.tracker.snapshot⟩
      (⟨some a.decision, some ticket⟩,
        { s with pending := some ticket.token, nextToken := s.nextToken + 1 }.note
          [.heard e.sender, .heardText e.text])
    else (⟨some a.decision, none⟩, s.note [.skipped e.sender a.decision.verdict.text])

/-- Hand a finished request back. Without a number it counts for whatever request is out. -/
def complete (s : Session σ) (o : Outcome) (token : Option Nat) : Session σ :=
  { s with
    pending := if token = none ∨ token = s.pending then none else s.pending
    handoff := s.handoff ++ [o] }

def reachable (s : Session σ) : Bool :=
  (Wire.obstacle? s.settings).isNone

def requestCount (s : Session σ) : Nat :=
  if s.reachable then s.journal.countP Notice.isRequest else 0

/-- How a request ended is noted, and its outcome handed back. -/
def conclude (s : Session σ) (t : Ticket) (ended : Outcome × List Notice) : Session σ :=
  (s.note ended.2).complete ended.1 (some t.token)

/-- The request of a ticket goes out, unless no request can. -/
def send (s : Session σ) (t : Ticket) : Session σ :=
  let s := s.note (Wire.departure t.request)
  match Wire.obstacle? s.settings with
  | none => s
  | some flaw => s.conclude t (Wire.broken t.request (.badHost flaw))

def receive (s : Session σ) (t : Ticket) (a : Wire.Answer) : Session σ :=
  s.conclude t (Wire.settled t.request a)

def requestReply (s : Session σ) (t : Ticket) (a : Wire.Answer) : Session σ :=
  if s.reachable then (s.send t).receive t a else s.send t

variable [Host σ]

def absorb (s : Session σ) (clock : Float) (o : Outcome) : Except Breach (Session σ) :=
  match Reply.absorb clock s.tracker.snapshot o s.queue s.draws s.host with
  | .error b => .error b
  | .ok a => .ok ({ s with queue := a.queue, draws := a.draws, host := a.host }.note a.notices)

/-- Absorb outcomes in order and count them. At a breach the rest keeps waiting. -/
def absorbAll (clock : Float) : List Outcome → Nat → Session σ → Except Breach Nat × Session σ
  | [], handled, s => (.ok handled, { s with handoff := [] })
  | o :: rest, handled, s =>
    match s.absorb clock o with
    | .error b => (.error b, { s with handoff := rest })
    | .ok s => absorbAll clock rest (handled + 1) s

def processCompletions (s : Session σ) (clock : Float) : Except Breach Nat × Session σ :=
  absorbAll clock s.handoff 0 s

/-- Take over the names present. If the host cannot tell, those known stay. -/
def refresh (s : Session σ) (clock : Float) : Session σ :=
  match Host.participants clock s.host with
  | (host, none) => { s with host := host }.note [.rosterFailed]
  | (host, some names) => { s with host := host, tracker := s.tracker.updateRoster names }

def drain (s : Session σ) (clock : Float) (now : Option Float) : Option String × Session σ :=
  match s.queue.take? (now.getD clock) with
  | none => (none, s)
  | some (line, q) =>
    let (host, failed) := Host.sendLine clock line s.host
    (some line,
      { s with queue := q.settle (now.getD clock), host := host }.note
        (.sending line :: if failed then [.sendFailed line] else []))

/-- One tick: look who is present, absorb what is finished, and say at most one line. -/
def heartbeat (s : Session σ) (clock : Float) (now : Option Float) :
    Except Breach (Option String) × Session σ :=
  if !s.started then (.ok none, s)
  else
    match (s.refresh clock).processCompletions clock with
    | (.error b, s) => (.error b, s)
    | (.ok _, s) =>
      let (line, s) := s.drain clock now
      (.ok line, s)

def enqueue (s : Session σ) (lines : List String) : Session σ :=
  { s with queue := s.queue.enqueue lines }

end Session
end Banter
