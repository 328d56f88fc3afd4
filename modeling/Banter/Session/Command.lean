import Banter.Session

/-! Sessions as machines: what can be done to one, step by step. -/
namespace Banter.Session

/-- A session and the time. -/
structure Scene (σ : Type) where
  clock : Float
  session : Session σ

inductive Command (σ : Type) where
  | advance (seconds : Float)
  | setClock (time : Float)
  | start
  | stop
  | reset
  | hear (event : ChatEvent)
  | complete (outcome : Outcome) (token : Option Nat)
  | requestReply (ticket : Ticket) (answer : Wire.Answer)
  | processCompletions
  | refresh
  | heartbeat (now : Option Float)
  | enqueue (lines : List String)
  /-- The chat changes by itself. -/
  | changeHost (change : σ → σ)

inductive Result where
  | done
  | count (handled : Except Breach Nat)
  | hearing (h : Hearing)
  | line (said : Except Breach (Option String))
  | queued (count : Nat)

variable {σ : Type}

def Scene.put (c : Scene σ) (s : Session σ) : Scene σ :=
  { c with session := s }

def step [Host σ] (c : Scene σ) : Command σ → Result × Scene σ
  | .advance seconds => (.done, { c with clock := c.clock + seconds })
  | .setClock time => (.done, { c with clock := time })
  | .start => (.done, c.put c.session.start)
  | .stop => (.done, c.put c.session.stop)
  | .reset => (.done, c.put c.session.reset)
  | .hear event =>
    let (hearing, s) := c.session.hear c.clock event
    (.hearing hearing, c.put s)
  | .complete outcome token => (.done, c.put (c.session.complete outcome token))
  | .requestReply ticket answer => (.done, c.put (c.session.requestReply ticket answer))
  | .processCompletions =>
    let (handled, s) := c.session.processCompletions c.clock
    (.count handled, c.put s)
  | .refresh => (.done, c.put (c.session.refresh c.clock))
  | .heartbeat now =>
    let (said, s) := c.session.heartbeat c.clock now
    (.line said, c.put s)
  | .enqueue lines => (.queued (Delivery.Queue.batch lines).length, c.put (c.session.enqueue lines))
  | .changeHost change => (.done, c.put { c.session with host := change c.session.host })

def run [Host σ] (c : Scene σ) : List (Command σ) → List Result × Scene σ
  | [] => ([], c)
  | command :: rest =>
    let (result, c) := step c command
    let (results, c) := run c rest
    (result :: results, c)

end Banter.Session
