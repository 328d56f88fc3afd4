import Banter.Console.Console
import Banter.Session
import Banter.Text.Case.Uppercase

/-!
The whole program: a session at a console, played on a time line of its own. Ticks come at zero and
then at the pace that the settings give; lines and answers come when they come. At the end of the
input the program waits for the answers that are out, and then until nothing is left to say.
-/
namespace Banter.Program

structure Flight where
  due : Float
  ticket : Ticket
  answer : Wire.Answer

/-- What the program waits for, apart from ticks and answers. -/
inductive Phase where
  /-- Lines to come, and the end of the input. -/
  | listening (input : List (Float × String)) (eof : Float)
  | settling
  | looking (next : Float)

structure State where
  session : Session Console
  phase : Phase
  beat : Float
  /-- Answers to come, with the time each takes. -/
  answers : List (Float × Wire.Answer)
  flights : List Flight
  requests : List String

def nextFlight : List Flight → Option (Flight × List Flight)
  | [] => none
  | f :: rest =>
    match nextFlight rest with
    | none => some (f, rest)
    | some (g, others) => if g.due < f.due then some (g, f :: others) else some (f, rest)

inductive Event where
  | tick
  | arrival (flight : Flight) (others : List Flight)
  | line (raw : String) (rest : List (Float × String)) (eof : Float)
  | endOfInput
  | look

def Phase.event : Phase → Option (Float × Event)
  | .listening [] eof => some (eof, .endOfInput)
  | .listening ((t, raw) :: rest) eof =>
    if eof < t then some (eof, .endOfInput) else some (t, .line raw rest eof)
  | .settling => none
  | .looking t => some (t, .look)

/-- The earlier of two events, the first of them if they coincide. -/
def earlier : Option (Float × Event) → Option (Float × Event) → Option (Float × Event)
  | none, b => b
  | a, none => a
  | some a, some b => if b.1 < a.1 then some b else some a

/-- What happens next, and when. A tick goes before all else at its time. -/
def State.nextEvent (s : State) : Float × Event :=
  let arrival := (nextFlight s.flights).map fun (f, others) => (f.due, Event.arrival f others)
  match earlier arrival s.phase.event with
  | none => (s.beat, .tick)
  | some (t, e) => if s.beat ≤ t then (s.beat, .tick) else (t, e)

def State.tick (s : State) : State :=
  let (result, session) := s.session.heartbeat s.beat none
  { s with
    session := match result with
      | .ok _ => session
      | .error b => session.note [.beatFailed b.message]
    beat := s.beat + s.session.settings.heartbeat }

/-- After the end of the input and the last answer, look from then on. -/
def State.settle (s : State) (time : Float) : State :=
  { s with phase := if s.flights.isEmpty then .looking time else .settling }

def State.arrive (s : State) (f : Flight) (others : List Flight) : State :=
  let s := { s with session := s.session.receive f.ticket f.answer, flights := others }
  match s.phase with
  | .settling => s.settle f.due
  | _ => s

/-- A request goes out, if any can. Without an answer left, nobody answers it. -/
def State.send (s : State) (time : Float) (t : Ticket) : State :=
  let sent := { s with session := s.session.send t }
  if s.session.reachable then
    let (latency, answer) := s.answers.head?.getD (0.0, .nobody)
    { sent with
      answers := s.answers.drop 1
      flights := s.flights ++ [⟨time + latency, t, answer⟩]
      requests := s.requests ++ [t.request.body] }
  else sent

def State.hear (s : State) (time : Float) (raw : String) : State :=
  match s.session.host.read time raw with
  | (none, _) => s
  | (some event, console) =>
    let (hearing, session) := { s.session with host := console }.hear time event
    let s := { s with session := session }
    match hearing.ticket with
    | none => s
    | some ticket => s.send time ticket

def State.step (s : State) : State ⊕ (Float × State) :=
  match s.nextEvent with
  | (_, .tick) => .inl s.tick
  | (_, .arrival f others) => .inl (s.arrive f others)
  | (time, .line raw rest eof) => .inl ({ s with phase := .listening rest eof }.hear time raw)
  | (time, .endOfInput) => .inl (s.settle time)
  | (time, .look) =>
    if s.session.idle then .inr (time, { s with session := s.session.stop })
    else .inl { s with phase := .looking (time + s.session.settings.heartbeat) }

def play : Nat → State → Option (Float × State)
  | 0, _ => none
  | steps + 1, s =>
    match s.step with
    | .inl s => play steps s
    | .inr ended => some ended

def patience : Nat := 100000000

structure Report where
  printed : List (Float × String)
  requests : List String
  ended : Option Float
  drawsUsed : Nat
  journal : List Notice

def rule : String := String.ofList (List.replicate 60 '=')

def banner (s : Settings) : List Notice :=
  [.banner rule, .banner "Bridge troll responder",
    .banner ("  API endpoint: " ++ s.messageUrl), .banner ("  Bot name: " ++ s.botName),
    .banner ("  Overlay: " ++ if s.showOverlay then "on" else "off"), .banner rule]

structure Script where
  draws : Draws
  input : List (Float × String)
  eof : Float
  answers : List (Float × Wire.Answer)

def opening (s : Settings) (script : Script) : State where
  session := ((Session.fresh s (.fresh s.botName Console.defaultTimeout) script.draws).note
    (banner s)).start
  phase := .listening (script.input.mergeSort fun a b => a.1 ≤ b.1) script.eof
  beat := 0.0
  answers := script.answers
  flights := []
  requests := []

/-- Play a script. There is no report if it does not end. -/
def run (s : Settings) (script : Script) : Option Report :=
  if s.enabled then
    (play patience (opening s script)).map fun (time, last) =>
      ⟨last.session.host.printed, last.requests, some time, last.session.draws.used,
        last.session.journal⟩
  else some ⟨[], [], none, script.draws.used, banner s ++ [.disabled]⟩

inductive Trouble where
  | settings (issues : List Validation.Issue)
  | level (name : String)

def levelMessage (name : String) : String :=
  "Unknown level: " ++ Text.quotedText name

def Trouble.messages : Trouble → List String
  | .settings issues => issues.map Validation.Issue.text
  | .level name => [levelMessage name]

def configure (sources : Sources) : Except Trouble (Settings × Nat) :=
  match Settings.ofSources sources with
  | .error issues => .error (.settings issues)
  | .ok s =>
    let name := String.ofList (Text.upper s.logLevel.toList)
    match Level.threshold? name with
    | some rank => .ok (s, rank)
    | none => .error (.level name)

end Banter.Program
