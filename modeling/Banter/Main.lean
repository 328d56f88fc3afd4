import Banter.Program

/-!
The program at a terminal. Lines of the input are chat, lines said go to the output, and the journal
goes to the error stream. No service is within reach, so every request breaks down.
-/
namespace Banter.Terminal

open Program (State)

def clock (start : Nat) : IO Float := do
  return Float.ofNat ((← IO.monoMsNow) - start) / 1000.0

/-- The settings in the environment, under names in capitals or small letters. -/
def environment : IO (List (String × String)) := do
  let names := Settings.Name.all.flatMap fun n =>
    [n.full, n.full.toLower, n.short.toUpper, n.short]
  names.filterMapM fun name => do
    return (← IO.getEnv name).map fun value => (name, value)

def sources : IO Sources := do
  let file ← try IO.FS.readFile ".env" catch _ => pure ""
  return ⟨[], ← environment, file⟩

/-- What came in and was not taken up yet. -/
structure Inbox where
  lines : List (Float × String)
  ended : Option Float
  failed : Bool

def listen (start : Nat) (inbox : IO.Ref Inbox) : IO Unit := do
  let input ← IO.getStdin
  repeat
    let line ← input.getLine.toBaseIO
    let now ← clock start
    match line with
    | .ok "" =>
      inbox.modify fun i => { i with ended := some now }
      break
    | .ok line => inbox.modify fun i => { i with lines := i.lines ++ [(now, line)] }
    | .error _ =>
      inbox.modify fun i => { i with ended := some now, failed := true }
      break

def feed (news : Inbox) (s : State) : State :=
  match s.phase with
  | .listening waiting _ =>
    { s with
      session := if news.failed then s.session.note [.inputFailed] else s.session
      phase := .listening (waiting ++ news.lines) (news.ended.getD Decimal.infinity) }
  | _ => s

def draw : IO Float := do
  let bytes ← IO.getRandomBytes 7
  let n := bytes.toList.foldl (fun (n : Nat) b => 256 * n + b.toNat) 0
  return Float.ofNat (n % Draws.units) / Float.ofNat Draws.units

def noService : Wire.Answer := .breakdown .connectError "All connection attempts failed"

/-- As many draws as are at hand at any time. -/
def supplyOfDraws : Nat := 64

def supply (s : State) : IO State := do
  let missing := supplyOfDraws - s.session.draws.script.length
  let more ← (List.replicate missing ()).mapM fun _ => draw
  let draws := { s.session.draws with script := s.session.draws.script ++ more }
  return { s with session := { s.session with draws }, answers := [(0.0, noService)] }

def showJournal (rank : Nat) (notices : List Notice) : IO Unit := do
  for n in notices do
    if rank ≤ n.level.rank then IO.eprintln (n.level.label ++ " " ++ n.text)

/-- Show what was said and noted, and clear it. -/
def display (rank : Nat) (s : State) : IO State := do
  let out ← IO.getStdout
  for (_, line) in s.session.host.printed do
    out.putStrLn line
  out.flush
  showJournal rank s.session.journal
  let host := { s.session.host with printed := [] }
  return { s with session := { s.session with host, journal := [] }, requests := [] }

/-- Milliseconds between two looks at the clock. -/
def pause : UInt32 := 20

/-- Let things happen as their time comes, up to the end. -/
def converse (start : Nat) (inbox : IO.Ref Inbox) (rank : Nat) (first : State) : IO Unit := do
  let mut s := first
  repeat
    s ← supply s
    let now ← clock start
    let news ← inbox.modifyGet fun i => (i, { i with lines := [], failed := false })
    s := feed news s
    while s.nextEvent.1 ≤ now do
      match s.step with
      | .inl next => s := next
      | .inr (_, last) =>
        let _ ← display rank last
        return
    s ← display rank s
    IO.sleep pause

def run (settings : Settings) (rank : Nat) : IO Unit := do
  if settings.enabled then
    let start ← IO.monoMsNow
    let inbox ← IO.mkRef ⟨[], none, false⟩
    let _ ← IO.asTask (listen start inbox) .dedicated
    converse start inbox rank
      (Program.opening settings ⟨.ofScript [], [], Decimal.infinity, []⟩)
  else showJournal rank (Program.banner settings ++ [.disabled])

end Banter.Terminal

def main : IO UInt32 := do
  match Banter.Program.configure (← Banter.Terminal.sources) with
  | .error trouble =>
    for line in trouble.messages do
      IO.eprintln line
    return 1
  | .ok (settings, rank) =>
    Banter.Terminal.run settings rank
    return 0
