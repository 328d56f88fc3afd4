/-! Lines wait in a queue and are handed over one at a time, with a pause between two. -/
namespace Banter.Delivery

structure Queue where
  /-- Seconds between two lines. -/
  delay : Float
  lines : List String
  lastSend : Option Float
  lastSent : String
  busy : Bool

namespace Queue

def defaultDelay : Float := 1.8

def fresh (delay : Float) : Queue := ⟨delay, [], none, "", false⟩

/-- Lines that are empty are not queued. -/
def batch (lines : List String) : List String :=
  lines.filter fun line => !line.isEmpty

def enqueue (q : Queue) (lines : List String) : Queue :=
  { q with lines := q.lines ++ batch lines }

def ready (q : Queue) (now : Float) : Bool :=
  match q.lastSend with
  | none => true
  | some last => decide (q.delay ≤ now - last)

/-- Take the first line for handing over, unless one is under way or the pause still lasts. -/
def take? (q : Queue) (now : Float) : Option (String × Queue) :=
  match q.lines with
  | [] => none
  | line :: rest =>
    if q.busy || !q.ready now then none
    else some (line, { q with lines := rest, lastSent := line, busy := true })

def settle (q : Queue) (stamp : Float) : Queue :=
  { q with lastSend := some stamp, busy := false }

def reset (q : Queue) : Queue :=
  fresh q.delay

end Queue
end Banter.Delivery
