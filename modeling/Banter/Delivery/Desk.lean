import Banter.Delivery.Queue
import Banter.Notice

/-!
A queue at work. Whoever is handed a line may move the clock, queue more lines, reset the queue or
ask it for the next line before it is done with this one.
-/
namespace Banter.Delivery

/-- What is done to a queue, one thing after the other. -/
inductive Script where
  | finish
  | fail
  | speak (line : String) (next : Script)
  | enqueue (lines : List String) (next : Script)
  | wait (seconds : Float) (next : Script)
  | setClock (time : Float) (next : Script)
  | reset (next : Script)
  | look (next : Queue → Script)
  /-- Ask for the next line, to be handed to `send`. -/
  | drain (now : Option Float) (send : String → Script) (next : Option String → Script)
  | note (busy : Bool) (line : Option String) (next : Script)

structure Desk where
  queue : Queue
  clock : Float
  spoken : List String
  notes : List (Bool × Option String)
  journal : List Notice

namespace Desk

def fresh (delay start : Float) : Desk :=
  ⟨.fresh delay, start, [], [], []⟩

/-- Mark the start of a hand-over. -/
def claim (d : Desk) (line : String) (q : Queue) : Desk :=
  { d with queue := q, journal := d.journal ++ [.sending line] }

/-- Mark its end. The stamp is the time of asking if that was given, else the time of the end. -/
def release (d : Desk) (line : String) (now : Option Float) (failed : Bool) : Desk :=
  { d with
    queue := d.queue.settle (now.getD d.clock)
    journal := if failed then d.journal ++ [.sendFailed line] else d.journal }

end Desk

/-- Follow a script. The flag tells whether it gave up. -/
def Script.run : Script → Desk → Desk × Bool
  | finish, d => (d, false)
  | fail, d => (d, true)
  | speak line next, d => next.run { d with spoken := d.spoken ++ [line] }
  | enqueue lines next, d => next.run { d with queue := d.queue.enqueue lines }
  | wait seconds next, d => next.run { d with clock := d.clock + seconds }
  | setClock time next, d => next.run { d with clock := time }
  | reset next, d => next.run { d with queue := d.queue.reset }
  | look next, d => (next d.queue).run d
  | note busy line next, d => next.run { d with notes := d.notes ++ [(busy, line)] }
  | drain now send next, d =>
    match d.queue.take? (now.getD d.clock) with
    | none => (next none).run d
    | some (line, q) =>
      let (d, failed) := (send line).run (d.claim line q)
      (next (some line)).run (d.release line now failed)

def Desk.drain (d : Desk) (now : Option Float) (send : String → Script) : Option String × Desk :=
  match d.queue.take? (now.getD d.clock) with
  | none => (none, d)
  | some (line, q) =>
    let (d, failed) := (send line).run (d.claim line q)
    (some line, d.release line now failed)

theorem run_drain (now : Option Float) (send : String → Script) (next : Option String → Script)
    (d : Desk) : (Script.drain now send next).run d =
      (next (d.drain now send).1).run (d.drain now send).2 := by
  simp only [Script.run, Desk.drain]
  split <;> rfl

end Banter.Delivery
