import Banter.Delivery.Desk
import Banter.Proofs.Delivery.Queue
import Mathlib.Data.List.DropRight

/-!
What happens to a queue at work, event by event, also in the middle of a hand-over, with the desk as
it stands right after each. Between two events the queue stands still. What each event keeps holds
at every point of every run, however deep the hand-overs are nested. Of a run that never ends every
beginning is a run of its own: a script that stops there.
-/
namespace Banter.Delivery

structure Handover where
  line : String
  /-- The time that came with the call for the line, if one did. -/
  given : Option Float
  clock : Float
  deriving DecidableEq

namespace Handover

def time (h : Handover) : Float := h.given.getD h.clock

/-- The time that the hand-over is stamped with if the clock says `clock` at its end. -/
def stamp (h : Handover) (clock : Float) : Float := h.given.getD clock

end Handover

inductive Event where
  | queued (lines : List String)
  | reset
  | asked
  | handed (handover : Handover)
  /-- The hand-over is over, well or not, and the clock says so much. -/
  | ended (handover : Handover) (clock : Float) (failed : Bool)
  | answered (line : Option String)
  deriving DecidableEq

structure Flight where
  handover : Handover
  /-- Was the queue reset since it began? -/
  cutOff : Bool

namespace Event

def isReset : Event → Bool
  | reset => true
  | _ => false

def handed? : Event → Option Handover
  | handed h => some h
  | _ => none

def ended? : Event → Option (Handover × Float)
  | ended h clock _ => some (h, clock)
  | _ => none

def batch : Event → List String
  | queued lines => lines.filter (· ≠ "")
  | _ => []

/-- What an event makes of the hand-overs under way, the innermost first. -/
def pass (flights : List Flight) : Event → List Flight
  | handed h => ⟨h, false⟩ :: flights
  | ended .. => flights.tail
  | reset => flights.map fun f => { f with cutOff := true }
  | _ => flights

end Event

/-- What happened since the queue was last reset. -/
def sinceReset (past : List Event) : List Event := past.rtakeWhile (!·.isReset)

def handedIn (past : List Event) : List String :=
  (past.filterMap Event.handed?).map Handover.line

/-- The hand-overs that ended, each with what the clock said then. -/
def endedIn (past : List Event) : List (Handover × Float) := past.filterMap Event.ended?

def queuedIn (past : List Event) : List String := past.flatMap Event.batch

def underWay (past : List Event) : List Flight := past.foldl Event.pass []

theorem sinceReset_snoc (past : List Event) (e : Event) :
    sinceReset (past ++ [e]) = if e.isReset then [] else sinceReset past ++ [e] := by
  cases h : e.isReset <;> simp [sinceReset, h]

theorem handedIn_snoc (past : List Event) (e : Event) :
    handedIn (past ++ [e]) = handedIn past ++ (e.handed?.map Handover.line).toList := by
  cases e <;> simp [handedIn, Event.handed?]

theorem endedIn_snoc (past : List Event) (e : Event) :
    endedIn (past ++ [e]) = endedIn past ++ e.ended?.toList := by
  cases e <;> simp [endedIn, Event.ended?]

theorem queuedIn_snoc (past : List Event) (e : Event) :
    queuedIn (past ++ [e]) = queuedIn past ++ e.batch := by
  simp [queuedIn]

@[simp] theorem underWay_snoc (past : List Event) (e : Event) :
    underWay (past ++ [e]) = e.pass (underWay past) := by
  simp [underWay]

/-- The queue was reset only while no hand-over was under way. -/
def Undisturbed (past : List Event) : Prop :=
  ∀ before after, past = before ++ .reset :: after → underWay before = []

theorem Undisturbed.init {past : List Event} {e : Event} (h : Undisturbed (past ++ [e])) :
    Undisturbed past := by
  rintro before after rfl
  exact h before (after ++ [e]) (by simp)

theorem undisturbed_of_unreset {past : List Event} (h : ∀ e ∈ past, e.isReset = false) :
    Undisturbed past := by
  rintro before after rfl
  cases h .reset (by simp)

theorem Undisturbed.underWay_of_reset {past : List Event} (h : Undisturbed (past ++ [.reset])) :
    underWay past = [] :=
  h past [] rfl

structure Moment where
  event : Event
  desk : Desk

namespace Script

/-- What happens to the queue while a script is followed. -/
def moments : Script → Desk → List Moment
  | finish, _ => []
  | fail, _ => []
  | speak line next, d => next.moments { d with spoken := d.spoken ++ [line] }
  | enqueue lines next, d =>
    let d := { d with queue := d.queue.enqueue lines }
    ⟨.queued lines, d⟩ :: next.moments d
  | wait seconds next, d => next.moments { d with clock := d.clock + seconds }
  | setClock time next, d => next.moments { d with clock := time }
  | reset next, d =>
    let d := { d with queue := d.queue.reset }
    ⟨.reset, d⟩ :: next.moments d
  | look next, d => (next d.queue).moments d
  | note busy line next, d => next.moments { d with notes := d.notes ++ [(busy, line)] }
  | drain now send next, d =>
    let (answer, after) := d.drain now send
    ⟨.asked, d⟩ ::
      (match d.queue.take? (now.getD d.clock) with
      | none => []
      | some (line, q) =>
        let h : Handover := ⟨line, now, d.clock⟩
        let (done, failed) := (send line).run (d.claim line q)
        ⟨.handed h, d.claim line q⟩ :: (send line).moments (d.claim line q) ++
          [⟨.ended h done.clock failed, done.release line now failed⟩]) ++
      ⟨.answered answer, after⟩ :: (next answer).moments after

def events (s : Script) (d : Desk) : List Event :=
  (s.moments d).map Moment.event

end Script

/-- A desk, and all that happened to its queue before. -/
structure Point where
  past : List Event
  desk : Desk

def through (past : List Event) : List Moment → List Point
  | [] => []
  | m :: rest => ⟨past ++ [m.event], m.desk⟩ :: through (past ++ [m.event]) rest

/-- All points of a run: at its start and right after each event. -/
def Script.points (s : Script) (d : Desk) : List Point :=
  ⟨[], d⟩ :: through [] (s.moments d)

theorem through_append (past : List Event) (ms ns : List Moment) :
    through past (ms ++ ns) = through past ms ++ through (past ++ ms.map Moment.event) ns := by
  induction ms generalizing past with
  | nil => simp [through]
  | cons m rest ih => simp [through, ih]

/-- Calls for a line, one after the other, each with all that happens inside it. A call hands over
at most one line, and comes back with it. -/
inductive Calls : List Event → Prop
  | nil : Calls []
  | queued (lines : List String) {rest : List Event} (hr : Calls rest) :
    Calls (.queued lines :: rest)
  | reset {rest : List Event} (hr : Calls rest) : Calls (.reset :: rest)
  | declined {rest : List Event} (hr : Calls rest) : Calls (.asked :: .answered none :: rest)
  | served (h : Handover) (clock : Float) (failed : Bool) {inside rest : List Event}
    (hi : Calls inside) (hr : Calls rest) :
    Calls (.asked :: .handed h ::
      (inside ++ .ended h clock failed :: .answered (some h.line) :: rest))

theorem Calls.handovers {es : List Event} (h : Calls es) (flights : List Flight) :
    (es.foldl Event.pass flights).map Flight.handover = flights.map Flight.handover := by
  induction h generalizing flights with
  | nil => rfl
  | queued lines hr ih => exact ih flights
  | reset hr ih => simp [ih, Event.pass, Function.comp_def]
  | declined hr ih => exact ih flights
  | @served h clock failed inside rest hi hr ihi ihr =>
    have hinside := ihi (⟨h, false⟩ :: flights)
    simp only [List.foldl_append, List.foldl_cons, Event.pass, ihr, List.map_tail, hinside]
    rw [List.map_cons, List.tail_cons]

namespace Script

variable {d : Desk} {now : Option Float} {send : String → Script} {next : Option String → Script}

theorem moments_declined (h : d.queue.take? (now.getD d.clock) = none) :
    (drain now send next).moments d =
      ⟨.asked, d⟩ :: ⟨.answered none, d⟩ :: (next none).moments d := by
  simp [moments, Desk.drain, h]

theorem moments_served {line : String} {q : Queue}
    (h : d.queue.take? (now.getD d.clock) = some (line, q)) :
    let handover : Handover := ⟨line, now, d.clock⟩
    let done := (send line).run (d.claim line q)
    let after := done.1.release line now done.2
    (drain now send next).moments d =
      ⟨.asked, d⟩ :: ⟨.handed handover, d.claim line q⟩ :: ((send line).moments (d.claim line q) ++
        ⟨.ended handover done.1.clock done.2, after⟩ :: ⟨.answered (some line), after⟩ ::
          (next (some line)).moments after) := by
  simp [moments, Desk.drain, h]

/-- The events of a run are calls, each with what happens inside it. -/
theorem calls_events (s : Script) (d : Desk) : Calls (s.events d) := by
  induction s generalizing d with
  | finish => exact .nil
  | fail => exact .nil
  | speak line next ih => exact ih _
  | enqueue lines next ih => exact .queued lines (ih _)
  | wait seconds next ih => exact ih _
  | setClock time next ih => exact ih _
  | reset next ih => exact .reset (ih _)
  | look next ih => exact ih d.queue d
  | note busy line next ih => exact ih _
  | drain now send next ihsend ihnext =>
    cases ht : d.queue.take? (now.getD d.clock) with
    | none =>
      rw [events, moments_declined ht]
      exact .declined (ihnext none d)
    | some taken =>
      obtain ⟨line, q⟩ := taken
      rw [events, moments_served ht]
      -- Inside the call, `send` finds the desk without the line.
      simpa [events] using
        Calls.served ⟨line, now, d.clock⟩ _ _ (ihsend line (d.claim line q)) (ihnext (some line) _)

theorem underWay_events (s : Script) (d : Desk) (past : List Event) :
    (underWay (past ++ s.events d)).map Flight.handover =
      (underWay past).map Flight.handover := by
  rw [underWay, List.foldl_append]
  exact (s.calls_events d).handovers (underWay past)

end Script

def Holds (I : List Event → Queue → Prop) (past : List Event) (ms : List Moment) (q : Queue) :
    Prop :=
  I (past ++ ms.map Moment.event) q ∧ ∀ p ∈ through past ms, I p.past p.desk.queue

namespace Holds

variable {I : List Event → Queue → Prop} {past : List Event} {ms ns : List Moment} {q r : Queue}

theorem nil (h : I past q) : Holds I past [] q :=
  ⟨by rwa [List.map_nil, List.append_nil], by simp [through]⟩

theorem cons {m : Moment} (hm : I (past ++ [m.event]) m.desk.queue)
    (h : Holds I (past ++ [m.event]) ms q) : Holds I past (m :: ms) q := by
  refine ⟨by simpa using h.1, ?_⟩
  intro p hp
  rcases List.mem_cons.mp hp with rfl | hp
  · exact hm
  · exact h.2 p hp

theorem append (hm : Holds I past ms q) (hn : Holds I (past ++ ms.map Moment.event) ns r) :
    Holds I past (ms ++ ns) r := by
  refine ⟨by simpa using hn.1, ?_⟩
  intro p hp
  rw [through_append, List.mem_append] at hp
  exact hp.elim (hm.2 p) (hn.2 p)

end Holds

structure Lasting (I : List Event → Queue → Prop) : Prop where
  queued {past : List Event} {q : Queue} (lines : List String) (h : I past q) :
    I (past ++ [.queued lines]) (q.enqueue lines)
  reset {past : List Event} {q : Queue} (h : I past q) : I (past ++ [.reset]) q.reset
  asked {past : List Event} {q : Queue} (h : I past q) : I (past ++ [.asked]) q
  handed {past : List Event} {q taken : Queue} {handover : Handover}
    (ht : q.take? handover.time = some (handover.line, taken)) (h : I past q) :
    I (past ++ [.handed handover]) taken
  ended {past : List Event} {q : Queue} {flight : Flight} {outer : List Flight}
    (hu : underWay past = flight :: outer) (clock : Float) (failed : Bool) (h : I past q) :
    I (past ++ [.ended flight.handover clock failed])
      (q.settle (flight.handover.stamp clock))
  answered {past : List Event} {q : Queue} (line : Option String) (h : I past q) :
    I (past ++ [.answered line]) q

namespace Lasting

variable {I : List Event → Queue → Prop}

theorem ended_after (hI : Lasting I) (h : Handover) (s : Script) {d : Desk} {past : List Event}
    {q : Queue} (clock : Float) (failed : Bool)
    (hq : I (past ++ [.handed h] ++ s.events d) q) :
    I (past ++ [.handed h] ++ s.events d ++ [.ended h clock failed])
      (q.settle (h.stamp clock)) := by
  have hflights := s.underWay_events d (past ++ [.handed h])
  rw [underWay_snoc, Event.pass, List.map_cons] at hflights
  obtain ⟨flight, outer, hu, rfl, -⟩ := List.map_eq_cons_iff.mp hflights
  exact hI.ended hu clock failed hq

theorem run (hI : Lasting I) (s : Script) {past : List Event} {d : Desk} (h : I past d.queue) :
    Holds I past (s.moments d) (s.run d).1.queue := by
  induction s generalizing past d with
  | finish => exact .nil h
  | fail => exact .nil h
  | speak line next ih => exact ih h
  | enqueue lines next ih => exact .cons (hI.queued lines h) (ih (hI.queued lines h))
  | wait seconds next ih => exact ih h
  | setClock time next ih => exact ih h
  | reset next ih => exact .cons (hI.reset h) (ih (hI.reset h))
  | look next ih => exact ih d.queue h
  | note busy line next ih => exact ih h
  | drain now send next ihsend ihnext =>
    have hasked := hI.asked h
    rw [run_drain]
    cases ht : d.queue.take? (now.getD d.clock) with
    | none =>
      rw [Script.moments_declined ht]
      have hanswered := hI.answered none hasked
      simp only [Desk.drain, ht]
      exact .cons hasked (.cons hanswered (ihnext none hanswered))
    | some taken =>
      -- From the call to its answer: hand-over, all that happens inside, end.
      obtain ⟨line, q⟩ := taken
      rw [Script.moments_served ht]
      have hhanded : I (past ++ [.asked] ++ [.handed ⟨line, now, d.clock⟩]) q :=
        hI.handed ht hasked
      have hinside := ihsend line (d := d.claim line q) hhanded
      have hended := hI.ended_after _ _ ((send line).run (d.claim line q)).1.clock
        ((send line).run (d.claim line q)).2 hinside.1
      have hanswered := hI.answered (some line) hended
      simp only [Desk.drain, ht]
      exact .cons hasked (.cons hhanded
        (hinside.append (.cons hended (.cons hanswered (ihnext (some line) hanswered)))))

theorem points (hI : Lasting I) (s : Script) {d : Desk} (h : I [] d.queue) :
    ∀ p ∈ s.points d, I p.past p.desk.queue := by
  intro p hp
  rcases List.mem_cons.mp hp with rfl | hp
  · exact h
  · exact (hI.run s h).2 p hp

end Lasting

def Event.act (q : Queue) : Event → Queue
  | queued lines => q.enqueue lines
  | reset => q.reset
  | handed h => { q with lines := q.lines.tail, lastSent := h.line, busy := true }
  | ended h clock _ => q.settle (h.stamp clock)
  | _ => q

theorem replayed_lasting (start : Queue) :
    Lasting fun past q => q = past.foldl Event.act start where
  queued lines h := by rw [List.foldl_append, ← h]; rfl
  reset h := by rw [List.foldl_append, ← h]; rfl
  asked h := by rw [List.foldl_append, ← h]; rfl
  answered line h := by rw [List.foldl_append, ← h]; rfl
  ended _ clock failed h := by rw [List.foldl_append, ← h]; rfl
  handed ht h := by
    obtain ⟨-, -, rest, hl, rfl⟩ := Queue.take?_eq_some_iff.mp ht
    rw [List.foldl_append, ← h]
    simp [Event.act, hl]

theorem Script.queue_run (s : Script) (d : Desk) :
    (s.run d).1.queue = (s.events d).foldl Event.act d.queue := by
  have hreplayed : Holds _ [] (s.moments d) (s.run d).1.queue :=
    (replayed_lasting d.queue).run s rfl
  exact hreplayed.1

/-- Whoever is handed the first line queues another, calls in vain, empties the queue, fills it anew
and is handed the first line of that before it is done. -/
def intrusion : Script :=
  .enqueue ["a", "", "b"] (.drain none
    (fun _ => .enqueue ["c"] (.drain none (fun _ => .finish) fun _ =>
      .reset (.enqueue ["d", "e"] (.drain none (fun _ => .fail) fun _ => .finish))))
    fun _ => .finish)

def intruded : List Point := intrusion.points (.fresh 1.8 1000)

/-- The point at which the inner hand-over has just begun. -/
def innermost : Point := intruded.get ⟨10, by decide +kernel⟩

theorem innermost_mem : innermost ∈ intruded := List.get_mem _ _

end Banter.Delivery
