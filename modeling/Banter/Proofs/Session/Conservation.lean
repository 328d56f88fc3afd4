import Banter.Proofs.Delivery.Queue
import Banter.Proofs.Session.Recorder
import Banter.Rehearsal

/-! No outcome and no line is lost, doubled or moved on its way through a session. -/
namespace Banter

namespace Session

variable {σ : Type}

/-- Outcomes and lines leave in the order in which they came, and what has not left still waits. -/
structure Conserved (past : List Event) (s : Session σ) : Prop where
  outcomes : returnedIn past = absorbedIn past ++ s.handoff
  lines : saidIn past ++ s.queue.lines = queuedIn past

/-- What an event moves between one session and the next. -/
def Event.Moves : Event → Session σ → Session σ → Prop
  | issued _, s, t => t.handoff = s.handoff ∧ t.queue.lines = s.queue.lines
  | returned o _, s, t => t.handoff = s.handoff ++ [o] ∧ t.queue.lines = s.queue.lines
  | absorbed o lines, s, t => s.handoff = o :: t.handoff ∧ t.queue.lines = s.queue.lines ++ lines
  | queued lines, s, t =>
    t.handoff = s.handoff ∧ t.queue.lines = s.queue.lines ++ lines.filter (· ≠ "")
  | said line, s, t => t.handoff = s.handoff ∧ s.queue.lines = line :: t.queue.lines

theorem Conserved.fresh (settings : Settings) (host : σ) (draws : Draws) :
    Conserved [] (Session.fresh settings host draws) :=
  ⟨rfl, rfl⟩

theorem Conserved.congr {past : List Event} {s t : Session σ} (h : Conserved past s)
    (hh : t.handoff = s.handoff) (hl : t.queue.lines = s.queue.lines) : Conserved past t :=
  ⟨by rw [hh, h.outcomes], by rw [hl, h.lines]⟩

theorem Conserved.snoc {past : List Event} {s t : Session σ} {e : Event}
    (h : Conserved past s) (hm : e.Moves s t) : Conserved (past ++ [e]) t := by
  have ho := h.outcomes
  have hl := h.lines
  constructor
  · rw [returnedIn_snoc, absorbedIn_snoc]
    cases e with
    | returned o token => simp [Event.returned?, Event.absorbed?, hm.1, ho]
    | absorbed o lines => simp [Event.returned?, Event.absorbed?, ← hm.1, ho]
    | _ => simp [Event.returned?, Event.absorbed?, hm.1, ho]
  · rw [saidIn_snoc, queuedIn_snoc]
    cases e with
    | said line => simp [Event.said?, Event.batch, ← hm.2, hl]
    | _ => simp [Event.said?, Event.batch, hm.2, ← hl]

/-- A past that any session can have had: what waits in it has come, and the lines were all of an
outcome that is gone. -/
def pastOf (s : Session σ) : List Event :=
  let gone : Outcome := ⟨"", none, none, none⟩
  .returned gone none :: .absorbed gone s.queue.lines :: s.handoff.map (.returned · none)

theorem conserved_pastOf (s : Session σ) : Conserved s.pastOf s where
  outcomes := by
    simp [pastOf, returnedIn, absorbedIn, Event.returned?, Event.absorbed?, List.filterMap_cons,
      List.filterMap_map, Function.comp_def]
  lines := by
    simp [pastOf, saidIn, queuedIn, Event.said?, Event.batch, List.filterMap_cons,
      List.filterMap_map, List.flatMap_map, Function.comp_def]

/-- Between two sessions with one history, what leaves is what was there and what came. -/
theorem Conserved.since {past events : List Event} {s t : Session σ} (hs : Conserved past s)
    (ht : Conserved (past ++ events) t) :
    absorbedIn events ++ t.handoff = s.handoff ++ returnedIn events ∧
      saidIn events ++ t.queue.lines = s.queue.lines ++ queuedIn events := by
  obtain ⟨houtcomes, hlines⟩ := ht
  simp only [returnedIn, absorbedIn, saidIn, queuedIn, List.filterMap_append,
    List.flatMap_append] at houtcomes hlines
  have hcame : returnedIn past = absorbedIn past ++ s.handoff := hs.outcomes
  have hqueued : saidIn past ++ s.queue.lines = queuedIn past := hs.lines
  constructor
  · have hsame : absorbedIn past ++ (absorbedIn events ++ t.handoff) =
        absorbedIn past ++ (s.handoff ++ returnedIn events) := by
      rw [← List.append_assoc, ← List.append_assoc, ← hcame]
      exact houtcomes.symm
    exact List.append_cancel_left hsame
  · have hsame : saidIn past ++ (saidIn events ++ t.queue.lines) =
        saidIn past ++ (s.queue.lines ++ queuedIn events) := by
      rw [← List.append_assoc, ← List.append_assoc, hqueued]
      exact hlines
    exact List.append_cancel_left hsame

variable [Host σ]

theorem conserved_lasting : Lasting (Conserved : List Event → Session σ → Prop) where
  note _ h := h.congr rfl rfl
  refresh {_ s} clock h := by
    obtain ⟨-, hh, hq, -⟩ := s.refresh_frame clock
    exact h.congr hh (congrArg Delivery.Queue.lines hq)
  hear {_ s} clock e h := by
    obtain ⟨hh, hq, -⟩ := s.hear_frame clock e
    have hl := congrArg Delivery.Queue.lines hq
    cases (s.hear clock e).1.ticket with
    | none =>
      rw [Option.toList_none, List.map_nil, List.append_nil]
      exact h.congr hh hl
    | some ticket => exact h.snoc ⟨hh, hl⟩
  complete _ _ h := h.snoc ⟨rfl, rfl⟩
  enqueue {_ s} lines h :=
    h.snoc ⟨rfl, congrArg (s.queue.lines ++ ·) (Delivery.Queue.batch_eq_filter lines)⟩
  absorbed {_ s _ _ _ a} ha h := by
    have hq : a.queue.lines = s.queue.lines ++ a.lines := by rw [Reply.absorb_queue ha]
    exact h.snoc ⟨rfl, hq⟩
  broken _ h := h.snoc ⟨rfl, (List.append_nil _).symm⟩
  said hq h := h.snoc ⟨rfl, Delivery.Queue.take?_lines hq⟩
  settled _ h := h.congr rfl rfl

theorem tally_heartbeat (s : Session σ) (clock : Float) (now : Option Float) :
    let events := (s.ticking clock now).map Moment.event
    absorbedIn events ++ (s.heartbeat clock now).2.handoff = s.handoff ∧
      saidIn events ++ (s.heartbeat clock now).2.queue.lines =
        s.queue.lines ++ queuedIn events := by
  intro events
  have hnone : returnedIn events = [] := by
    refine List.filterMap_eq_nil_iff.mpr fun e he => ?_
    obtain ⟨o, lines, rfl⟩ | ⟨line, rfl⟩ := mem_ticking he <;> rfl
  have hpast := conserved_pastOf s
  have htick := ((conserved_lasting.heartbeat s clock now).holds hpast).1
  obtain ⟨houtcomes, hlines⟩ := hpast.since htick
  refine ⟨?_, hlines⟩
  rw [houtcomes, hnone, List.append_nil]

/-- A visit to a chat that takes no lines. The second outcome cannot be read. -/
def visit : List (Command (Overheard Rehearsal)) :=
  [.start, .enqueue ["Hi.", ""], .complete (.saying "Hello.") none,
    .complete ⟨"Bob", none, none, none⟩ none, .complete (.saying "Bye.") none, .heartbeat none,
    .heartbeat none]

def visited : List (Point (Overheard Rehearsal)) :=
  points ⟨1000, .fresh .nearby ⟨.fresh [] [.send], []⟩ (.ofScript [])⟩ [] visit

end Session
end Banter
