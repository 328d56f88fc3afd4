import Banter.Proofs.Reply.Absorption
import Banter.Proofs.Session.Frame

/-!
What passes through a session: outcomes are handed back, wait and are absorbed; the lines that come
of them wait in turn and are said. A run is told event by event, with the session as it stands right
after each, also in the middle of an operation.
-/
namespace Banter

def Settings.nearby : Settings where
  enabled := true
  endpoint := ⟨"http".toList, [], [], .domain "localhost".toList, some 3000, [[]], none, none⟩
  showOverlay := true
  botName := "troll"
  heartbeat := 0.5
  logLevel := "INFO"

def Outcome.saying (line : String) : Outcome :=
  ⟨"Ann", some 200, some ("[\x7b\"text\":\"" ++ line ++ "\"\x7d]"), none⟩

/-- The outcome that the request of a ticket ends with. -/
def Ticket.ending (t : Ticket) (settings : Settings) (a : Wire.Answer) : Outcome :=
  match Wire.obstacle? settings with
  | none => (Wire.settled t.request a).1
  | some flaw => (Wire.broken t.request (.badHost flaw)).1

def Ticket.report (t : Ticket) (settings : Settings) (a : Wire.Answer) : List Notice :=
  Wire.departure t.request ++
    match Wire.obstacle? settings with
    | none => (Wire.settled t.request a).2
    | some flaw => (Wire.broken t.request (.badHost flaw)).2

namespace Session

inductive Event where
  | issued (ticket : Ticket)
  | returned (outcome : Outcome) (token : Option Nat)
  /-- An outcome is absorbed, and lines come of it. None do where that breaks off. -/
  | absorbed (outcome : Outcome) (lines : List String)
  | queued (lines : List String)
  /-- A line is handed to the host, whether or not the host fails. -/
  | said (line : String)

namespace Event

def issued? : Event → Option Ticket
  | issued ticket => some ticket
  | _ => none

def returned? : Event → Option Outcome
  | returned o _ => some o
  | _ => none

def absorbed? : Event → Option Outcome
  | absorbed o _ => some o
  | _ => none

def said? : Event → Option String
  | said line => some line
  | _ => none

def batch : Event → List String
  | absorbed _ lines => lines
  | queued lines => lines.filter (· ≠ "")
  | _ => []

end Event

def issuedIn (past : List Event) : List Ticket := past.filterMap Event.issued?

def returnedIn (past : List Event) : List Outcome := past.filterMap Event.returned?

def absorbedIn (past : List Event) : List Outcome := past.filterMap Event.absorbed?

def saidIn (past : List Event) : List String := past.filterMap Event.said?

def queuedIn (past : List Event) : List String := past.flatMap Event.batch

theorem returnedIn_snoc (past : List Event) (e : Event) :
    returnedIn (past ++ [e]) = returnedIn past ++ e.returned?.toList := by
  cases e <;> simp [returnedIn, Event.returned?]

theorem absorbedIn_snoc (past : List Event) (e : Event) :
    absorbedIn (past ++ [e]) = absorbedIn past ++ e.absorbed?.toList := by
  cases e <;> simp [absorbedIn, Event.absorbed?]

theorem saidIn_snoc (past : List Event) (e : Event) :
    saidIn (past ++ [e]) = saidIn past ++ e.said?.toList := by
  cases e <;> simp [saidIn, Event.said?]

theorem queuedIn_snoc (past : List Event) (e : Event) :
    queuedIn (past ++ [e]) = queuedIn past ++ e.batch := by
  simp [queuedIn]

variable {σ : Type}

structure Moment (σ : Type) where
  event : Event
  session : Session σ

theorem requestReply_report (s : Session σ) (t : Ticket) (a : Wire.Answer) :
    s.requestReply t a =
      (s.note (t.report s.settings a)).complete (t.ending s.settings a) (some t.token) := by
  cases hw : Wire.obstacle? s.settings <;>
    simp [requestReply, reachable, send, receive, conclude, Ticket.ending, Ticket.report, note, hw]

/-- However a request ends, its outcome is handed back once, under the number of its ticket. -/
theorem requestReply_eq (s : Session σ) (t : Ticket) (a : Wire.Answer) :
    ∃ notices, s.requestReply t a =
      (s.note notices).complete (t.ending s.settings a) (some t.token) :=
  ⟨t.report s.settings a, s.requestReply_report t a⟩

variable [Host σ]

/-- The line under way, as soon as the host has it. -/
def draining (s : Session σ) (clock : Float) (now : Option Float) : List (Moment σ) :=
  match s.queue.take? (now.getD clock) with
  | none => []
  | some (line, q) =>
    [⟨.said line, { s with queue := q, host := (Host.sendLine clock line s.host).1 }⟩]

/-- Outcomes absorbed one after the other, up to the first that breaks off. -/
def absorbing (clock : Float) : List Outcome → Session σ → List (Moment σ)
  | [], _ => []
  | o :: rest, s =>
    match Reply.absorb clock s.tracker.snapshot o s.queue s.draws s.host with
    | .error _ => [⟨.absorbed o [], { s with handoff := rest }⟩]
    | .ok a =>
      let next := { s with queue := a.queue, draws := a.draws, host := a.host }.note a.notices
      ⟨.absorbed o a.lines, { next with handoff := rest }⟩ :: absorbing clock rest next

def ticking (s : Session σ) (clock : Float) (now : Option Float) : List (Moment σ) :=
  if !s.started then []
  else
    let s := s.refresh clock
    absorbing clock s.handoff s ++
      match s.processCompletions clock with
      | (.error _, _) => []
      | (.ok _, s) => s.draining clock now

def Scene.moments (c : Scene σ) : Command σ → List (Moment σ)
  | .hear event =>
    (c.session.hear c.clock event).1.ticket.toList.map fun ticket =>
      ⟨.issued ticket, (c.session.hear c.clock event).2⟩
  | .complete o token => [⟨.returned o token, c.session.complete o token⟩]
  | .requestReply ticket answer =>
    [⟨.returned (ticket.ending c.session.settings answer) (some ticket.token),
      c.session.requestReply ticket answer⟩]
  | .processCompletions => absorbing c.clock c.session.handoff c.session
  | .heartbeat now => c.session.ticking c.clock now
  | .enqueue lines => [⟨.queued lines, c.session.enqueue lines⟩]
  | _ => []

/-- Does a command forget all that waits? -/
def Command.forgets : Command σ → Bool
  | .start | .stop | .reset => true
  | _ => false

/-- A session, and all that happened since it last forgot. -/
structure Point (σ : Type) where
  past : List Event
  session : Session σ

def through (past : List Event) : List (Moment σ) → List (Point σ)
  | [] => []
  | m :: rest => ⟨past ++ [m.event], m.session⟩ :: through (past ++ [m.event]) rest

/-- All points of a run: before, inside and after each command. -/
def points (c : Scene σ) (past : List Event) : List (Command σ) → List (Point σ)
  | [] => [⟨past, c.session⟩]
  | command :: rest =>
    ⟨past, c.session⟩ :: through past (c.moments command) ++
      points (step c command).2
        (if command.forgets then [] else past ++ (c.moments command).map Moment.event) rest

theorem mem_absorbing {clock : Float} {os : List Outcome} {s : Session σ} {e : Event}
    (h : e ∈ (absorbing clock os s).map Moment.event) :
    ∃ o lines, e = .absorbed o lines := by
  induction os generalizing s with
  | nil => simp [absorbing] at h
  | cons o rest ih =>
    unfold absorbing at h
    split at h
    · rw [List.map_singleton, List.mem_singleton] at h
      exact ⟨o, [], h⟩
    · next a _ =>
      rw [List.map_cons, List.mem_cons] at h
      obtain rfl | h := h
      · exact ⟨o, a.lines, rfl⟩
      · exact ih h

/-- A tick absorbs and says, and nothing else. -/
theorem mem_ticking {s : Session σ} {clock : Float} {now : Option Float} {e : Event}
    (h : e ∈ (s.ticking clock now).map Moment.event) :
    (∃ o lines, e = .absorbed o lines) ∨ ∃ line, e = .said line := by
  unfold ticking at h
  split_ifs at h
  · cases h
  · rw [List.map_append, List.mem_append] at h
    obtain h | h := h
    · exact .inl (mem_absorbing h)
    · right
      split at h
      · cases h
      · unfold draining at h
        split at h
        · cases h
        · next line _ _ =>
          rw [List.map_singleton, List.mem_singleton] at h
          exact ⟨line, h⟩

theorem standing_of_mem_absorbing {clock : Float} {os : List Outcome} {s : Session σ}
    {m : Moment σ} (h : m ∈ absorbing clock os s) : m.session.standing = s.standing := by
  induction os generalizing s with
  | nil => cases h
  | cons o rest ih =>
    unfold absorbing at h
    split at h
    · rw [List.mem_singleton.mp h]
      rfl
    · rcases List.mem_cons.mp h with rfl | hrest
      · rfl
      · have hlater := ih hrest
        exact hlater

theorem standing_of_mem_draining {s : Session σ} {clock : Float} {now : Option Float}
    {m : Moment σ} (h : m ∈ s.draining clock now) : m.session.standing = s.standing := by
  unfold draining at h
  split at h
  · cases h
  · rw [List.mem_singleton.mp h]
    rfl

theorem standing_of_mem_ticking {s : Session σ} {clock : Float} {now : Option Float}
    {m : Moment σ} (h : m ∈ s.ticking clock now) : m.session.standing = s.standing := by
  have hlook : (s.refresh clock).standing = s.standing := (s.refresh_frame clock).1
  have habsorbed : ((s.refresh clock).processCompletions clock).2.standing = s.standing :=
    (standing_absorbAll clock _ 0 _).trans hlook
  unfold ticking at h
  split_ifs at h
  · cases h
  · rcases List.mem_append.mp h with h | h
    · exact (standing_of_mem_absorbing h).trans hlook
    · split at h
      · cases h
      · next hdone =>
        rw [hdone] at habsorbed
        exact (standing_of_mem_draining h).trans habsorbed

end Session
end Banter
