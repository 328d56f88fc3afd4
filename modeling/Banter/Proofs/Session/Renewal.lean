import Banter.Proofs.Session.Equipment
import Banter.Proofs.Session.Pairing

/-!
A session that forgets is as good as new: from then on nobody can tell it from a session that was
never used, but for the numbers of its tickets, which go on counting.
-/
namespace Banter

def Ticket.renumber (k : Nat) (t : Ticket) : Ticket :=
  { t with token := t.token + k }

def Hearing.renumber (k : Nat) (h : Hearing) : Hearing :=
  { h with ticket := h.ticket.map (Ticket.renumber k) }

namespace Session

variable {σ : Type}

def Result.renumber (k : Nat) : Result → Result
  | .hearing h => .hearing (h.renumber k)
  | result => result

/-- The same command where the first `k` tickets were never issued. Their numbers become zero,
which no ticket bears. -/
def Command.recount (k : Nat) : Command σ → Command σ
  | .complete o token => .complete o (token.map (· - k))
  | .requestReply t a => .requestReply { t with token := t.token - k } a
  | command => command

def renumber (k : Nat) (earlier : List Notice) (s : Session σ) : Session σ :=
  { s with
    pending := s.pending.map (· + k)
    nextToken := s.nextToken + k
    journal := earlier ++ s.journal }

def Scene.renumber (k : Nat) (earlier : List Notice) (c : Scene σ) : Scene σ :=
  c.put (c.session.renumber k earlier)

/-- Forgetting leaves what was given to the session, and the number of the next ticket. -/
theorem Equipped.reset_eq {given : Settings} {s : Session σ} (h : Equipped given s) :
    s.reset =
      ({ Session.fresh given s.host s.draws with started := s.started }).renumber
        (s.nextToken - 1) s.journal := by
  have hnext : s.nextToken = 1 + (s.nextToken - 1) := by
    have := h.next
    omega
  have htracker : s.tracker.reset = .fresh given.botName :=
    congrArg Activity.Tracker.fresh h.botName
  have hgate : s.gate.reset = .fresh Gate.defaultCooldown := congrArg Gate.fresh h.cooldown
  have hqueue : s.queue.reset = .fresh Delivery.Queue.defaultDelay :=
    congrArg Delivery.Queue.fresh h.delay
  simp only [reset, renumber, Session.fresh, htracker, hgate, hqueue, h.settings, ← hnext,
    Option.map_none, List.append_nil]

section Renumbering

variable (k : Nat) (earlier : List Notice)

theorem renumber_note (s : Session σ) (notices : List Notice) :
    (s.renumber k earlier).note notices = (s.note notices).renumber k earlier := by
  simp only [renumber, note, List.append_assoc]

theorem renumber_start (s : Session σ) :
    (s.renumber k earlier).start = s.start.renumber k earlier :=
  renumber_note k earlier { s.reset with started := true } _

theorem renumber_stop (s : Session σ) :
    (s.renumber k earlier).stop = s.stop.renumber k earlier :=
  renumber_note k earlier { s.reset with started := false } _

theorem renumber_judged (s : Session σ) (e : ChatEvent) (a : Admission) :
    (s.renumber k earlier).judged e a =
      ((s.judged e a).1.renumber k, (s.judged e a).2.renumber k earlier) := by
  unfold judged
  cases a.decision.accepted with
  | true => simp [Hearing.renumber, Ticket.renumber, renumber, note, Nat.add_right_comm]
  | false => simp [Hearing.renumber, renumber, note]

theorem renumber_hear (s : Session σ) (clock : Float) (e : ChatEvent) :
    (s.renumber k earlier).hear clock e =
      ((s.hear clock e).1.renumber k, (s.hear clock e).2.renumber k earlier) := by
  have hflight : (s.renumber k earlier).requestInFlight = s.requestInFlight := by
    simp [requestInFlight, renumber]
  rw [hear_eq, hear_eq, hflight, renumber_judged]
  by_cases hclosed : (!s.started || e.channel ≠ .publicChat) = true
  · rw [if_pos hclosed]
    exact if_pos hclosed
  · rw [if_neg hclosed]
    exact if_neg hclosed

/-- A number from before the session was new is taken for zero, so zero must not be pending. -/
theorem renumber_complete {s : Session σ} (hs : s.pending ≠ some 0) (o : Outcome)
    (token : Option Nat) :
    (s.renumber k earlier).complete o token =
      (s.complete o (token.map (· - k))).renumber k earlier := by
  unfold complete renumber
  congr 1
  cases token with
  | none => rfl
  | some n =>
    cases hp : s.pending with
    | none => simp
    | some p =>
      have hpos : p ≠ 0 := fun h => hs (hp.trans (congrArg some h))
      have hiff : n = p + k ↔ n - k = p := by omega
      simp only [Option.map_some, Option.some.injEq, reduceCtorEq, false_or, hiff]
      split_ifs <;> rfl

theorem renumber_requestReply {s : Session σ} (hs : s.pending ≠ some 0) (t : Ticket)
    (a : Wire.Answer) :
    (s.renumber k earlier).requestReply t a =
      (s.requestReply { t with token := t.token - k } a).renumber k earlier := by
  have hnoted : (s.note (t.report s.settings a)).pending ≠ some 0 := hs
  have hsettings : (s.renumber k earlier).settings = s.settings := rfl
  have hending : ({ t with token := t.token - k } : Ticket).ending s.settings a =
      t.ending s.settings a := by
    simp only [Ticket.ending]
  have hreport : ({ t with token := t.token - k } : Ticket).report s.settings a =
      t.report s.settings a := by
    simp only [Ticket.report]
  rw [requestReply_report, requestReply_report, renumber_note, hsettings, hending, hreport,
    renumber_complete k earlier hnoted, Option.map_some]

variable [Host σ]

theorem renumber_refresh (s : Session σ) (clock : Float) :
    (s.renumber k earlier).refresh clock = (s.refresh clock).renumber k earlier := by
  unfold refresh
  simp only [renumber]
  split <;> simp [note]

theorem renumber_absorb (s : Session σ) (clock : Float) (o : Outcome) :
    (s.renumber k earlier).absorb clock o = (s.absorb clock o).map (renumber k earlier) := by
  unfold absorb
  simp only [renumber]
  cases Reply.absorb clock s.tracker.snapshot o s.queue s.draws s.host with
  | error b => rfl
  | ok a => simp [Except.map, note, renumber]

theorem renumber_drain (s : Session σ) (clock : Float) (now : Option Float) :
    (s.renumber k earlier).drain clock now =
      ((s.drain clock now).1, (s.drain clock now).2.renumber k earlier) := by
  have hqueue : (s.renumber k earlier).queue = s.queue := rfl
  unfold drain
  rw [hqueue]
  cases s.queue.take? (now.getD clock) with
  | none => rfl
  | some taken =>
    obtain ⟨line, q⟩ := taken
    have hnoted := renumber_note k earlier
      { s with queue := q.settle (now.getD clock), host := (Host.sendLine clock line s.host).1 }
      (.sending line :: if (Host.sendLine clock line s.host).2 then [.sendFailed line] else [])
    exact congrArg (Prod.mk (some line)) hnoted

theorem renumber_pairing : Pairing fun s t : Session σ => t = s.renumber k earlier where
  started h := by
    rw [h]
    rfl
  handoff h := by
    rw [h]
    rfl
  waiting rest h := by
    rw [h]
    rfl
  absorb {s t} clock o h := by
    rw [h, renumber_absorb]
    cases s.absorb clock o with
    | error b => exact .inl ⟨b, rfl, rfl⟩
    | ok s' => exact .inr ⟨s', _, rfl, rfl, rfl⟩
  drain clock now h := by
    rw [h, renumber_drain]
    exact ⟨rfl, rfl⟩

theorem renumber_processCompletions (s : Session σ) (clock : Float) :
    (s.renumber k earlier).processCompletions clock =
      ((s.processCompletions clock).1, (s.processCompletions clock).2.renumber k earlier) := by
  obtain ⟨hresult, hsession⟩ := (renumber_pairing k earlier).processCompletions clock (s := s) rfl
  exact Prod.ext hresult.symm hsession

theorem renumber_heartbeat (s : Session σ) (clock : Float) (now : Option Float) :
    (s.renumber k earlier).heartbeat clock now =
      ((s.heartbeat clock now).1, (s.heartbeat clock now).2.renumber k earlier) := by
  have hlook := renumber_refresh k earlier s clock
  obtain ⟨hresult, hsession⟩ := (renumber_pairing k earlier).heartbeat clock now rfl hlook
  exact Prod.ext hresult.symm hsession

/-- Counting more tickets from the start changes their numbers, and nothing else. -/
theorem step_renumber {c : Scene σ} (hc : c.session.pending ≠ some 0) (command : Command σ) :
    step (c.renumber k earlier) command =
      ((step c (command.recount k)).1.renumber k,
        (step c (command.recount k)).2.renumber k earlier) := by
  cases command with
  | advance seconds => rfl
  | setClock time => rfl
  | start =>
    simp only [step, Command.recount, Result.renumber, Scene.renumber, Scene.put,
      renumber_start]
  | stop =>
    simp only [step, Command.recount, Result.renumber, Scene.renumber, Scene.put,
      renumber_stop]
  | reset => rfl
  | hear event =>
    simp only [step, Command.recount, Result.renumber, Scene.renumber, Scene.put,
      renumber_hear]
  | complete o token =>
    simp only [step, Command.recount, Result.renumber, Scene.renumber, Scene.put,
      renumber_complete k earlier hc]
  | requestReply t a =>
    simp only [step, Command.recount, Result.renumber, Scene.renumber, Scene.put,
      renumber_requestReply k earlier hc]
  | processCompletions =>
    simp only [step, Command.recount, Result.renumber, Scene.renumber, Scene.put,
      renumber_processCompletions]
  | refresh =>
    simp only [step, Command.recount, Result.renumber, Scene.renumber, Scene.put,
      renumber_refresh]
  | heartbeat now =>
    simp only [step, Command.recount, Result.renumber, Scene.renumber, Scene.put,
      renumber_heartbeat]
  | enqueue lines => rfl
  | changeHost change => rfl

variable {k earlier}

theorem run_renumber {given : Settings} {c : Scene σ} (h : Equipped given c.session)
    (commands : List (Command σ)) :
    run (c.renumber k earlier) commands =
      ((run c (commands.map (Command.recount k))).1.map (Result.renumber k),
        (run c (commands.map (Command.recount k))).2.renumber k earlier) := by
  induction commands generalizing c with
  | nil => rfl
  | cons command rest ih =>
    have hnext := h.step (command.recount k)
    simp only [List.map_cons, run]
    rw [step_renumber k earlier h.pending, ih hnext]

end Renumbering

variable [Host σ]

/-- A session that forgets goes on like a new one with the same settings, host, draws and state of
being started. Only ticket numbers are greater, and an old one is as good as none. -/
theorem as_new_after_reset (settings : Settings) (host : σ) (draws : Draws) (clock : Float)
    (before after : List (Command σ)) :
    let past := run ⟨clock, .fresh settings host draws⟩ before
    let issued := (past.1.filterMap Result.ticket?).length
    let anew : Session σ :=
      { fresh settings past.2.session.host past.2.session.draws with
        started := past.2.session.started }
    let future := run ⟨past.2.clock, anew⟩ (after.map (Command.recount issued))
    run (step past.2 .reset).2 after =
      (future.1.map (Result.renumber issued),
        future.2.renumber issued past.2.session.journal) := by
  intro past issued anew future
  have hmade : Equipped settings (fresh settings host draws) := .fresh settings host draws false
  have hequipped : Equipped settings past.2.session := hmade.run before
  have hanew : Equipped settings anew := .fresh settings _ _ _
  have hcount : past.2.session.nextToken - 1 = issued := by
    have htotal : past.2.session.nextToken = 1 + issued := nextToken_run _ before
    omega
  have hreset : (step past.2 .reset).2 =
      Scene.renumber issued past.2.session.journal ⟨past.2.clock, anew⟩ := by
    have heq := hequipped.reset_eq
    rw [hcount] at heq
    exact congrArg past.2.put heq
  rw [hreset]
  exact run_renumber hanew after

end Session
end Banter
