import Banter.Session.Command
import Mathlib.Tactic.SplitIfs

/-! What each operation of a session may change, and what it leaves alone. -/
namespace Banter

theorem Gate.objection_ne_accepted (g : Gate) (botName : String) (sender text : Option String)
    (lastSent : String) (inFlight : Bool) (now : Float) :
    g.objection botName sender text lastSent inFlight now ≠ some .accepted := by
  unfold objection
  split_ifs <;> simp

/-- A message is refused for a reason or by chance, or it is accepted. -/
theorem Gate.evaluate_inv (g : Gate) (t : Activity.Tracker Float) (d : Draws)
    (sender text : Option String) (lastSent : String) (inFlight : Bool) (now : Float) :
    (∃ verdict, g.objection t.botName sender text lastSent inFlight now = some verdict ∧
        (⟨verdict, none⟩ : Decision).accepted = false ∧
        g.evaluate t d sender text lastSent inFlight now = ⟨⟨verdict, none⟩, g, t, d, []⟩) ∨
      g.objection t.botName sender text lastSent inFlight now = none ∧
        (t.chance ≤ d.next.1 ∧
            g.evaluate t d sender text lastSent inFlight now =
              ⟨⟨.chance, some t.chance⟩, g, t, d.next.2, []⟩ ∨
          ¬ t.chance ≤ d.next.1 ∧
            g.evaluate t d sender text lastSent inFlight now =
              ⟨⟨.accepted, some t.chance⟩, { g with lastResponse := some now },
                t.recordInteraction sender, d.next.2, (t.forgotten sender).map .evicted⟩) := by
  unfold evaluate
  cases ho : g.objection t.botName sender text lastSent inFlight now with
  | some verdict =>
    have hrefused : verdict ≠ .accepted := by
      rintro rfl
      exact g.objection_ne_accepted _ _ _ _ _ _ ho
    exact .inl ⟨verdict, rfl, beq_false_of_ne hrefused, rfl⟩
  | none =>
    by_cases hunlucky : t.chance ≤ d.next.1
    · exact .inr ⟨rfl, .inl ⟨hunlucky, if_pos hunlucky⟩⟩
    · exact .inr ⟨rfl, .inr ⟨hunlucky, if_neg hunlucky⟩⟩

/-- An accepted message finds the gate rested and no request out. Only an accepted one is stamped. -/
theorem Gate.evaluate_cases (g : Gate) (t : Activity.Tracker Float) (d : Draws)
    (sender text : Option String) (lastSent : String) (inFlight : Bool) (now : Float) :
    ((g.evaluate t d sender text lastSent inFlight now).decision.accepted = false ∧
        (g.evaluate t d sender text lastSent inFlight now).gate = g) ∨
      ((g.evaluate t d sender text lastSent inFlight now).decision.accepted = true ∧
        g.rested now = true ∧ inFlight = false ∧
        (g.evaluate t d sender text lastSent inFlight now).gate =
          { g with lastResponse := some now }) := by
  obtain ⟨verdict, -, hrefused, heq⟩ | ⟨ho, ⟨-, heq⟩ | ⟨-, heq⟩⟩ :=
    g.evaluate_inv t d sender text lastSent inFlight now
  · rw [heq]
    exact .inl ⟨hrefused, rfl⟩
  · rw [heq]
    exact .inl ⟨rfl, rfl⟩
  · rw [heq]
    right
    unfold objection at ho
    split_ifs at ho with hs he hc hr hf
    simp only [Bool.not_eq_true] at hf
    exact ⟨rfl, by simpa using hr, hf, rfl⟩

namespace Session

variable {σ : Type}

/-- The part of a session that decides over requests. Ticks do not touch it. -/
structure Standing where
  settings : Settings
  gate : Gate
  pending : Option Nat
  nextToken : Nat
  started : Bool

def standing (s : Session σ) : Standing :=
  ⟨s.settings, s.gate, s.pending, s.nextToken, s.started⟩

@[simp] theorem standing_note (s : Session σ) (notices : List Notice) :
    (s.note notices).standing = s.standing := rfl

def judged (s : Session σ) (e : ChatEvent) (a : Admission) : Hearing × Session σ :=
  let s := { s with gate := a.gate, tracker := a.tracker, draws := a.draws }.note a.notices
  if a.decision.accepted then
    let ticket : Ticket := ⟨s.nextToken, .build e.sender e.text s.tracker.snapshot⟩
    (⟨some a.decision, some ticket⟩,
      { s with pending := some ticket.token, nextToken := s.nextToken + 1 }.note
        [.heard e.sender, .heardText e.text])
  else (⟨some a.decision, none⟩, s.note [.skipped e.sender a.decision.verdict.text])

theorem hear_eq (s : Session σ) (clock : Float) (e : ChatEvent) :
    s.hear clock e =
      if !s.started || e.channel ≠ .publicChat then (⟨none, none⟩, s)
      else s.judged e (s.gate.evaluate (s.tracker.recordActivity clock) s.draws (some e.sender)
        (some e.text) s.queue.lastSent s.requestInFlight clock) := rfl

/-- Hearing a line leaves the two queues, the host and the settings alone. -/
theorem hear_frame (s : Session σ) (clock : Float) (e : ChatEvent) :
    (s.hear clock e).2.handoff = s.handoff ∧ (s.hear clock e).2.queue = s.queue ∧
      (s.hear clock e).2.host = s.host ∧ (s.hear clock e).2.settings = s.settings ∧
      (s.hear clock e).2.started = s.started := by
  unfold hear
  dsimp only
  split_ifs <;> exact ⟨rfl, rfl, rfl, rfl, rfl⟩

/-- A line issues a ticket only while no request is out and the gate has rested. Without a ticket
the standing stays as it is. -/
theorem hear_cases (s : Session σ) (clock : Float) (e : ChatEvent) :
    ((s.hear clock e).1.ticket = none ∧ (s.hear clock e).2.standing = s.standing) ∨
      ∃ ticket, (s.hear clock e).1.ticket = some ticket ∧ ticket.token = s.nextToken ∧
        s.pending = none ∧ s.gate.rested clock = true ∧
        (s.hear clock e).2.standing =
          { s.standing with
            gate := { s.gate with lastResponse := some clock }
            pending := some ticket.token
            nextToken := s.nextToken + 1 } := by
  by_cases hclosed : (!s.started || e.channel ≠ .publicChat) = true
  · left
    simp only [hear, if_pos hclosed, and_self]
  have hgate := s.gate.evaluate_cases (s.tracker.recordActivity clock) s.draws (some e.sender)
    (some e.text) s.queue.lastSent s.requestInFlight clock
  simp only [hear, if_neg hclosed]
  obtain ⟨hno, hg⟩ | ⟨hyes, hrested, hfree, hg⟩ := hgate
  · left
    rw [hno]
    refine ⟨rfl, ?_⟩
    simp only [Bool.false_eq_true, if_false, standing_note]
    simp only [standing, hg]
  · right
    rw [hyes]
    refine ⟨_, rfl, rfl, by simpa [requestInFlight] using hfree, hrested, ?_⟩
    simp only [if_true, standing_note]
    simp only [standing, note, hg]

variable [Host σ]

theorem refresh_frame (s : Session σ) (clock : Float) :
    (s.refresh clock).standing = s.standing ∧ (s.refresh clock).handoff = s.handoff ∧
      (s.refresh clock).queue = s.queue ∧
      (s.refresh clock).host = (Host.participants clock s.host).1 := by
  unfold refresh
  split <;> next h => exact ⟨rfl, rfl, rfl, (congrArg Prod.fst h).symm⟩

theorem absorb_eq_ok {s t : Session σ} {clock : Float} {o : Outcome}
    (h : s.absorb clock o = .ok t) :
    ∃ a, Reply.absorb clock s.tracker.snapshot o s.queue s.draws s.host = .ok a ∧
      t = { s with queue := a.queue, draws := a.draws, host := a.host }.note a.notices := by
  unfold absorb at h
  split at h
  · cases h
  · next a ha => exact ⟨a, ha, (Except.ok.inj h).symm⟩

/-- Absorbing outcomes changes the two queues, the draws, the host and the journal at most. -/
theorem absorbAll_frame (clock : Float) (os : List Outcome) (n : Nat) (s : Session σ) :
    ∃ handoff queue draws host journal, (absorbAll clock os n s).2 =
      { s with
        handoff := handoff, queue := queue, draws := draws, host := host, journal := journal } := by
  induction os generalizing n s with
  | nil => exact ⟨[], s.queue, s.draws, s.host, s.journal, rfl⟩
  | cons o rest ih =>
    unfold absorbAll
    split
    · exact ⟨rest, s.queue, s.draws, s.host, s.journal, rfl⟩
    · next t ht =>
      obtain ⟨a, -, rfl⟩ := absorb_eq_ok ht
      obtain ⟨handoff, queue, draws, host, journal, h⟩ := ih (n + 1) _
      exact ⟨handoff, queue, draws, host, journal, h⟩

theorem standing_absorbAll (clock : Float) (os : List Outcome) (n : Nat) (s : Session σ) :
    (absorbAll clock os n s).2.standing = s.standing := by
  obtain ⟨handoff, queue, draws, host, journal, h⟩ := s.absorbAll_frame clock os n
  rw [h]
  rfl

theorem tracker_absorbAll (clock : Float) (os : List Outcome) (n : Nat) (s : Session σ) :
    (absorbAll clock os n s).2.tracker = s.tracker := by
  obtain ⟨handoff, queue, draws, host, journal, h⟩ := s.absorbAll_frame clock os n
  rw [h]

theorem standing_drain (s : Session σ) (clock : Float) (now : Option Float) :
    (s.drain clock now).2.standing = s.standing := by
  unfold drain
  split <;> rfl

theorem tracker_drain (s : Session σ) (clock : Float) (now : Option Float) :
    (s.drain clock now).2.tracker = s.tracker := by
  unfold drain
  split <;> rfl

theorem standing_heartbeat (s : Session σ) (clock : Float) (now : Option Float) :
    (s.heartbeat clock now).2.standing = s.standing := by
  have habsorbed : ((s.refresh clock).processCompletions clock).2.standing = s.standing :=
    (standing_absorbAll clock _ 0 _).trans (s.refresh_frame clock).1
  unfold heartbeat
  split_ifs
  · rfl
  · split
    · next h => rw [← habsorbed, h]
    · next t h =>
      rw [h] at habsorbed
      exact (standing_drain t clock now).trans habsorbed

theorem run_append (c : Scene σ) (xs ys : List (Command σ)) :
    run c (xs ++ ys) =
      ((run c xs).1 ++ (run (run c xs).2 ys).1, (run (run c xs).2 ys).2) := by
  induction xs generalizing c with
  | nil => rfl
  | cons x rest ih =>
    simp only [List.cons_append, run]
    rw [ih]

theorem run_snoc (c : Scene σ) (commands : List (Command σ)) (last : Command σ) :
    (run c (commands ++ [last])).2 = (step (run c commands).2 last).2 := by
  rw [run_append]
  rfl

end Session
end Banter
