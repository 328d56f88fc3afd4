import Banter.Proofs.Session.Frame

/-!
Two sessions side by side: a relation that outlasts what a tick does to each outcome and each line
outlasts the tick.
-/
namespace Banter.Session

variable {σ : Type}

/-- The results are the same, and the sessions after them are related. -/
def Parallel {α : Type} (T : Session σ → Session σ → Prop) (x y : α × Session σ) : Prop :=
  x.1 = y.1 ∧ T x.2 y.2

variable [Host σ]

/-- A tick that does not look who is present. -/
def beat (s : Session σ) (clock : Float) (now : Option Float) :
    Except Breach (Option String) × Session σ :=
  if !s.started then (.ok none, s)
  else
    match s.processCompletions clock with
    | (.error b, s) => (.error b, s)
    | (.ok _, s) =>
      let (line, s) := s.drain clock now
      (.ok line, s)

theorem beat_of_resting {s : Session σ} (hs : s.started = false) (clock : Float)
    (now : Option Float) : s.beat clock now = (.ok none, s) := by
  unfold beat
  rw [hs]
  rfl

theorem heartbeat_of_resting {s : Session σ} (hs : s.started = false) (clock : Float)
    (now : Option Float) : s.heartbeat clock now = (.ok none, s) := by
  unfold heartbeat
  rw [hs]
  rfl

theorem heartbeat_eq_beat {s : Session σ} (hs : s.started = true) (clock : Float)
    (now : Option Float) : s.heartbeat clock now = (s.refresh clock).beat clock now := by
  have hstarted : (s.refresh clock).started = true :=
    (congrArg Standing.started (s.refresh_frame clock).1).trans hs
  unfold heartbeat beat
  rw [hstarted, hs]
  rfl

theorem tracker_beat (s : Session σ) (clock : Float) (now : Option Float) :
    (s.beat clock now).2.tracker = s.tracker := by
  have habsorbed : (s.processCompletions clock).2.tracker = s.tracker :=
    tracker_absorbAll clock s.handoff 0 s
  unfold beat
  split_ifs
  · rfl
  · split
    · next h => rw [← habsorbed, h]
    · next t h =>
      rw [h] at habsorbed
      exact (tracker_drain t clock now).trans habsorbed

/-- Related sessions do the same at each outcome and each line, and stay related. -/
structure Pairing (T : Session σ → Session σ → Prop) : Prop where
  started {s t : Session σ} (h : T s t) : t.started = s.started
  handoff {s t : Session σ} (h : T s t) : t.handoff = s.handoff
  waiting {s t : Session σ} (rest : List Outcome) (h : T s t) :
    T { s with handoff := rest } { t with handoff := rest }
  absorb {s t : Session σ} (clock : Float) (o : Outcome) (h : T s t) :
    (∃ b, s.absorb clock o = .error b ∧ t.absorb clock o = .error b) ∨
      ∃ s' t', s.absorb clock o = .ok s' ∧ t.absorb clock o = .ok t' ∧ T s' t'
  drain {s t : Session σ} (clock : Float) (now : Option Float) (h : T s t) :
    Parallel T (s.drain clock now) (t.drain clock now)

namespace Pairing

variable {T : Session σ → Session σ → Prop} {s t : Session σ}

theorem absorbAll (hT : Pairing T) (clock : Float) (os : List Outcome) (n : Nat) (h : T s t) :
    Parallel T (absorbAll clock os n s) (absorbAll clock os n t) := by
  induction os generalizing n s t with
  | nil => exact ⟨rfl, hT.waiting [] h⟩
  | cons o rest ih =>
    unfold Session.absorbAll
    obtain ⟨b, hs, ht⟩ | ⟨s', t', hs, ht, hnext⟩ := hT.absorb clock o h
    · rw [hs, ht]
      exact ⟨rfl, hT.waiting rest h⟩
    · rw [hs, ht]
      exact ih (n + 1) hnext

theorem processCompletions (hT : Pairing T) (clock : Float) (h : T s t) :
    Parallel T (s.processCompletions clock) (t.processCompletions clock) := by
  unfold Session.processCompletions
  rw [hT.handoff h]
  exact hT.absorbAll clock s.handoff 0 h

theorem beat (hT : Pairing T) (clock : Float) (now : Option Float) (h : T s t) :
    Parallel T (s.beat clock now) (t.beat clock now) := by
  have habsorbed := hT.processCompletions clock h
  unfold Session.beat
  rw [hT.started h]
  split_ifs
  · exact ⟨rfl, h⟩
  · generalize s.processCompletions clock = x at habsorbed ⊢
    generalize t.processCompletions clock = y at habsorbed ⊢
    obtain ⟨result, s'⟩ := x
    obtain ⟨result', t'⟩ := y
    obtain ⟨rfl, hnext⟩ := habsorbed
    cases result with
    | error b => exact ⟨rfl, hnext⟩
    | ok n =>
      obtain ⟨hline, hdrained⟩ := hT.drain clock now hnext
      exact ⟨congrArg Except.ok hline, hdrained⟩

theorem heartbeat (hT : Pairing T) (clock : Float) (now : Option Float) (h : T s t)
    (hlook : T (s.refresh clock) (t.refresh clock)) :
    Parallel T (s.heartbeat clock now) (t.heartbeat clock now) := by
  cases hs : s.started with
  | false =>
    have ht := (hT.started h).trans hs
    rw [heartbeat_of_resting hs, heartbeat_of_resting ht]
    exact ⟨rfl, h⟩
  | true =>
    have ht := (hT.started h).trans hs
    rw [heartbeat_eq_beat hs, heartbeat_eq_beat ht]
    exact hT.beat clock now hlook

end Pairing
end Banter.Session
