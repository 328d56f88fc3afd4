import Banter.Proofs.Session.Pairing
import Banter.Proofs.Session.Passage
import Banter.Rehearsal
import Mathlib.Data.List.Forall2

/-!
Failures of the host stay outside: whatever calls of it fail, a session does the same and becomes
the same, but for its host and its journal.
-/
namespace Banter

variable {σ : Type} {R : σ → σ → Prop}

section Calls

variable [Host σ]

/-- A relation of hosts that outlasts what they are asked to say and perform, failing or not. -/
structure Host.Indifferent (R : σ → σ → Prop) : Prop where
  sendLine (now : Float) (line : String) {g h : σ} (hr : R g h) :
    R (Host.sendLine now line g).1 (Host.sendLine now line h).1
  perform (now : Float) (name : String) (args : List (String × Json.Value)) {g h : σ}
    (hr : R g h) : R (Host.perform now name args g).1 (Host.perform now name args h).1

structure Host.Concordant (R : σ → σ → Prop) : Prop extends Host.Indifferent R where
  participants (now : Float) {g h : σ} (hr : R g h) :
    (Host.participants now g).2 = (Host.participants now h).2 ∧
      R (Host.participants now g).1 (Host.participants now h).1

namespace Host.Indifferent

theorem unconcerned : Host.Indifferent fun _ _ : σ => True :=
  ⟨fun _ _ _ _ _ => trivial, fun _ _ _ _ _ _ => trivial⟩

theorem performFor (hR : Host.Indifferent R) (now : Float) (line : String) {g h : σ}
    (hr : R g h) :
    R (Emote.performFor now line g).2.1 (Emote.performFor now line h).2.1 := by
  unfold Emote.performFor
  cases Emote.detect (some line) with
  | none => exact hr
  | some emote => exact hR.perform now _ _ hr

theorem performAll (hR : Host.Indifferent R) (now : Float) (lines : List String) {g h : σ}
    (hr : R g h) : R (Reply.performAll now lines g).1 (Reply.performAll now lines h).1 := by
  induction lines generalizing g h with
  | nil => exact hr
  | cons line rest ih =>
    have hfirst := hR.performFor now line hr
    exact ih hfirst

end Host.Indifferent

/-- What is absorbed does not depend on the host. -/
theorem Reply.absorb_alike (hR : Host.Indifferent R) (now : Float) (s : Activity.Snapshot)
    (o : Outcome) (q : Delivery.Queue) (d : Draws) {g h : σ} (hr : R g h) :
    (∃ b, Reply.absorb now s o q d g = .error b ∧ Reply.absorb now s o q d h = .error b) ∨
      ∃ lines queue draws g' h' ns ms, R g' h' ∧
        Reply.absorb now s o q d g = .ok ⟨lines, queue, draws, g', ns⟩ ∧
        Reply.absorb now s o q d h = .ok ⟨lines, queue, draws, h', ms⟩ := by
  unfold Reply.absorb
  cases Reply.ofOutcome o with
  | error stop =>
    cases stop with
    | breach b => exact .inl ⟨b, rfl, rfl⟩
    | fault f => exact .inr ⟨_, _, _, _, _, _, _, hr, rfl, rfl⟩
  | ok reply =>
    right
    dsimp only
    cases Reply.prepareLines reply.text s d with
    | mk lines d' =>
      cases lines with
      | nil => exact ⟨_, _, _, _, _, _, _, hr, rfl, rfl⟩
      | cons line rest =>
        have hperformed := hR.performAll now (line :: rest) hr
        exact ⟨_, _, _, _, _, _, _, hperformed, rfl, rfl⟩

end Calls

/-- A chat and a plan of which calls to say or perform something fail. Those beyond the plan do
not, unless the chat itself fails. -/
structure Faltering (σ : Type) where
  chat : σ
  plan : List Bool

namespace Faltering

instance [Host σ] : Host (Faltering σ) where
  sendLine now line f :=
    let (chat, failed) := Host.sendLine now line f.chat
    (⟨chat, f.plan.tail⟩, failed || f.plan.headD false)
  perform now name args f :=
    let (chat, failed) := Host.perform now name args f.chat
    (⟨chat, f.plan.tail⟩, failed || f.plan.headD false)
  participants now f :=
    let (chat, names) := Host.participants now f.chat
    (⟨chat, f.plan⟩, names)

def SameChat (f g : Faltering σ) : Prop :=
  f.chat = g.chat

/-- Chats with the same state are concordant, whatever fails in them. -/
theorem concordant [Host σ] : Host.Concordant (SameChat : Faltering σ → Faltering σ → Prop) where
  sendLine now line f g (h : f.chat = g.chat) :=
    congrArg (fun chat : σ => (Host.sendLine now line chat).1) h
  perform now name args f g (h : f.chat = g.chat) :=
    congrArg (fun chat : σ => (Host.perform now name args chat).1) h
  participants now f g (h : f.chat = g.chat) :=
    ⟨congrArg (fun chat : σ => (Host.participants now chat).2) h,
      congrArg (fun chat : σ => (Host.participants now chat).1) h⟩

end Faltering

namespace Session

/-- Sessions that agree but for their hosts, which are related, and their journals. -/
def Alike (R : σ → σ → Prop) (s t : Session σ) : Prop :=
  ∃ host journal, R s.host host ∧ t = { s with host := host, journal := journal }

theorem Alike.tracker_eq {s t : Session σ} (h : Alike R s t) : t.tracker = s.tracker := by
  obtain ⟨host, journal, -, rfl⟩ := h
  rfl

theorem Alike.judged {s t : Session σ} (h : Alike R s t) (e : ChatEvent) (a : Admission) :
    Parallel (Alike R) (s.judged e a) (t.judged e a) := by
  obtain ⟨host, journal, hr, rfl⟩ := h
  unfold Session.judged
  dsimp only
  split_ifs
  · exact ⟨rfl, host, _, hr, rfl⟩
  · exact ⟨rfl, host, _, hr, rfl⟩

theorem Alike.hear {s t : Session σ} (h : Alike R s t) (clock : Float) (e : ChatEvent) :
    Parallel (Alike R) (s.hear clock e) (t.hear clock e) := by
  have hjudged := h.judged e (s.gate.evaluate (s.tracker.recordActivity clock) s.draws
    (some e.sender) (some e.text) s.queue.lastSent s.requestInFlight clock)
  by_cases hclosed : (!s.started || e.channel ≠ .publicChat) = true
  · have hs : s.hear clock e = (⟨none, none⟩, s) := if_pos hclosed
    have ht : t.hear clock e = (⟨none, none⟩, t) := by
      obtain ⟨host, journal, -, rfl⟩ := h
      exact if_pos hclosed
    rw [hs, ht]
    exact ⟨rfl, h⟩
  · have hs := s.hear_eq clock e
    have ht := t.hear_eq clock e
    obtain ⟨host, journal, hr, rfl⟩ := h
    rw [if_neg hclosed] at hs
    rw [hs, ht.trans (if_neg hclosed)]
    exact hjudged

theorem Alike.requestReply {s t : Session σ} (h : Alike R s t) (ticket : Ticket)
    (a : Wire.Answer) : Alike R (s.requestReply ticket a) (t.requestReply ticket a) := by
  obtain ⟨host, journal, hr, rfl⟩ := h
  rw [requestReply_report, requestReply_report]
  exact ⟨host, _, hr, rfl⟩

variable [Host σ]

theorem Alike.refresh (hR : Host.Concordant R) {s t : Session σ} (h : Alike R s t)
    (clock : Float) : Alike R (s.refresh clock) (t.refresh clock) := by
  obtain ⟨host, journal, hr, rfl⟩ := h
  obtain ⟨hsame, hrelated⟩ := hR.participants clock hr
  unfold Session.refresh
  dsimp only
  generalize Host.participants clock s.host = told at hsame hrelated ⊢
  generalize Host.participants clock host = heard at hsame hrelated ⊢
  obtain ⟨g, names⟩ := told
  obtain ⟨h, others⟩ := heard
  obtain rfl : names = others := hsame
  cases names with
  | none => exact ⟨h, _, hrelated, rfl⟩
  | some names => exact ⟨h, _, hrelated, rfl⟩

def untold (s : Session σ) (clock : Float) : Session σ :=
  { s with host := (Host.participants clock s.host).1 }.note [.rosterFailed]

theorem refresh_of_untold (s : Session σ) {clock : Float}
    (h : (Host.participants clock s.host).2 = none) : s.refresh clock = s.untold clock := by
  unfold Session.refresh untold
  generalize Host.participants clock s.host = told at h ⊢
  obtain ⟨host, names⟩ := told
  obtain rfl : names = none := h
  rfl

theorem alike_untold (s : Session σ) (clock : Float) :
    Alike (fun _ _ => True) s (s.untold clock) :=
  ⟨_, _, trivial, rfl⟩

theorem Alike.absorb (hR : Host.Indifferent R) {s t : Session σ} (h : Alike R s t)
    (clock : Float) (o : Outcome) :
    (∃ b, s.absorb clock o = .error b ∧ t.absorb clock o = .error b) ∨
      ∃ s' t', s.absorb clock o = .ok s' ∧ t.absorb clock o = .ok t' ∧ Alike R s' t' := by
  obtain ⟨host, journal, hr, rfl⟩ := h
  unfold Session.absorb
  dsimp only
  obtain ⟨b, hs, ht⟩ | ⟨lines, queue, draws, g', h', ns, ms, hr', hs, ht⟩ :=
    Reply.absorb_alike hR clock s.tracker.snapshot o s.queue s.draws hr
  · left
    rw [hs, ht]
    exact ⟨b, rfl, rfl⟩
  · right
    rw [hs, ht]
    exact ⟨_, _, rfl, rfl, h', _, hr', rfl⟩

theorem Alike.drain (hR : Host.Indifferent R) {s t : Session σ} (h : Alike R s t)
    (clock : Float) (now : Option Float) :
    Parallel (Alike R) (s.drain clock now) (t.drain clock now) := by
  obtain ⟨host, journal, hr, rfl⟩ := h
  unfold Session.drain
  dsimp only
  cases s.queue.take? (now.getD clock) with
  | none => exact ⟨rfl, host, journal, hr, rfl⟩
  | some taken =>
    obtain ⟨line, q⟩ := taken
    have hsaid := hR.sendLine clock line hr
    exact ⟨rfl, _, _, hsaid, rfl⟩

theorem alike_pairing (hR : Host.Indifferent R) : Pairing (Alike R) where
  started h := by
    obtain ⟨host, journal, -, rfl⟩ := h
    rfl
  handoff h := by
    obtain ⟨host, journal, -, rfl⟩ := h
    rfl
  waiting rest h := by
    obtain ⟨host, journal, hr, rfl⟩ := h
    exact ⟨host, journal, hr, rfl⟩
  absorb clock o h := h.absorb hR clock o
  drain clock now h := h.drain hR clock now

/-- The same command, but for a change of the host that keeps hosts related. -/
inductive Command.Alike (R : σ → σ → Prop) : Command σ → Command σ → Prop
  | same {command : Command σ} (h : ∀ change, command ≠ .changeHost change) :
    Command.Alike R command command
  | changeHost {f g : σ → σ} (h : ∀ {a b : σ}, R a b → R (f a) (g b)) :
    Command.Alike R (.changeHost f) (.changeHost g)

structure Scene.Alike (R : σ → σ → Prop) (c d : Scene σ) : Prop where
  clock : d.clock = c.clock
  session : Session.Alike R c.session d.session

theorem Scene.Alike.step (hR : Host.Concordant R) {c d : Scene σ} (h : Scene.Alike R c d)
    {x y : Command σ} (hxy : Command.Alike R x y) :
    (Session.step c x).1 = (Session.step d y).1 ∧
      Scene.Alike R (Session.step c x).2 (Session.step d y).2 := by
  obtain ⟨clock, s⟩ := c
  obtain ⟨clock', t⟩ := d
  obtain ⟨hclock, halike⟩ := h
  obtain rfl : clock = clock' := hclock.symm
  have h : Session.Alike R s t := halike
  cases hxy with
  | changeHost hfg =>
    obtain ⟨host, journal, hr, rfl⟩ := h
    exact ⟨rfl, rfl, _, _, hfg hr, rfl⟩
  | same hx =>
    cases x with
    | changeHost change => exact absurd rfl (hx change)
    | advance seconds => exact ⟨rfl, rfl, h⟩
    | setClock time => exact ⟨rfl, rfl, h⟩
    | start =>
      obtain ⟨host, journal, hr, rfl⟩ := h
      exact ⟨rfl, rfl, host, _, hr, rfl⟩
    | stop =>
      obtain ⟨host, journal, hr, rfl⟩ := h
      exact ⟨rfl, rfl, host, _, hr, rfl⟩
    | reset =>
      obtain ⟨host, journal, hr, rfl⟩ := h
      exact ⟨rfl, rfl, host, _, hr, rfl⟩
    | complete o token =>
      obtain ⟨host, journal, hr, rfl⟩ := h
      exact ⟨rfl, rfl, host, _, hr, rfl⟩
    | enqueue lines =>
      obtain ⟨host, journal, hr, rfl⟩ := h
      exact ⟨rfl, rfl, host, _, hr, rfl⟩
    | hear event =>
      obtain ⟨hheard, halike⟩ := h.hear clock event
      exact ⟨congrArg Result.hearing hheard, rfl, halike⟩
    | requestReply ticket answer =>
      have hreplied := h.requestReply ticket answer
      simp only [Session.step, Scene.put]
      refine ⟨trivial, rfl, ?_⟩
      dsimp only
      exact hreplied
    | processCompletions =>
      obtain ⟨hcount, halike⟩ := (alike_pairing hR.toIndifferent).processCompletions clock h
      exact ⟨congrArg Result.count hcount, rfl, halike⟩
    | refresh => exact ⟨rfl, rfl, h.refresh hR clock⟩
    | heartbeat now =>
      obtain ⟨hline, halike⟩ :=
        (alike_pairing hR.toIndifferent).heartbeat clock now h (h.refresh hR clock)
      exact ⟨congrArg Result.line hline, rfl, halike⟩

theorem Scene.Alike.run (hR : Host.Concordant R) {c d : Scene σ} (h : Scene.Alike R c d)
    {xs ys : List (Command σ)} (hxy : List.Forall₂ (Command.Alike R) xs ys) :
    (Session.run c xs).1 = (Session.run d ys).1 ∧
      Scene.Alike R (Session.run c xs).2 (Session.run d ys).2 := by
  induction hxy generalizing c d with
  | nil => exact ⟨rfl, h⟩
  | cons hfirst _ ih =>
    obtain ⟨hresult, hstep⟩ := h.step hR hfirst
    obtain ⟨hresults, hrun⟩ := ih hstep
    exact ⟨congrArg₂ List.cons hresult hresults, hrun⟩

/-- Whatever calls of the host fail, every command has the same result and leaves the same session,
but for its host and its journal. -/
theorem failures_stay_outside (hR : Host.Concordant R) {c d : Scene σ} (h : Scene.Alike R c d)
    {xs ys : List (Command σ)} (hxy : List.Forall₂ (Command.Alike R) xs ys) :
    (run c xs).1 = (run d ys).1 ∧
      (∀ n, Scene.Alike R (run c (xs.take n)).2 (run d (ys.take n)).2) ∧
      ∀ (s : Session σ) (clock : Float) (now : Option Float),
        (Host.participants clock s.host).2 = none →
          s.refresh clock = s.untold clock ∧
          (s.started = true → s.heartbeat clock now = (s.untold clock).beat clock now) ∧
          Parallel (Alike fun _ _ => True) (s.beat clock now) (s.heartbeat clock now) ∧
          (s.heartbeat clock now).2.tracker = s.tracker := by
  refine ⟨(h.run hR hxy).1, fun n => (h.run hR (List.forall₂_take n hxy)).2, ?_⟩
  intro s clock now hnone
  have hrefresh := s.refresh_of_untold hnone
  have hstarted : s.started = true → s.heartbeat clock now = (s.untold clock).beat clock now := by
    intro hs
    rw [heartbeat_eq_beat hs, hrefresh]
  have hbeat : Parallel (Alike fun _ _ => True) (s.beat clock now) (s.heartbeat clock now) := by
    cases hs : s.started with
    | false =>
      rw [heartbeat_of_resting hs, beat_of_resting hs]
      exact ⟨rfl, s.host, s.journal, trivial, rfl⟩
    | true =>
      rw [hstarted hs]
      exact (alike_pairing .unconcerned).beat clock now (s.alike_untold clock)
  refine ⟨hrefresh, hstarted, hbeat, ?_⟩
  rw [hbeat.2.tracker_eq, tracker_beat]

/-- Someone comes, is greeted and is told goodbye. -/
def greeting : List (Command (Faltering Rehearsal)) :=
  [.start, .hear ⟨"Bob", "hi", .publicChat⟩, .complete (.saying "Hello.") (some 1),
    .heartbeat none, .enqueue ["Bye."], .advance 2, .heartbeat none]

def porch (failing : List HostCall) (plan : List Bool) : Scene (Faltering Rehearsal) :=
  ⟨1000, .fresh .nearby ⟨.fresh [some "Bob"] failing, plan⟩ (.ofScript [0])⟩

/-- The greeting goes the same way where the emote and the last line fail. Where the host does not
tell who is present, the first tick does without. -/
theorem greeting_faltering :
    (run (porch [] []) greeting).1 = (run (porch [] [true, false, true]) greeting).1 ∧
      Scene.Alike Faltering.SameChat (run (porch [] []) (greeting.take 4)).2
        (run (porch [] [true, false, true]) (greeting.take 4)).2 ∧
      (run (porch [] [true, false, true]) greeting).2.session.journal.contains
        (.emoteFailed "wave") = true ∧
      (run (porch [] [true, false, true]) greeting).2.session.journal.contains
        (.sendFailed "Bye.") = true ∧
      ((run (porch [.roster] []) (greeting.take 3)).2.session.heartbeat 1000 none).2.tracker =
        (run (porch [.roster] []) (greeting.take 3)).2.session.tracker := by
  have hporch : Scene.Alike Faltering.SameChat (porch [] []) (porch [] [true, false, true]) :=
    ⟨rfl, ⟨.fresh [some "Bob"] [], [true, false, true]⟩, [], rfl, rfl⟩
  have hsame : List.Forall₂ (Command.Alike Faltering.SameChat) greeting greeting := by
    rw [List.forall₂_same]
    intro command hmem
    refine .same fun change hchange => ?_
    rw [hchange] at hmem
    simp [greeting] at hmem
  obtain ⟨hresults, hsteps, huntold⟩ :=
    failures_stay_outside Faltering.concordant hporch hsame
  -- Said of any session, so that none is played while terms are compared.
  have hany : ∀ s : Session (Faltering Rehearsal), (Host.participants 1000 s.host).2 = none →
      (s.heartbeat 1000 none).2.tracker = s.tracker :=
    fun s hs => (huntold s 1000 none hs).2.2.2
  exact ⟨hresults, hsteps 4, by decide +kernel, by decide +kernel, hany _ (by decide +kernel)⟩

end Session
end Banter
