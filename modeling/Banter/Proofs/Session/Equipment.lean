import Banter.Proofs.Delivery.Queue
import Banter.Proofs.Session.Lasting

/-! What a session was given at its start and keeps, and how it numbers its tickets. -/
namespace Banter

theorem Activity.Tracker.botName_recordInteraction (t : Activity.Tracker Float)
    (name : Option String) : (t.recordInteraction name).botName = t.botName := by
  unfold recordInteraction
  split
  · split_ifs <;> rfl
  · rfl

theorem Gate.botName_evaluate (g : Gate) (t : Activity.Tracker Float) (d : Draws)
    (sender text : Option String) (lastSent : String) (inFlight : Bool) (now : Float) :
    (g.evaluate t d sender text lastSent inFlight now).tracker.botName = t.botName := by
  obtain ⟨verdict, -, -, heq⟩ | ⟨-, ⟨-, heq⟩ | ⟨-, heq⟩⟩ :=
    g.evaluate_inv t d sender text lastSent inFlight now
  · rw [heq]
  · rw [heq]
  · rw [heq]
    exact t.botName_recordInteraction sender

namespace Session

variable {σ : Type}

/-- What a session has from its settings and keeps, and that its tickets count from one. -/
structure Equipped (given : Settings) (s : Session σ) : Prop where
  settings : s.settings = given
  botName : s.tracker.botName = given.botName
  cooldown : s.gate.cooldown = Gate.defaultCooldown
  delay : s.queue.delay = Delivery.Queue.defaultDelay
  next : 0 < s.nextToken
  pending : s.pending ≠ some 0

namespace Equipped

variable {given : Settings} {s : Session σ}

theorem fresh (settings : Settings) (host : σ) (draws : Draws) (started : Bool) :
    Equipped settings { Session.fresh settings host draws with started := started } :=
  ⟨rfl, rfl, rfl, rfl, Nat.one_pos, (Option.some_ne_none 0).symm⟩

theorem forgetting (h : Equipped given s) (started : Bool) (journal : List Notice) :
    Equipped given { s.reset with started := started, journal := journal } :=
  ⟨h.settings, h.botName, h.cooldown, h.delay, h.next, (Option.some_ne_none 0).symm⟩

theorem congr {t : Session σ} (h : Equipped given s) (hs : t.standing = s.standing)
    (hn : t.tracker.botName = s.tracker.botName) (hd : t.queue.delay = s.queue.delay) :
    Equipped given t where
  settings := (congrArg Standing.settings hs).trans h.settings
  botName := hn.trans h.botName
  cooldown := (congrArg (fun u => u.gate.cooldown) hs).trans h.cooldown
  delay := hd.trans h.delay
  next := Nat.lt_of_lt_of_eq h.next (congrArg Standing.nextToken hs).symm
  pending hp := h.pending ((congrArg Standing.pending hs).symm.trans hp)

end Equipped

theorem botName_hear (s : Session σ) (clock : Float) (e : ChatEvent) :
    (s.hear clock e).2.tracker.botName = s.tracker.botName := by
  have hjudged := s.gate.botName_evaluate (s.tracker.recordActivity clock) s.draws (some e.sender)
    (some e.text) s.queue.lastSent s.requestInFlight clock
  unfold hear
  dsimp only
  split_ifs
  · rfl
  · exact hjudged
  · exact hjudged

variable [Host σ]

theorem botName_refresh (s : Session σ) (clock : Float) :
    (s.refresh clock).tracker.botName = s.tracker.botName := by
  unfold refresh
  split <;> rfl

theorem equipped_lasting (given : Settings) :
    Lasting fun _ (s : Session σ) => Equipped given s where
  note _ h := h.congr rfl rfl rfl
  refresh {_ s} clock h := by
    obtain ⟨hs, -, hq, -⟩ := s.refresh_frame clock
    exact h.congr hs (s.botName_refresh clock) (congrArg Delivery.Queue.delay hq)
  hear {_ s} clock e h := by
    obtain ⟨-, hq, -⟩ := s.hear_frame clock e
    have hn := s.botName_hear clock e
    have hd := congrArg Delivery.Queue.delay hq
    obtain ⟨-, hs⟩ | ⟨ticket, -, htoken, -, -, hs⟩ := s.hear_cases clock e
    · exact h.congr hs hn hd
    · refine ⟨(congrArg Standing.settings hs).trans h.settings, hn.trans h.botName,
        (congrArg (fun u => u.gate.cooldown) hs).trans h.cooldown, hd.trans h.delay, ?_, ?_⟩
      · rw [show (s.hear clock e).2.nextToken = s.nextToken + 1 from
          congrArg Standing.nextToken hs]
        exact Nat.succ_pos _
      · rw [show (s.hear clock e).2.pending = some ticket.token from
          congrArg Standing.pending hs, htoken]
        intro hzero
        have hnext := h.next
        have : s.nextToken = 0 := Option.some.inj hzero
        omega
  complete {_ s} o token h := by
    refine ⟨h.settings, h.botName, h.cooldown, h.delay, h.next, ?_⟩
    unfold complete
    dsimp only
    split_ifs
    · exact (Option.some_ne_none 0).symm
    · exact h.pending
  enqueue _ h := h.congr rfl rfl rfl
  absorbed ha h := h.congr rfl rfl (by rw [Reply.absorb_queue ha])
  broken _ h := h.congr rfl rfl rfl
  said hq h := h.congr rfl rfl (Delivery.Queue.delay_take? hq)
  settled _ h := h.congr rfl rfl rfl

theorem Equipped.step {given : Settings} {c : Scene σ} (h : Equipped given c.session)
    (command : Command σ) : Equipped given (Session.step c command).2.session := by
  refine (equipped_lasting given).kept ?_ (fun _ _ hs => hs.congr rfl rfl rfl) h command
  intro s hs
  exact ⟨hs.forgetting _ _, hs.forgetting _ _, hs.forgetting _ _⟩

theorem Equipped.run {given : Settings} {c : Scene σ} (h : Equipped given c.session)
    (commands : List (Command σ)) : Equipped given (run c commands).2.session := by
  induction commands generalizing c with
  | nil => exact h
  | cons command rest ih => exact ih (h.step command)

def Result.ticket? : Result → Option Ticket
  | .hearing h => h.ticket
  | _ => none

theorem nextToken_step (c : Scene σ) (command : Command σ) :
    (step c command).2.session.nextToken =
      c.session.nextToken + (step c command).1.ticket?.toList.length := by
  cases command with
  | hear e =>
    obtain ⟨hnone, hs⟩ | ⟨ticket, hsome, -, -, -, hs⟩ := c.session.hear_cases c.clock e
    · have hticket : (step c (.hear e)).1.ticket? = none := hnone
      rw [hticket]
      exact congrArg Standing.nextToken hs
    · have hticket : (step c (.hear e)).1.ticket? = some ticket := hsome
      rw [hticket]
      exact congrArg Standing.nextToken hs
  | requestReply ticket answer =>
    obtain ⟨notices, hr⟩ := c.session.requestReply_eq ticket answer
    simp only [step, Scene.put, hr]
    rfl
  | processCompletions => exact congrArg Standing.nextToken (standing_absorbAll c.clock _ 0 _)
  | refresh => exact congrArg Standing.nextToken (c.session.refresh_frame c.clock).1
  | heartbeat now => exact congrArg Standing.nextToken (c.session.standing_heartbeat c.clock now)
  | _ => rfl

theorem nextToken_run (c : Scene σ) (commands : List (Command σ)) :
    (run c commands).2.session.nextToken =
      c.session.nextToken + ((run c commands).1.filterMap Result.ticket?).length := by
  induction commands generalizing c with
  | nil => rfl
  | cons command rest ih =>
    have hstep := nextToken_step c command
    have hrest := ih (step c command).2
    simp only [run, List.filterMap_cons]
    rw [hrest, hstep]
    cases (step c command).1.ticket? with
    | none => simp
    | some ticket =>
      simp only [Option.toList_some, List.length_cons, List.length_nil]
      omega

end Session
end Banter
