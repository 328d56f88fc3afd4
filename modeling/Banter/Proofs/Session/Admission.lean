import Banter.Proofs.Activity.Chance
import Banter.Proofs.Session.Company
import Banter.Proofs.Session.Equipment
import Banter.Proofs.Session.Guard
import Banter.Proofs.Text.Visible

/-!
Which lines are answered, told in full, and what a line leaves behind that is not. This holds after
any commands, and also in the middle of one, where the chat may repeat a line that is being said.
-/
namespace Banter

theorem Text.contains_iff {text part : List Char} :
    contains text part = true ↔ part <:+: text := by
  induction text with
  | nil =>
    unfold contains
    simp
  | cons c rest ih =>
    unfold contains
    rw [Bool.or_eq_true, List.isPrefixOf_iff_prefix, ih, List.infix_cons_iff]

theorem isSelfName_iff (sender botName : String) :
    isSelfName (some sender) botName = true ↔
      sender ≠ "" ∧ botName ≠ "" ∧ Text.lower botName.toList <:+: Text.lower sender.toList := by
  rw [← Text.contains_iff]
  simp [isSelfName, Text.given, and_assoc]

namespace Gate

theorem rested_iff {g : Gate} {now : Float} :
    g.rested now = true ↔ ∀ last ∈ g.lastResponse, g.cooldown ≤ now - last := by
  unfold rested
  cases g.lastResponse with
  | none => simp
  | some last => simp

theorem objection_eq_none_iff {g : Gate} {botName sender text lastSent : String}
    {inFlight : Bool} {now : Float} :
    g.objection botName (some sender) (some text) lastSent inFlight now = none ↔
      sender ≠ "" ∧
        (botName ≠ "" → ¬ Text.lower botName.toList <:+: Text.lower sender.toList) ∧
        Text.Visible text.toList ∧
        (lastSent ≠ "" → Text.lower text.toList ≠ Text.lower lastSent.toList) ∧
        (∀ last ∈ g.lastResponse, g.cooldown ≤ now - last) ∧ inFlight = false := by
  have hself := isSelfName_iff sender botName
  have hblank : (Text.given (some text)).all Text.isBlank = true ↔ ¬ Text.Visible text.toList := by
    rw [Text.not_visible_iff, List.all_eq_true]
    rfl
  have hnobody : (Text.given (some sender)).isEmpty = true ↔ sender = "" := by
    simp [Text.given]
  have hecho : (!lastSent.isEmpty &&
      Text.lower (Text.given (some text)) == Text.lower lastSent.toList) = true ↔
        lastSent ≠ "" ∧ Text.lower text.toList = Text.lower lastSent.toList := by
    simp [Text.given]
  have hrested : (!g.rested now) = true ↔ ¬ ∀ last ∈ g.lastResponse, g.cooldown ≤ now - last := by
    rw [← rested_iff]
    simp
  have hguard : ∀ {p : Prop} [Decidable p] {verdict : Verdict} {later : Option Verdict},
      (if p then some verdict else later) = none ↔ ¬ p ∧ later = none := by
    intro p _ verdict later
    split_ifs with hp <;> simp [hp]
  unfold objection
  simp only [hguard, Bool.or_eq_true, hnobody, hself, hblank, hecho, hrested, not_not, not_or,
    not_and, Bool.not_eq_true]
  constructor
  · rintro ⟨⟨hsender, hstranger⟩, hvisible, hnew, hpassed, hfree, -⟩
    exact ⟨hsender, hstranger hsender, hvisible, hnew, hpassed, hfree⟩
  · rintro ⟨hsender, hstranger, hvisible, hnew, hpassed, hfree⟩
    exact ⟨⟨hsender, fun _ => hstranger⟩, hvisible, hnew, hpassed, hfree, trivial⟩

theorem accepted_evaluate_iff {g : Gate} {t : Activity.Tracker Float} {d : Draws}
    {sender text : Option String} {lastSent : String} {inFlight : Bool} {now : Float}
    (hd : d.next.1.isNaN = false) :
    (g.evaluate t d sender text lastSent inFlight now).decision.accepted = true ↔
      g.objection t.botName sender text lastSent inFlight now = none ∧ d.next.1 < t.chance := by
  have hfair : ¬ t.chance ≤ d.next.1 ↔ d.next.1 < t.chance :=
    Binary64.not_le_iff (Activity.isNaN_clampChance _) hd
  obtain ⟨verdict, ho, hrefused, heq⟩ | ⟨ho, ⟨hunlucky, heq⟩ | ⟨hlucky, heq⟩⟩ :=
    g.evaluate_inv t d sender text lastSent inFlight now
  · rw [heq, ho, hrefused]
    simp
  · rw [heq, ho, ← hfair]
    simp [Decision.accepted, hunlucky]
  · rw [heq, ho, ← hfair]
    simp [Decision.accepted, hlucky]

theorem draws_evaluate (g : Gate) (t : Activity.Tracker Float) (d : Draws)
    (sender text : Option String) (lastSent : String) (inFlight : Bool) (now : Float) :
    (g.evaluate t d sender text lastSent inFlight now).draws =
      if g.objection t.botName sender text lastSent inFlight now = none then d.next.2 else d := by
  obtain ⟨verdict, ho, -, heq⟩ | ⟨ho, ⟨-, heq⟩ | ⟨-, heq⟩⟩ :=
    g.evaluate_inv t d sender text lastSent inFlight now
  · rw [heq, ho, if_neg (Option.some_ne_none verdict)]
  · rw [heq, ho, if_pos rfl]
  · rw [heq, ho, if_pos rfl]

theorem window_evaluate (g : Gate) (t : Activity.Tracker Float) (d : Draws)
    (sender text : Option String) (lastSent : String) (inFlight : Bool) (now : Float) :
    (g.evaluate t d sender text lastSent inFlight now).tracker.window = t.window := by
  obtain ⟨verdict, -, -, heq⟩ | ⟨-, ⟨-, heq⟩ | ⟨-, heq⟩⟩ :=
    g.evaluate_inv t d sender text lastSent inFlight now
  · rw [heq]
  · rw [heq]
  · rw [heq]
    exact t.window_recordInteraction sender

end Gate

namespace Session

variable {σ : Type}

/-- All that has to speak for a line, apart from chance, where the last answer was given at the time
`last`, if one was. -/
structure Admissible (s : Session σ) (last : Option Float) (now : Float) (e : ChatEvent) :
    Prop where
  started : s.started = true
  overt : e.channel = .publicChat
  sender : e.sender ≠ ""
  stranger : s.settings.botName ≠ "" →
    ¬ Text.lower s.settings.botName.toList <:+: Text.lower e.sender.toList
  visible : Text.Visible e.text.toList
  original : s.queue.lastSent ≠ "" →
    Text.lower e.text.toList ≠ Text.lower s.queue.lastSent.toList
  rested : ∀ time ∈ last, (10.0 : Float) ≤ now - time
  free : s.pending = none

def objection (s : Session σ) (now : Float) (e : ChatEvent) : Option Verdict :=
  s.gate.objection s.tracker.botName (some e.sender) (some e.text) s.queue.lastSent
    s.requestInFlight now

theorem Equipped.admissible_iff {given : Settings} {s : Session σ} (h : Equipped given s)
    (now : Float) (e : ChatEvent) :
    Admissible s s.gate.lastResponse now e ↔
      (s.started = true ∧ e.channel = .publicChat) ∧ s.objection now e = none := by
  have hname : s.tracker.botName = s.settings.botName := by rw [h.botName, h.settings]
  have hcooldown : s.gate.cooldown = 10.0 := h.cooldown
  have hfree : s.requestInFlight = false ↔ s.pending = none := by simp [requestInFlight]
  rw [objection, Gate.objection_eq_none_iff, hname, hcooldown, hfree]
  constructor
  · intro ha
    exact ⟨⟨ha.started, ha.overt⟩, ha.sender, ha.stranger, ha.visible, ha.original, ha.rested,
      ha.free⟩
  · rintro ⟨⟨hstarted, hovert⟩, hsender, hstranger, hvisible, horiginal, hrested, hfree⟩
    exact ⟨hstarted, hovert, hsender, hstranger, hvisible, horiginal, hrested, hfree⟩

theorem isSome_ticket_judged (s : Session σ) (e : ChatEvent) (a : Admission) :
    (s.judged e a).1.ticket.isSome = a.decision.accepted := by
  unfold judged
  cases a.decision.accepted <;> rfl

theorem draws_judged (s : Session σ) (e : ChatEvent) (a : Admission) :
    (s.judged e a).2.draws = a.draws := by
  unfold judged
  cases a.decision.accepted <;> rfl

theorem tracker_judged (s : Session σ) (e : ChatEvent) (a : Admission) :
    (s.judged e a).2.tracker = a.tracker := by
  unfold judged
  cases a.decision.accepted <;> rfl

section Hearing

variable {s : Session σ} {now : Float} {e : ChatEvent}

theorem hear_of_closed (h : ¬ (s.started = true ∧ e.channel = .publicChat)) :
    s.hear now e = (⟨none, none⟩, s) := by
  rw [hear_eq]
  apply if_pos
  by_contra hopen
  apply h
  simpa using hopen

theorem hear_of_open (h : s.started = true ∧ e.channel = .publicChat) :
    s.hear now e = s.judged e (s.gate.evaluate (s.tracker.recordActivity now) s.draws
      (some e.sender) (some e.text) s.queue.lastSent s.requestInFlight now) := by
  rw [hear_eq]
  apply if_neg
  simp [h.1, h.2]

theorem isSome_ticket_hear_iff (hd : s.draws.next.1.isNaN = false) :
    (s.hear now e).1.ticket.isSome = true ↔
      ((s.started = true ∧ e.channel = .publicChat) ∧ s.objection now e = none) ∧
        s.draws.next.1 < (s.tracker.recordActivity now).chance := by
  by_cases hopen : s.started = true ∧ e.channel = .publicChat
  · rw [hear_of_open hopen, isSome_ticket_judged, Gate.accepted_evaluate_iff hd,
      and_iff_right hopen]
    rfl
  · simp [hear_of_closed hopen, hopen]

theorem ticket_hear_eq_none
    (h : ¬ ((s.started = true ∧ e.channel = .publicChat) ∧ s.objection now e = none)) :
    (s.hear now e).1.ticket = none := by
  by_cases hopen : s.started = true ∧ e.channel = .publicChat
  · obtain ⟨verdict, -, hrefused, heq⟩ | ⟨ho, -⟩ :=
      s.gate.evaluate_inv (s.tracker.recordActivity now) s.draws (some e.sender) (some e.text)
        s.queue.lastSent s.requestInFlight now
    · rw [hear_of_open hopen, ← Option.not_isSome_iff_eq_none, isSome_ticket_judged, heq]
      exact Bool.eq_false_iff.mp hrefused
    · exact absurd ⟨hopen, ho⟩ h
  · rw [hear_of_closed hopen]

theorem draws_hear :
    (s.hear now e).2.draws =
      if (s.started = true ∧ e.channel = .publicChat) ∧ s.objection now e = none then
        s.draws.next.2
      else s.draws := by
  by_cases hopen : s.started = true ∧ e.channel = .publicChat
  · simp only [hear_of_open hopen, draws_judged, Gate.draws_evaluate, hopen, true_and]
    rfl
  · rw [hear_of_closed hopen, if_neg (fun h => hopen h.1)]

theorem window_hear :
    (s.hear now e).2.tracker.window =
      if s.started = true ∧ e.channel = .publicChat then
        Activity.Window.record now s.tracker.window
      else s.tracker.window := by
  by_cases hopen : s.started = true ∧ e.channel = .publicChat
  · rw [hear_of_open hopen, tracker_judged, Gate.window_evaluate, if_pos hopen]
    rfl
  · rw [hear_of_closed hopen, if_neg hopen]

/-- A line that is not answered is counted among the messages, may cost a draw and is noted. -/
theorem hear_of_unanswered (h : (s.hear now e).1.ticket = none) :
    (s.hear now e).2 =
      { s with
        tracker := { s.tracker with window := (s.hear now e).2.tracker.window }
        draws := (s.hear now e).2.draws
        journal := (s.hear now e).2.journal } := by
  by_cases hopen : s.started = true ∧ e.channel = .publicChat
  · rw [hear_of_open hopen] at h ⊢
    obtain ⟨verdict, -, hrefused, heq⟩ | ⟨-, ⟨-, heq⟩ | ⟨-, heq⟩⟩ :=
      s.gate.evaluate_inv (s.tracker.recordActivity now) s.draws (some e.sender) (some e.text)
        s.queue.lastSent s.requestInFlight now
    · rw [heq]
      unfold judged
      dsimp only
      rw [hrefused]
      rfl
    · rw [heq]
      rfl
    · rw [heq] at h
      cases h
  · rw [hear_of_closed hopen]

end Hearing

variable [Host σ]

/-- When a line was answered last, if that was not forgotten since. Before the commands it was at
the time `last`. -/
def Scene.lastAnswer (c : Scene σ) (last : Option Float) : List (Command σ) → Option Float
  | [] => last
  | command :: rest =>
    (step c command).2.lastAnswer
      (if command.forgets then none
      else if (step c command).1.ticket?.isSome then some c.clock
      else last) rest

/-- The sessions that are met while commands are carried out: after them, and in the middle of the
last. -/
inductive Met (start : Scene σ) : List (Command σ) → Session σ → Prop
  | after (commands : List (Command σ)) : Met start commands (run start commands).2.session
  | inside {before : List (Command σ)} {command : Command σ} {m : Moment σ}
      (h : m ∈ (run start before).2.moments command) : Met start (before ++ [command]) m.session

theorem lastResponse_step (c : Scene σ) (command : Command σ) :
    (step c command).2.session.gate.lastResponse =
      if command.forgets then none
      else if (step c command).1.ticket?.isSome then some c.clock
      else c.session.gate.lastResponse := by
  cases ht : (step c command).1.ticket? with
  | some ticket =>
    obtain ⟨-, -, -, hstanding⟩ := step_issuing ht
    have hkept : command.forgets = false := by
      by_contra hforgets
      rw [ticket?_of_forgets c (Bool.eq_true_of_not_eq_false hforgets)] at ht
      cases ht
    rw [hkept]
    exact congrArg (fun standing => standing.gate.lastResponse) hstanding
  | none =>
    cases hlabelled : command.labelled with
    | true =>
      rw [(step_quiet hlabelled ht).2, Option.isSome_none, if_neg Bool.false_ne_true]
      split_ifs <;> rfl
    | false =>
      cases command with
      | complete outcome token => rfl
      | _ => cases hlabelled

theorem lastResponse_run (c : Scene σ) (commands : List (Command σ)) :
    (run c commands).2.session.gate.lastResponse =
      c.lastAnswer c.session.gate.lastResponse commands := by
  induction commands generalizing c with
  | nil => rfl
  | cons command rest ih =>
    rw [Scene.lastAnswer, ← lastResponse_step]
    exact ih (step c command).2

theorem gate_of_mem_moments {c : Scene σ} {command : Command σ} {m : Moment σ}
    (h : m ∈ c.moments command) : m.session.gate = (step c command).2.session.gate := by
  cases command with
  | hear e =>
    obtain ⟨ticket, -, rfl⟩ := List.mem_map.mp h
    rfl
  | processCompletions =>
    have hinside := standing_of_mem_absorbing h
    have hend : (step c .processCompletions).2.session.standing = c.session.standing :=
      standing_absorbAll c.clock _ 0 _
    exact congrArg Standing.gate (hinside.trans hend.symm)
  | heartbeat now =>
    have hinside := standing_of_mem_ticking h
    have hend : (step c (.heartbeat now)).2.session.standing = c.session.standing :=
      c.session.standing_heartbeat c.clock now
    exact congrArg Standing.gate (hinside.trans hend.symm)
  | complete o token =>
    rw [List.mem_singleton.mp h]
    rfl
  | requestReply ticket answer =>
    rw [List.mem_singleton.mp h]
    rfl
  | enqueue lines =>
    rw [List.mem_singleton.mp h]
    rfl
  | _ => cases h

theorem Equipped.inside {given : Settings} {c : Scene σ} (h : Equipped given c.session)
    {command : Command σ} {m : Moment σ} (hm : m ∈ c.moments command) : Equipped given m.session :=
  (equipped_lasting given).inside (fun _ _ hs => hs.congr rfl rfl rfl) h hm

theorem Met.equipped {given : Settings} {start : Scene σ} {commands : List (Command σ)}
    {s : Session σ} (h : Met start commands s) (hstart : Equipped given start.session) :
    Equipped given s := by
  cases h with
  | after => exact hstart.run commands
  | inside hm => exact (hstart.run _).inside hm

theorem Met.lastResponse {start : Scene σ} {commands : List (Command σ)} {s : Session σ}
    (h : Met start commands s) :
    s.gate.lastResponse = start.lastAnswer start.session.gate.lastResponse commands := by
  cases h with
  | after => exact lastResponse_run start commands
  | inside hm =>
    rw [← lastResponse_run, run_snoc]
    exact congrArg Gate.lastResponse (gate_of_mem_moments hm)

/-- A line is answered just if it is admissible and the next draw is below the chance, where the
line itself counts already. Only admissible lines take a draw. -/
theorem answered_iff_admissible (settings : Settings) (host : σ) (draws : Draws) (clock : Float)
    {commands : List (Command σ)} {s : Session σ}
    (hs : Met ⟨clock, .fresh settings host draws⟩ commands s) (now : Float) (e : ChatEvent)
    (hd : s.draws.next.1.isNaN = false) :
    let last := Scene.lastAnswer ⟨clock, .fresh settings host draws⟩ none commands
    let heard := s.hear now e
    (heard.1.ticket.isSome = true ↔
      Admissible s last now e ∧ s.draws.next.1 < (s.tracker.recordActivity now).chance) ∧
    (heard.1.ticket = none →
      heard.2 =
        { s with
          tracker := { s.tracker with window := heard.2.tracker.window }
          draws := heard.2.draws
          journal := heard.2.journal } ∧
      heard.2.tracker.window =
        if s.started = true ∧ e.channel = .publicChat then
          Activity.Window.record now s.tracker.window
        else s.tracker.window) ∧
    (Admissible s last now e → heard.2.draws = s.draws.next.2) ∧
    (¬ Admissible s last now e → heard.2.draws = s.draws) := by
  intro last heard
  have hequipped : Equipped settings s := hs.equipped (.fresh settings host draws false)
  have hlast : s.gate.lastResponse = last := hs.lastResponse
  have hadmissible := hequipped.admissible_iff now e
  rw [hlast] at hadmissible
  refine ⟨?_, ?_, ?_, ?_⟩
  · rw [hadmissible]
    exact isSome_ticket_hear_iff hd
  · intro hnone
    exact ⟨hear_of_unanswered hnone, window_hear⟩
  · intro ha
    exact draws_hear.trans (if_pos (hadmissible.mp ha))
  · intro ha
    exact draws_hear.trans (if_neg fun hopen => ha (hadmissible.mpr hopen))

/-- Ann is answered. The next tick, ten seconds later, absorbs a line and says it. -/
def watch : List (Command Rehearsal) :=
  [.start, .hear ⟨"Ann", "Hi.", .publicChat⟩, .complete (.saying "Who goes there?") (some 1),
    .advance 10]

def onWatch : Moment Rehearsal :=
  ((run lobby watch).2.moments (.heartbeat none)).get ⟨1, by decide +kernel⟩

/-- While the line is being said, its echo is refused without a draw, and an answer to it is not. -/
theorem answered_on_watch :
    onWatch.session.queue.busy = true ∧
    (¬ Admissible onWatch.session (some 1000) 1010 ⟨"Bob", "WHO GOES THERE?", .publicChat⟩ ∧
      (onWatch.session.hear 1010 ⟨"Bob", "WHO GOES THERE?", .publicChat⟩).2.draws =
        onWatch.session.draws) ∧
    (Admissible onWatch.session (some 1000) 1010 ⟨"Bob", "A friend.", .publicChat⟩ ∧
      (onWatch.session.hear 1010 ⟨"Bob", "A friend.", .publicChat⟩).2.draws =
        onWatch.session.draws.next.2) := by
  have hmet : Met lobby (watch ++ [.heartbeat none]) onWatch.session :=
    .inside (List.get_mem _ _)
  have hlast : lobby.lastAnswer none (watch ++ [.heartbeat none]) = some 1000 := by decide +kernel
  have hnumber : onWatch.session.draws.next.1.isNaN = false := by decide +kernel
  have hany := answered_iff_admissible .nearby (Rehearsal.fresh [] []) (.ofScript [0, 0, 0]) 1000
    hmet 1010
  have hscene : ⟨1000, .fresh .nearby (Rehearsal.fresh [] []) (.ofScript [0, 0, 0])⟩ = lobby := rfl
  rw [hscene, hlast] at hany
  refine ⟨by decide +kernel, ?_, ?_⟩
  · obtain ⟨-, -, -, hkept⟩ := hany ⟨"Bob", "WHO GOES THERE?", .publicChat⟩ hnumber
    have hecho : ¬ Admissible onWatch.session (some 1000) 1010
        ⟨"Bob", "WHO GOES THERE?", .publicChat⟩ :=
      fun h => h.original (by decide +kernel) (by decide +kernel)
    exact ⟨hecho, hkept hecho⟩
  · obtain ⟨hexact, -, hdrawn, -⟩ := hany ⟨"Bob", "A friend.", .publicChat⟩ hnumber
    have hadmissible := (hexact.mp (by decide +kernel)).1
    exact ⟨hadmissible, hdrawn hadmissible⟩

end Session
end Banter
