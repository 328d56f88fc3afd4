import Banter.Program
import Banter.Proofs.Console.Printing
import Banter.Proofs.Session.Conservation
import Mathlib.Data.List.Basic

/-! The program falls silent before it ends: every request has come back, and all is said. -/
namespace Banter

namespace Session

def Event.replied : Event → List String
  | absorbed _ lines => lines
  | _ => []

/-- The lines that came of outcomes, batch after batch. -/
def repliedIn (past : List Event) : List String := past.flatMap Event.replied

end Session

namespace Program

open Session (issuedIn returnedIn absorbedIn saidIn queuedIn repliedIn)

/-- What happens when a ticket is issued: its request goes out, or fails at once. -/
def departing (settings : Settings) (t : Ticket) : List Session.Event :=
  .issued t ::
    match Wire.obstacle? settings with
    | none => []
    | some flaw => [.returned (Wire.broken t.request (.badHost flaw)).1 (some t.token)]

def State.hearing (s : State) (time : Float) (raw : String) : List Session.Event :=
  match s.session.host.read time raw with
  | (none, _) => []
  | (some event, console) =>
    match ({ s.session with host := console }.hear time event).1.ticket with
    | none => []
    | some t => departing s.session.settings t

/-- What happens to the session in a step of the program. -/
def State.happenings (s : State) : List Session.Event :=
  match s.nextEvent with
  | (_, .tick) => (s.session.ticking s.beat none).map Session.Moment.event
  | (_, .arrival f _) =>
    [.returned (Wire.settled f.ticket.request f.answer).1 (some f.ticket.token)]
  | (time, .line raw _ _) => s.hearing time raw
  | _ => []

/-- All that happens while the program is played, until it ends. -/
def chronicle : Nat → State → List Session.Event
  | 0, _ => []
  | steps + 1, s =>
    s.happenings ++
      match s.step with
      | .inl next => chronicle steps next
      | .inr _ => []

theorem nextFlight_perm {flights others : List Flight} {f : Flight}
    (h : nextFlight flights = some (f, others)) : flights.Perm (f :: others) := by
  induction flights generalizing f others with
  | nil => cases h
  | cons g rest ih =>
    unfold nextFlight at h
    split at h
    · cases h
      rfl
    · next _ later hn =>
      split_ifs at h with hdue
      · cases h
        exact ((ih hn).cons g).trans (.swap f g later)
      · cases h
        rfl

theorem earlier_cases (a b : Option (Float × Event)) : earlier a b = a ∨ earlier a b = b := by
  unfold earlier
  split
  · exact .inr rfl
  · exact .inl rfl
  · split_ifs
    · exact .inr rfl
    · exact .inl rfl

/-- What comes next is a tick, the answer due first, or what the phase waits for. -/
theorem State.nextEvent_cases (s : State) :
    (∃ time, s.nextEvent = (time, .tick)) ∨
      (∃ f others, s.nextEvent = (f.due, .arrival f others) ∧
        nextFlight s.flights = some (f, others)) ∨
      s.phase.event = some s.nextEvent := by
  unfold nextEvent
  dsimp only
  split
  · exact .inl ⟨_, rfl⟩
  · next time e hnext =>
    split_ifs
    · exact .inl ⟨_, rfl⟩
    obtain h | h := (earlier_cases _ _).imp hnext.symm.trans hnext.symm.trans
    · obtain ⟨⟨f, others⟩, hf, he⟩ := Option.map_eq_some_iff.mp h.symm
      exact .inr (.inl ⟨f, others, he.symm, hf⟩)
    · exact .inr (.inr h.symm)

theorem State.arrival_of_nextEvent {s : State} {time : Float} {f : Flight} {others : List Flight}
    (h : s.nextEvent = (time, .arrival f others)) : nextFlight s.flights = some (f, others) := by
  obtain ⟨_, ht⟩ | ⟨g, rest, hg, hf⟩ | hp := s.nextEvent_cases
  · rw [h] at ht
    cases ht
  · rw [h] at hg
    cases hg
    exact hf
  · rw [h] at hp
    unfold Phase.event at hp
    split at hp
    · cases hp
    · split_ifs at hp <;> cases hp
    · cases hp
    · cases hp

theorem State.looking_of_nextEvent {s : State} {time : Float} (h : s.nextEvent = (time, .look)) :
    s.phase = .looking time := by
  obtain ⟨_, ht⟩ | ⟨g, rest, hg, -⟩ | hp := s.nextEvent_cases
  · rw [h] at ht
    cases ht
  · rw [h] at hg
    cases hg
  · rw [h] at hp
    unfold Phase.event at hp
    split at hp
    · cases hp
    · split_ifs at hp <;> cases hp
    · cases hp
    · next hlooking =>
      cases hp
      exact hlooking

/-- While the program plays on from `first`, each ticket issued is either answered, and its outcome
handed back, or its answer is on its way. -/
structure Underway (first : Session Console) (past : List Session.Event) (s : State) : Prop where
  settings : s.session.settings = first.settings
  conserved : Session.Conserved past s.session
  printed : (Console.printing first.settings.botName).Told [] past s.session
  replied : queuedIn past = repliedIn past
  answered : ∃ ends : List (Ticket × Wire.Answer),
    returnedIn past = ends.map (fun e => e.1.ending first.settings e.2) ∧
      (issuedIn past).Perm (ends.map Prod.fst ++ s.flights.map Flight.ticket)
  reachable : s.flights ≠ [] → Wire.obstacle? first.settings = none
  looking : ∀ time, s.phase = .looking time → s.flights = []

theorem State.tick_session (s : State) :
    ∃ notices, s.tick.session = (s.session.heartbeat s.beat none).2.note notices := by
  unfold tick
  obtain ⟨result, t⟩ := s.session.heartbeat s.beat none
  cases result with
  | error b => exact ⟨[.beatFailed b.message], rfl⟩
  | ok line => exact ⟨[], by simp [Session.note]⟩

theorem State.send_cases (s : State) (time : Float) (t : Ticket) :
    (s.send time t).phase = s.phase ∧
      ((Wire.obstacle? s.session.settings = none ∧
          (s.send time t).session = s.session.note (Wire.departure t.request) ∧
          ∃ due answer, (s.send time t).flights = s.flights ++ [⟨due, t, answer⟩]) ∨
        ∃ flaw notices, Wire.obstacle? s.session.settings = some flaw ∧
          (s.send time t).session = (s.session.note notices).complete
            (Wire.broken t.request (.badHost flaw)).1 (some t.token) ∧
          (s.send time t).flights = s.flights) := by
  cases hw : Wire.obstacle? s.session.settings with
  | none =>
    have hr : s.session.reachable = true := by rw [Session.reachable, hw, Option.isNone_none]
    simp only [send, Session.send, Session.note, hr, hw, if_true]
    exact ⟨trivial, .inl ⟨trivial, trivial, _, _, rfl⟩⟩
  | some flaw =>
    have hr : s.session.reachable = false := by rw [Session.reachable, hw, Option.isNone_some]
    simp only [send, Session.send, Session.note, Session.conclude, hr, hw]
    exact ⟨rfl, .inr ⟨flaw, Wire.departure t.request ++ (Wire.broken t.request (.badHost flaw)).2,
      rfl, by simp, rfl⟩⟩

theorem repliedIn_append (xs ys : List Session.Event) :
    repliedIn (xs ++ ys) = repliedIn xs ++ repliedIn ys :=
  List.flatMap_append

theorem issuedIn_append (xs ys : List Session.Event) :
    issuedIn (xs ++ ys) = issuedIn xs ++ issuedIn ys :=
  List.filterMap_append

theorem returnedIn_append (xs ys : List Session.Event) :
    returnedIn (xs ++ ys) = returnedIn xs ++ returnedIn ys :=
  List.filterMap_append

theorem queuedIn_append (xs ys : List Session.Event) :
    queuedIn (xs ++ ys) = queuedIn xs ++ queuedIn ys :=
  List.flatMap_append

namespace Underway

variable {first : Session Console} {past : List Session.Event} {s : State}

theorem tick (h : Underway first past s) :
    Underway first (past ++ (s.session.ticking s.beat none).map Session.Moment.event) s.tick := by
  obtain ⟨notices, hs⟩ := s.tick_session
  have hstanding := congrArg Session.Standing.settings (s.session.standing_heartbeat s.beat none)
  have hticking : ∀ e ∈ (s.session.ticking s.beat none).map Session.Moment.event,
      e.issued? = none ∧ e.returned? = none ∧ e.batch = e.replied := by
    intro e he
    obtain ⟨o, lines, rfl⟩ | ⟨line, rfl⟩ := Session.mem_ticking he <;> exact ⟨rfl, rfl, rfl⟩
  have hissued : issuedIn ((s.session.ticking s.beat none).map Session.Moment.event) = [] :=
    List.filterMap_eq_nil_iff.mpr fun e he => (hticking e he).1
  have hreturned : returnedIn ((s.session.ticking s.beat none).map Session.Moment.event) = [] :=
    List.filterMap_eq_nil_iff.mpr fun e he => (hticking e he).2.1
  have hreplied : queuedIn ((s.session.ticking s.beat none).map Session.Moment.event) =
      repliedIn ((s.session.ticking s.beat none).map Session.Moment.event) :=
    List.flatMap_congr fun e he => (hticking e he).2.2
  have hconserved :=
    ((Session.conserved_lasting.heartbeat s.session s.beat none).holds h.conserved).1
  have hprinted :=
    ((((Console.printing _).told_lasting []).heartbeat s.session s.beat none).holds h.printed).1
  constructor
  case settings => rw [hs]; exact hstanding.trans h.settings
  case conserved => rw [hs]; exact hconserved.congr rfl rfl
  case printed => rw [hs]; exact hprinted.congr hprinted.keeps rfl
  case replied => rw [queuedIn_append, repliedIn_append, h.replied, hreplied]
  case answered =>
    rw [returnedIn_append, issuedIn_append, hreturned, hissued, List.append_nil, List.append_nil]
    exact h.answered
  case reachable => exact h.reachable
  case looking => exact h.looking

theorem turn (h : Underway first past s) {phase : Phase}
    (hp : ∀ time, phase = .looking time → s.flights = []) :
    Underway first past { s with phase := phase } :=
  ⟨h.settings, h.conserved, h.printed, h.replied, h.answered, h.reachable, hp⟩

theorem settle (h : Underway first past s) (time : Float) :
    Underway first past (s.settle time) := by
  refine h.turn ?_
  intro next hp
  split_ifs at hp with hempty
  exact List.isEmpty_iff.mp hempty

theorem arrive (h : Underway first past s) {f : Flight} {others : List Flight}
    (hf : nextFlight s.flights = some (f, others)) :
    Underway first
      (past ++ [.returned (Wire.settled f.ticket.request f.answer).1 (some f.ticket.token)])
      (s.arrive f others) := by
  have hperm := nextFlight_perm hf
  have hflying : s.flights ≠ [] := by
    intro hnone
    rw [hnone] at hf
    cases hf
  have hreach := h.reachable hflying
  have harrived : Underway first
      (past ++ [.returned (Wire.settled f.ticket.request f.answer).1 (some f.ticket.token)])
      { s with session := s.session.receive f.ticket f.answer, flights := others } := by
    constructor
    case settings => exact h.settings
    case conserved => exact h.conserved.snoc ⟨rfl, rfl⟩
    case printed => exact h.printed.silent rfl rfl
    case replied => rw [queuedIn_append, repliedIn_append, h.replied]; rfl
    case answered =>
      obtain ⟨ends, hreturned, hissued⟩ := h.answered
      refine ⟨ends ++ [(f.ticket, f.answer)], ?_, ?_⟩
      · rw [returnedIn_append, hreturned, List.map_append]
        simp [returnedIn, Session.Event.returned?, Ticket.ending, hreach]
      · have hall := hissued.trans ((hperm.map Flight.ticket).append_left _)
        have hnone : issuedIn [.returned (Wire.settled f.ticket.request f.answer).1
            (some f.ticket.token)] = [] := rfl
        rw [issuedIn_append, hnone, List.append_nil]
        simpa using hall
    case reachable => exact fun _ => hreach
    case looking =>
      intro time hp
      exact absurd (h.looking time hp) hflying
  unfold State.arrive
  dsimp only
  split
  · exact harrived.settle f.due
  · exact harrived

theorem depart (h : Underway first past s) (hl : ∀ time, s.phase ≠ .looking time) {next : State}
    {t : Ticket} {notices : List Notice} {due : Float} {answer : Wire.Answer}
    (hopen : Wire.obstacle? s.session.settings = none) (hphase : next.phase = s.phase)
    (hsession : next.session = s.session.note notices)
    (hflights : next.flights = s.flights ++ [⟨due, t, answer⟩]) :
    Underway first (past ++ [.issued t]) next := by
  constructor
  case settings => rw [hsession]; exact h.settings
  case conserved => rw [hsession]; exact h.conserved.snoc ⟨rfl, rfl⟩
  case printed => rw [hsession]; exact h.printed.silent rfl rfl
  case replied => rw [queuedIn_append, repliedIn_append, h.replied]; rfl
  case answered =>
    obtain ⟨ends, hreturned, hissued⟩ := h.answered
    refine ⟨ends, ?_, ?_⟩
    · rw [returnedIn_append, hreturned]
      exact List.append_nil _
    · have hone : issuedIn [.issued t] = [t] := rfl
      rw [issuedIn_append, hone, hflights, List.map_append, ← List.append_assoc]
      exact hissued.append_right [t]
  case reachable =>
    intro _
    rw [← h.settings]
    exact hopen
  case looking =>
    intro time hp
    exact absurd (hphase ▸ hp) (hl time)

theorem turnBack (h : Underway first past s) (hl : ∀ time, s.phase ≠ .looking time) {next : State}
    {t : Ticket} {notices : List Notice} {flaw : Wire.HostFlaw}
    (hshut : Wire.obstacle? s.session.settings = some flaw) (hphase : next.phase = s.phase)
    (hsession : next.session = (s.session.note notices).complete
      (Wire.broken t.request (.badHost flaw)).1 (some t.token))
    (hflights : next.flights = s.flights) :
    Underway first
      (past ++ [.issued t, .returned (Wire.broken t.request (.badHost flaw)).1 (some t.token)])
      next := by
  constructor
  case settings => rw [hsession]; exact h.settings
  case conserved =>
    rw [hsession, ← List.singleton_append, ← List.append_assoc]
    have hissued : Session.Conserved (past ++ [.issued t]) (s.session.note notices) :=
      h.conserved.snoc ⟨rfl, rfl⟩
    exact hissued.snoc ⟨rfl, rfl⟩
  case printed =>
    rw [hsession, ← List.singleton_append, ← List.append_assoc]
    have hissued : (Console.printing first.settings.botName).Told [] (past ++ [.issued t])
        (s.session.note notices) := h.printed.silent rfl rfl
    exact hissued.silent rfl rfl
  case replied => rw [queuedIn_append, repliedIn_append, h.replied]; rfl
  case answered =>
    obtain ⟨ends, hreturned, hissued⟩ := h.answered
    -- A request that did not go out ends as if nobody had been there to answer.
    refine ⟨ends ++ [(t, .nobody)], ?_, ?_⟩
    · have hback : returnedIn [.issued t, .returned (Wire.broken t.request (.badHost flaw)).1
          (some t.token)] = [(Wire.broken t.request (.badHost flaw)).1] := rfl
      rw [returnedIn_append, hreturned, hback, List.map_append]
      simp [Ticket.ending, ← h.settings, hshut]
    · have hone : issuedIn [.issued t, .returned (Wire.broken t.request (.badHost flaw)).1
          (some t.token)] = [t] := rfl
      have hmore := hissued.append_right [t]
      rw [issuedIn_append, hone, hflights, List.map_append, List.append_assoc]
      rw [List.append_assoc] at hmore
      exact hmore.trans (List.perm_append_comm.append_left _)
  case reachable => rw [hflights]; exact h.reachable
  case looking =>
    intro time hp
    exact absurd (hphase ▸ hp) (hl time)

theorem issue (h : Underway first past s) (hl : ∀ time, s.phase ≠ .looking time) (time : Float)
    (t : Ticket) :
    Underway first (past ++ departing s.session.settings t) (s.send time t) := by
  obtain ⟨hphase, ⟨hopen, hsession, due, answer, hflights⟩ |
    ⟨flaw, notices, hshut, hsession, hflights⟩⟩ := s.send_cases time t
  · rw [departing, hopen]
    exact h.depart hl hopen hphase hsession hflights
  · rw [departing, hshut]
    exact h.turnBack hl hshut hphase hsession hflights

theorem hear (h : Underway first past s) (hl : ∀ time, s.phase ≠ .looking time) (time : Float)
    (raw : String) :
    Underway first (past ++ s.hearing time raw) (s.hear time raw) := by
  unfold State.hearing State.hear
  cases hread : s.session.host.read time raw with
  | mk event console =>
    cases event with
    | none =>
      rw [List.append_nil]
      exact h
    | some event =>
      have hconsole := s.session.host.read_frame time raw
      rw [hread] at hconsole
      obtain ⟨hhandoff, hqueue, hhost, hsettings, -⟩ :=
        ({ s.session with host := console } : Session Console).hear_frame time event
      dsimp only
      generalize ({ s.session with host := console } : Session Console).hear time event = r
        at hhandoff hqueue hhost hsettings ⊢
      obtain ⟨⟨decision, ticket⟩, t⟩ := r
      have hname : t.host.botName = first.settings.botName := by
        rw [hhost]
        exact hconsole.1.trans h.printed.keeps
      have hprinted : (Console.printing first.settings.botName).Told [] past t :=
        h.printed.congr hname ((congrArg Console.texts hhost).trans hconsole.2)
      have hheard : Underway first past { s with session := t } :=
        ⟨hsettings.trans h.settings,
          h.conserved.congr hhandoff (congrArg Delivery.Queue.lines hqueue), hprinted, h.replied,
          h.answered, h.reachable, h.looking⟩
      cases ticket with
      | none =>
        rw [List.append_nil]
        exact hheard
      | some ticket =>
        have hissue := hheard.issue hl time ticket
        rw [show s.session.settings = t.settings from hsettings.symm]
        exact hissue

theorem step {next : State} (h : Underway first past s) (hs : s.step = .inl next) :
    Underway first (past ++ s.happenings) next := by
  unfold State.step at hs
  unfold State.happenings
  cases he : s.nextEvent with
  | mk time e =>
    rw [he] at hs
    cases e with
    | tick =>
      obtain rfl : s.tick = next := Sum.inl.inj hs
      exact h.tick
    | arrival f others =>
      obtain rfl : s.arrive f others = next := Sum.inl.inj hs
      exact h.arrive (State.arrival_of_nextEvent he)
    | line raw rest eof =>
      obtain rfl : State.hear { s with phase := .listening rest eof } time raw = next :=
        Sum.inl.inj hs
      have hturned : Underway first past { s with phase := .listening rest eof } :=
        h.turn fun _ hp => by cases hp
      exact hturned.hear (fun _ hp => by cases hp) time raw
    | endOfInput =>
      obtain rfl : s.settle time = next := Sum.inl.inj hs
      rw [List.append_nil]
      exact h.settle time
    | look =>
      dsimp only at hs
      split_ifs at hs
      obtain rfl := Sum.inl.inj hs
      rw [List.append_nil]
      exact h.turn fun _ _ => h.looking time (State.looking_of_nextEvent he)

/-- The step that ends the program finds nothing on its way and nothing left. -/
theorem ending {time : Float} {last : State} (h : Underway first past s)
    (hs : s.step = .inr (time, last)) :
    s.happenings = [] ∧ s.flights = [] ∧ s.session.idle = true ∧
      last = { s with session := s.session.stop } := by
  unfold State.step at hs
  unfold State.happenings
  cases he : s.nextEvent with
  | mk now e =>
    rw [he] at hs
    cases e with
    | look =>
      dsimp only at hs
      split_ifs at hs with hidle
      cases hs
      exact ⟨rfl, h.looking _ (State.looking_of_nextEvent he), hidle, rfl⟩
    | _ => cases hs

theorem play {steps : Nat} {time : Float} {last : State} (h : Underway first past s)
    (hp : play steps s = some (time, last)) :
    ∃ t : State, Underway first (past ++ chronicle steps s) t ∧ t.flights = [] ∧
      t.session.idle = true ∧ last = { t with session := t.session.stop } := by
  induction steps generalizing past s with
  | zero => cases hp
  | succ steps ih =>
    unfold Program.play at hp
    unfold chronicle
    cases hs : s.step with
    | inl next =>
      rw [hs] at hp
      rw [← List.append_assoc]
      exact ih (h.step hs) hp
    | inr ended =>
      rw [hs] at hp
      obtain rfl : ended = (time, last) := Option.some.inj hp
      obtain ⟨hnone, hflights, hidle, hlast⟩ := h.ending hs
      rw [hnone, List.append_nil, List.append_nil]
      exact ⟨s, h, hflights, hidle, hlast⟩

end Underway

theorem underway_opening (settings : Settings) (script : Script) :
    Underway (opening settings script).session [] (opening settings script) :=
  ⟨rfl, ⟨rfl, rfl⟩, ⟨rfl, rfl⟩, rfl, ⟨[], rfl, .refl _⟩, fun h => absurd rfl h,
    fun _ hp => by cases hp⟩

/-- When the program ends, the request of each ticket has come to its end, and each line that came
of an outcome was said once, in order, before the session stopped. -/
theorem spoken_before_stop (settings : Settings) (script : Script) (steps : Nat) (time : Float)
    (last : State) (h : play steps (opening settings script) = some (time, last)) :
    let past := chronicle steps (opening settings script)
    (∃ s : State, last = { s with session := s.session.stop } ∧ s.flights = [] ∧
      s.session.idle = true ∧ Session.Conserved past s.session) ∧
    (∃ ends : List (Ticket × Wire.Answer), (issuedIn past).Perm (ends.map Prod.fst) ∧
      absorbedIn past = ends.map fun e => e.1.ending settings e.2) ∧
    saidIn past = repliedIn past ∧
    last.session.host.texts = past.flatMap (Console.printing settings.botName).told := by
  obtain ⟨s, hs, hflights, hidle, rfl⟩ := (underway_opening settings script).play h
  have hdone : s.session.handoff = [] ∧ s.session.queue.lines = [] := by
    simp only [Session.idle, Bool.and_eq_true, List.isEmpty_iff] at hidle
    exact ⟨hidle.1.1.2, hidle.1.2⟩
  obtain ⟨ends, hreturned, hissued⟩ := hs.answered
  have hconserved := hs.conserved
  have houtcomes := hconserved.outcomes
  have hlines := hconserved.lines
  rw [hdone.1, List.append_nil] at houtcomes
  rw [hdone.2, List.append_nil] at hlines
  rw [hflights, List.map_nil, List.append_nil] at hissued
  refine ⟨⟨s, rfl, hflights, hidle, hconserved⟩, ⟨ends, hissued, ?_⟩, ?_, ?_⟩
  · exact houtcomes.symm.trans hreturned
  · exact hlines.trans hs.replied
  · exact hs.printed.record

def lineBody (line : String) : List Nat :=
  ("[\x7b\"text\":\"" ++ line ++ "\"\x7d]").toList.map Char.toNat

/-- The input ends while the second answer is still on its way. -/
def goodbye : Script where
  draws := .ofScript [0, 0]
  input := [(0, "Ann: hi"), (11, "Ann: bye")]
  eof := 12
  answers := [(1, .response 200 none (lineBody "Hello.")), (3, .response 200 none (lineBody "Bye."))]

theorem opening_goodbye : opening .nearby goodbye =
    { opening .nearby { goodbye with input := [] } with
      phase := .listening goodbye.input goodbye.eof } := by
  have hsorted : goodbye.input.mergeSort (fun a b => a.1 ≤ b.1) = goodbye.input :=
    List.mergeSort_of_pairwise (by decide +kernel)
  simp only [opening, hsorted]

theorem spoken_at_goodbye : ∃ time last, play 50 (opening .nearby goodbye) = some (time, last) ∧
    (absorbedIn (chronicle 50 (opening .nearby goodbye))).length = 2 ∧
    saidIn (chronicle 50 (opening .nearby goodbye)) = ["Hello.", "Bye."] := by
  have hends : (play 50 (opening .nearby goodbye)).isSome = true := by
    rw [opening_goodbye]
    decide +kernel
  have hissued : (issuedIn (chronicle 50 (opening .nearby goodbye))).length = 2 := by
    rw [opening_goodbye]
    decide +kernel
  have hreplied : repliedIn (chronicle 50 (opening .nearby goodbye)) = ["Hello.", "Bye."] := by
    rw [opening_goodbye]
    decide +kernel
  obtain ⟨⟨time, last⟩, hplayed⟩ := Option.isSome_iff_exists.mp hends
  obtain ⟨-, ⟨ends, hperm, habsorbed⟩, hsaid, -⟩ :=
    spoken_before_stop .nearby goodbye 50 time last hplayed
  refine ⟨time, last, hplayed, ?_, hsaid.trans hreplied⟩
  have hcount : (issuedIn (chronicle 50 (opening .nearby goodbye))).length = ends.length :=
    hperm.length_eq.trans (List.length_map _)
  rw [habsorbed, List.length_map, ← hcount, hissued]

end Program
end Banter
