import Banter.Proofs.Activity.Ledger
import Banter.Proofs.Session.Guard
import Banter.Proofs.Session.Pairing
import Mathlib.Data.Finset.Card

/-!
The social context of a request: whom it lists with how many answers, and how many are present, is
told by the tickets issued and the rosters delivered since the session last forgot.
-/
namespace Banter

namespace Activity

/-- The names of a roster that are kept track of, each once. -/
def present (botName : String) (roster : List (Option String)) : Finset String :=
  ((roster.filterMap id).filter fun name =>
    name ≠ "" ∧ isSelfName (some name) botName = false).toFinset

theorem mem_rosterOf {names : List String} {name : String} :
    name ∈ rosterOf names ↔ name ∈ names := by
  rw [rosterOf, List.mem_mergeSort, List.mem_eraseDups]

theorem nodup_rosterOf (names : List String) : (rosterOf names).Nodup :=
  (List.mergeSort_perm _ _).nodup_iff.mpr (nodup_eraseDups names)

theorem toFinset_updateRoster {τ : Type} (t : Tracker τ) (names : List (Option String)) :
    (t.updateRoster names).roster.toFinset = present t.botName names := by
  ext name
  simp only [Tracker.updateRoster, present, List.mem_toFinset, mem_rosterOf, List.mem_filterMap,
    List.mem_filter, id, decide_eq_true_eq, ← t.counts_some]
  constructor
  · rintro ⟨entry, ⟨hentry, hcounts⟩, rfl⟩
    exact ⟨⟨_, hentry, rfl⟩, hcounts⟩
  · rintro ⟨⟨entry, hentry, rfl⟩, hcounts⟩
    exact ⟨_, ⟨hentry, hcounts⟩, rfl⟩

theorem length_updateRoster {τ : Type} (t : Tracker τ) (names : List (Option String)) :
    (t.updateRoster names).roster.length = (present t.botName names).card := by
  have hnodup : (t.updateRoster names).roster.Nodup := nodup_rosterOf _
  rw [← toFinset_updateRoster, List.toFinset_card_of_nodup hnodup]

end Activity

/-- An accepted message counts for its sender, whose name is kept track of. No other changes what a
tracker knows. -/
theorem Gate.tracker_evaluate_cases (g : Gate) (t : Activity.Tracker Float) (d : Draws)
    (sender : String) (text : Option String) (lastSent : String) (inFlight : Bool) (now : Float) :
    ((g.evaluate t d (some sender) text lastSent inFlight now).decision.accepted = false ∧
        (g.evaluate t d (some sender) text lastSent inFlight now).tracker = t) ∨
      ((g.evaluate t d (some sender) text lastSent inFlight now).decision.accepted = true ∧
        t.counts (some sender) = true ∧
        (g.evaluate t d (some sender) text lastSent inFlight now).tracker =
          t.recordInteraction (some sender)) := by
  obtain ⟨verdict, -, hrefused, heq⟩ | ⟨ho, ⟨-, heq⟩ | ⟨-, heq⟩⟩ :=
    g.evaluate_inv t d (some sender) text lastSent inFlight now
  · rw [heq]
    exact .inl ⟨hrefused, rfl⟩
  · rw [heq]
    exact .inl ⟨rfl, rfl⟩
  · have hcounts : t.counts (some sender) = true := by
      unfold objection at ho
      split_ifs at ho with hself
      simpa [Activity.Tracker.counts] using hself
    rw [heq]
    exact .inr ⟨rfl, hcounts, rfl⟩

namespace Session

variable {σ : Type}

/-- A line that issues a ticket first counts for its sender, and the request is built from what is
known then. Without a ticket, nobody is counted. -/
theorem hear_company (s : Session σ) (clock : Float) (e : ChatEvent) :
    ((s.hear clock e).1.ticket = none ∧
        ∃ window, (s.hear clock e).2.tracker = { s.tracker with window := window }) ∨
      ∃ ticket, (s.hear clock e).1.ticket = some ticket ∧
        (s.tracker.recordActivity clock).counts (some e.sender) = true ∧
        (s.hear clock e).2.tracker =
          (s.tracker.recordActivity clock).recordInteraction (some e.sender) ∧
        ticket.request = .build e.sender e.text (s.hear clock e).2.tracker.snapshot := by
  rw [hear_eq]
  split_ifs with hclosed
  · exact .inl ⟨rfl, s.tracker.window, rfl⟩
  unfold judged
  dsimp only
  obtain ⟨hno, hsame⟩ | ⟨hyes, hcounts, hrecorded⟩ :=
    s.gate.tracker_evaluate_cases (s.tracker.recordActivity clock) s.draws e.sender
      (some e.text) s.queue.lastSent s.requestInFlight clock
  · left
    rw [hno]
    exact ⟨rfl, _, hsame⟩
  · right
    rw [hyes]
    exact ⟨_, rfl, hcounts, hrecorded, rfl⟩

variable [Host σ]

theorem tracker_heartbeat (s : Session σ) (clock : Float) (now : Option Float) :
    (s.heartbeat clock now).2.tracker =
      if s.started then (s.refresh clock).tracker else s.tracker := by
  cases hs : s.started with
  | false =>
    rw [heartbeat_of_resting hs]
    rfl
  | true =>
    rw [heartbeat_eq_beat hs, tracker_beat]
    rfl

/-- Who was answered and who is present, as the commands since a session last forgot tell it. -/
structure Company where
  /-- The tickets issued: to whom, and whether the ledger did not have the name just before. -/
  visits : List Activity.Visit
  roster : List (Option String)

def Scene.visit? (c : Scene σ) (command : Command σ) : Option Activity.Visit :=
  (step c command).1.ticket?.map fun ticket =>
    ⟨ticket.request.userName, ticket.request.userName ∉ c.session.tracker.ledger.names⟩

/-- The roster that the host delivers, if it is asked and can tell. -/
def Scene.delivered? (c : Scene σ) : Command σ → Option (List (Option String))
  | .refresh => (Host.participants c.clock c.session.host).2
  | .heartbeat _ => if c.session.started then (Host.participants c.clock c.session.host).2 else none
  | _ => none

def Scene.meet (c : Scene σ) (company : Company) (command : Command σ) : Company :=
  if command.forgets then ⟨[], []⟩
  else ⟨company.visits ++ (c.visit? command).toList,
    (c.delivered? command).getD company.roster⟩

def Scene.company (c : Scene σ) (known : Company) : List (Command σ) → Company
  | [] => known
  | command :: rest => (step c command).2.company (c.meet known command) rest

theorem Scene.meet_of_unissued (c : Scene σ) (company : Company) {command : Command σ}
    (hf : command.forgets = false) (ht : (step c command).1.ticket? = none) :
    c.meet company command =
      ⟨company.visits, (c.delivered? command).getD company.roster⟩ := by
  simp [meet, visit?, hf, ht]

/-- A tracker knows the company: it has all visits in its ledger, and counts those present. -/
structure Company.Known (botName : String) (company : Company) (t : Activity.Tracker Float) :
    Prop where
  recalls : t.Recalls botName company.visits
  present : t.roster.length = (Activity.present botName company.roster).card

namespace Company.Known

variable {botName : String} {company : Company} {t u : Activity.Tracker Float}

theorem congr (h : Known botName company t) (hn : u.botName = t.botName)
    (hl : u.ledger = t.ledger) (hr : u.roster = t.roster) : Known botName company u :=
  ⟨h.recalls.congr hn hl, hr ▸ h.present⟩

theorem of_reset (h : Known botName company t) : Known botName ⟨[], []⟩ t.reset :=
  ⟨Activity.Tracker.recalls_nothing h.recalls.own rfl, rfl⟩

theorem answered (h : Known botName company t) {name : String}
    (hcounts : t.counts (some name) = true) :
    Known botName ⟨company.visits ++ [⟨name, name ∉ t.ledger.names⟩], company.roster⟩
      (t.recordInteraction (some name)) := by
  have hrecalls := h.recalls.interaction name
  rw [Activity.Tracker.visit?, if_pos hcounts] at hrecalls
  refine ⟨hrecalls, ?_⟩
  rw [Activity.Tracker.recordInteraction]
  dsimp only
  rw [if_pos hcounts]
  exact h.present

theorem delivered (h : Known botName company t) (names : List (Option String)) :
    Known botName ⟨company.visits, names⟩ (t.updateRoster names) :=
  ⟨h.recalls.congr rfl rfl, h.recalls.own ▸ Activity.length_updateRoster t names⟩

theorem refresh {s : Session σ} (h : Known botName company s.tracker) (clock : Float) :
    Known botName ⟨company.visits, (Host.participants clock s.host).2.getD company.roster⟩
      (s.refresh clock).tracker := by
  unfold Session.refresh
  obtain ⟨host, names⟩ := Host.participants clock s.host
  cases names with
  | none => exact h
  | some names => exact h.delivered names

theorem step {c : Scene σ} (h : Known botName company c.session.tracker) (command : Command σ) :
    Known botName (c.meet company command) (Session.step c command).2.session.tracker := by
  cases command with
  | start | stop | reset => exact h.of_reset
  | hear e =>
    obtain ⟨hnone, window, htracker⟩ | ⟨ticket, hissued, hcounts, htracker, hrequest⟩ :=
      c.session.hear_company c.clock e
    · have hunissued : (Session.step c (.hear e)).1.ticket? = none := hnone
      rw [c.meet_of_unissued company rfl hunissued]
      change Known botName company (c.session.hear c.clock e).2.tracker
      rw [htracker]
      exact h.congr rfl rfl rfl
    · have hmet : c.meet company (.hear e) =
          ⟨company.visits ++ [⟨e.sender, e.sender ∉ c.session.tracker.ledger.names⟩],
            company.roster⟩ := by
        have hticket : (Session.step c (.hear e)).1.ticket? = some ticket := hissued
        rw [Scene.meet, Scene.visit?, hticket, Option.map_some, hrequest]
        rfl
      rw [hmet]
      change Known botName _ (c.session.hear c.clock e).2.tracker
      rw [htracker]
      have hactive : Known botName company (c.session.tracker.recordActivity c.clock) :=
        h.congr rfl rfl rfl
      exact hactive.answered hcounts
  | refresh =>
    rw [c.meet_of_unissued company rfl rfl]
    exact h.refresh c.clock
  | heartbeat now =>
    rw [c.meet_of_unissued company rfl rfl]
    change Known botName _ (c.session.heartbeat c.clock now).2.tracker
    rw [tracker_heartbeat, Scene.delivered?]
    split_ifs
    · exact h.refresh c.clock
    · exact h
  | processCompletions =>
    rw [c.meet_of_unissued company rfl rfl]
    have htracker : (c.session.processCompletions c.clock).2.tracker = c.session.tracker :=
      tracker_absorbAll c.clock _ 0 _
    change Known botName company (c.session.processCompletions c.clock).2.tracker
    rwa [htracker]
  | requestReply ticket answer =>
    rw [c.meet_of_unissued company rfl rfl]
    obtain ⟨notices, hreply⟩ := c.session.requestReply_eq ticket answer
    change Known botName company (c.session.requestReply ticket answer).tracker
    rw [hreply]
    exact h
  | advance | setClock | complete | enqueue | changeHost =>
    rw [c.meet_of_unissued company rfl rfl]
    exact h

theorem run {c : Scene σ} (h : Known botName company c.session.tracker)
    (commands : List (Command σ)) :
    Known botName (c.company company commands) (Session.run c commands).2.session.tracker := by
  induction commands generalizing c company with
  | nil => exact h
  | cons command rest ih => exact ih (h.step command)

end Company.Known

/-- A partner as a request lists it. -/
structure Listed (botName : String) (company : Company) (snapshot : Activity.Snapshot)
    (p : RecentPlayer) : Prop where
  named : p.name ≠ ""
  other : isSelfName (some p.name) botName = false
  answered : 1 ≤ p.interactions
  found : snapshot.interactions.lookup p.name = some p.interactions
  /-- It is the number of tickets from the latest one that found the name missing in the ledger. -/
  counted : ∃ earlier later, company.visits = earlier ++ ⟨p.name, true⟩ :: later ∧
    ⟨p.name, true⟩ ∉ later ∧ p.interactions = 1 + later.countP (·.name = p.name)

theorem map_name_recentPlayers (sender text : String) (s : Activity.Snapshot) :
    (Request.build sender text s).context.recentPlayers.map RecentPlayer.name =
      s.recentInteractors := by
  rw [Request.build, List.map_map]
  exact List.map_id _

theorem Company.Known.listed {botName : String} {company : Company} {t : Activity.Tracker Float}
    (h : Known botName company t) {sender text : String} {p : RecentPlayer}
    (hp : p ∈ (Request.build sender text t.snapshot).context.recentPlayers) :
    Listed botName company t.snapshot p := by
  obtain ⟨name, hname, rfl⟩ : ∃ name ∈ t.ledger.names, _ := List.mem_map.mp hp
  have hlookup : t.snapshot.interactions.lookup name =
      some (Activity.sinceEntry company.visits name : Int) := by
    rw [h.recalls.interactions, List.lookup_graph _ hname]
  have hcount : t.snapshot.count name = Activity.sinceEntry company.visits name := by
    rw [Activity.Snapshot.count, hlookup, Option.getD_some]
  obtain ⟨earlier, later, hvisits, hlater, hsince⟩ := h.recalls.ledger.exists_entry hname
  have hentry : ⟨name, true⟩ ∈ company.visits := by simp [hvisits]
  obtain ⟨hnamed, hother⟩ := h.recalls.counted _ hentry
  refine ⟨hnamed, hother, ?_, hcount ▸ hlookup, earlier, later, hvisits, hlater, ?_⟩
  · change 1 ≤ t.snapshot.count name
    rw [hcount, hsince]
    omega
  · rw [hcount, hsince]
    rfl

theorem exists_event_of_issuing {c : Scene σ} {command : Command σ} {ticket : Ticket}
    (h : (step c command).1.ticket? = some ticket) :
    ∃ e, command = .hear e ∧
      (c.session.tracker.recordActivity c.clock).counts (some e.sender) = true ∧
      (step c command).2.session.tracker =
        (c.session.tracker.recordActivity c.clock).recordInteraction (some e.sender) ∧
      ticket.request =
        .build e.sender e.text (step c command).2.session.tracker.snapshot := by
  cases command with
  | hear e =>
    have hissued : (c.session.hear c.clock e).1.ticket = some ticket := h
    obtain ⟨hnone, -⟩ | ⟨t, ht, hcounts, htracker, hrequest⟩ := c.session.hear_company c.clock e
    · rw [hnone] at hissued
      cases hissued
    · obtain rfl : t = ticket := Option.some.inj (ht.symm.trans hissued)
      exact ⟨e, rfl, hcounts, htracker, hrequest⟩
  | _ => cases h

/-- A ticket is for the line that it answers. It lists up to ten partners, each with the tickets
issued to it from its latest entry on, and counts the last roster. -/
theorem ticket_tells_company (settings : Settings) (host : σ) (draws : Draws) (clock : Float)
    (before : List (Command σ)) (command : Command σ) (ticket : Ticket)
    (h : (step (run ⟨clock, .fresh settings host draws⟩ before).2 command).1.ticket? =
      some ticket) :
    let start : Scene σ := ⟨clock, .fresh settings host draws⟩
    let context := ticket.request.context
    let snapshot := (run start (before ++ [command])).2.session.tracker.snapshot
    let company := start.company ⟨[], []⟩ (before ++ [command])
    (∃ event, command = .hear event ∧ ticket.request.userId = event.sender ∧
      ticket.request.userName = event.sender ∧ ticket.request.text = event.text ∧
      context.currentSpeaker = event.sender ∧
      event.sender ∈ context.recentPlayers.map RecentPlayer.name) ∧
    1 ≤ context.recentPlayers.length ∧ context.recentPlayers.length ≤ 10 ∧
    (context.recentPlayers.map RecentPlayer.name).Nodup ∧
    (∀ p ∈ context.recentPlayers, Listed settings.botName company snapshot p) ∧
    context.totalPlayers = (Activity.present settings.botName company.roster).card ∧
    (context.isBusyChat = true ↔ 5 < context.totalPlayers) := by
  intro start context snapshot company
  have hfresh : Company.Known settings.botName ⟨[], []⟩ start.session.tracker :=
    ⟨Activity.Tracker.recalls_nothing rfl rfl, rfl⟩
  have hknown := hfresh.run (before ++ [command])
  obtain ⟨event, rfl, hcounts, htracker, hrequest⟩ := exists_event_of_issuing h
  rw [← run_snoc] at htracker hrequest
  have hcontext : context = (Request.build event.sender event.text snapshot).context :=
    congrArg Request.context hrequest
  have hnames : context.recentPlayers.map RecentPlayer.name = snapshot.recentInteractors := by
    rw [hcontext, map_name_recentPlayers]
  have hspeaker : event.sender ∈ snapshot.recentInteractors := by
    have hrecorded := (hfresh.run before).recalls.ledger.mem_record event.sender
    change event.sender ∈ (run start (before ++ [.hear event])).2.session.tracker.ledger.names
    rw [htracker, Activity.Tracker.recordInteraction, if_pos hcounts]
    exact hrecorded
  have hlength : context.recentPlayers.length = snapshot.recentInteractors.length := by
    rw [← hnames, List.length_map]
  refine ⟨⟨event, rfl, ?_, ?_, ?_, ?_, hnames ▸ hspeaker⟩, ?_, ?_, ?_, ?_, ?_, ?_⟩
  · rw [hrequest]
    rfl
  · rw [hrequest]
    rfl
  · rw [hrequest]
    rfl
  · rw [hcontext]
    rfl
  · rw [hlength]
    exact List.length_pos_of_mem hspeaker
  · rw [hlength]
    exact hknown.recalls.ledger.length_names_le
  · rw [hnames]
    exact hknown.recalls.ledger.distinct
  · intro p hp
    rw [hcontext] at hp
    exact hknown.listed hp
  · rw [hcontext, ← hknown.present]
    rfl
  · rw [hcontext]
    exact decide_eq_true_iff

/-- A chat of six. One of them is listed twice, and there are someone without a name and the bot. -/
def tavern : Rehearsal :=
  .fresh [some "Ann", some "Bob", some "Bob", none, some "", some "Bridge Troll", some "Cid",
    some "Dan", some "Eve", some "Fay"] []

def guests : List String := ["Ann", "Bob", "Cid", "Dan", "Eve", "Fay"]

/-- Sorting does not unfold in the kernel, so the roster is put in by hand. -/
theorem refresh_tavern {s : Session Rehearsal} (clock : Float)
    (hname : s.tracker.botName = "troll") (hroster : s.host.roster = tavern.roster)
    (hwell : s.host.failing = []) :
    s.refresh clock = { s with tracker := { s.tracker with roster := guests } } := by
  have hasked : Host.participants clock s.host = (s.host, some tavern.roster) := by
    simp [Host.participants, hroster, hwell]
  have hcounts : s.tracker.counts =
      (Activity.Tracker.fresh "troll" : Activity.Tracker Float).counts := by
    funext name
    rw [Activity.Tracker.counts, hname]
    rfl
  have hkept : (tavern.roster.filter s.tracker.counts).filterMap id =
      ["Ann", "Bob", "Bob", "Cid", "Dan", "Eve", "Fay"] := by
    rw [hcounts]
    decide +kernel
  have honce : ["Ann", "Bob", "Bob", "Cid", "Dan", "Eve", "Fay"].eraseDups = guests := by
    decide +kernel
  have hsorted : guests.Pairwise fun a b => decide (a ≤ b) = true := by decide +kernel
  simp only [refresh, hasked, Activity.Tracker.updateRoster, Activity.rosterOf, hkept, honce,
    List.mergeSort_of_pairwise hsorted]

/-- Ann is answered and forgotten. Then Bob is answered, and Ann anew. -/
def evening : List (Command Rehearsal) :=
  [.start, .hear ⟨"Ann", "hi", .publicChat⟩, .reset, .hear ⟨"Bob", "hi", .publicChat⟩,
    .complete (.saying "Hello.") (some 2), .advance 10, .hear ⟨"Ann", "Me?", .publicChat⟩,
    .complete (.saying "You.") (some 3), .advance 10]

def bar : Scene Rehearsal := ⟨1000, .fresh .nearby tavern (.ofScript [0, 0, 0, 0])⟩

/-- When Bob is answered again, he counts twice and Ann once. -/
theorem company_of_evening :
    ∃ ticket, (step (run bar (evening ++ [.refresh])).2
        (.hear ⟨"Bob", "So?", .publicChat⟩)).1.ticket? = some ticket ∧
      ticket.request.context = ⟨[⟨"Bob", 2⟩, ⟨"Ann", 1⟩], 6, "Bob", true⟩ ∧
      ∃ earlier later, (bar.company ⟨[], []⟩
          (evening ++ [.refresh] ++ [.hear ⟨"Bob", "So?", .publicChat⟩])).visits =
            earlier ++ ⟨"Bob", true⟩ :: later ∧
        ⟨"Bob", true⟩ ∉ later ∧ (2 : Int) = 1 + later.countP (·.name = "Bob") := by
  -- Said of any commands, so that no session is played while terms are compared.
  have hany : ∀ before command ticket,
      (step (run bar before).2 command).1.ticket? = some ticket →
      ∀ p ∈ ticket.request.context.recentPlayers,
        Listed "troll" (bar.company ⟨[], []⟩ (before ++ [command]))
          (run bar (before ++ [command])).2.session.tracker.snapshot p := by
    intro before command ticket h
    obtain ⟨-, -, -, -, hlisted, -⟩ := ticket_tells_company .nearby tavern
      (.ofScript [0, 0, 0, 0]) 1000 before command ticket h
    exact hlisted
  have hrefreshed : (run bar evening).2.session.refresh (run bar evening).2.clock = _ :=
    refresh_tavern _ (by decide +kernel) (by decide +kernel) (by decide +kernel)
  have hissued : ((step (run bar (evening ++ [.refresh])).2
      (.hear ⟨"Bob", "So?", .publicChat⟩)).1.ticket?.map fun ticket => ticket.request.context) =
        some ⟨[⟨"Bob", 2⟩, ⟨"Ann", 1⟩], 6, "Bob", true⟩ := by
    rw [run_snoc, step.eq_def (run bar evening).2]
    dsimp only
    rw [hrefreshed]
    decide +kernel
  obtain ⟨ticket, hticket, hcontext⟩ := Option.map_eq_some_iff.mp hissued
  have hlisted := hany _ _ _ hticket ⟨"Bob", 2⟩ (by simp [hcontext])
  exact ⟨ticket, hticket, hcontext, hlisted.counted⟩

end Session
end Banter
