import Banter.Proofs.Session.Passage

/-!
Properties that last: kept by every move of a session, they hold at every point of every run. They
speak of a session and of what happened since it last forgot.
-/
namespace Banter.Session

variable {σ : Type} {I : List Event → Session σ → Prop}

theorem mem_through (past : List Event) {ms : List (Moment σ)} {m : Moment σ} (h : m ∈ ms) :
    ∃ before, ⟨before, m.session⟩ ∈ through past ms := by
  induction ms generalizing past with
  | nil => cases h
  | cons first rest ih =>
    rcases List.mem_cons.mp h with rfl | hrest
    · exact ⟨past ++ [m.event], List.mem_cons_self⟩
    · obtain ⟨before, hbefore⟩ := ih (past ++ [first.event]) hrest
      exact ⟨before, List.mem_cons_of_mem _ hbefore⟩

/-- The property is carried from one moment to the next, from the first session to the last. -/
def Leads (I : List Event → Session σ → Prop) :
    Session σ → List (Moment σ) → Session σ → Prop
  | s, [], t => ∀ past, I past s → I past t
  | s, m :: rest, t =>
    (∀ past, I past s → I (past ++ [m.event]) m.session) ∧ Leads I m.session rest t

namespace Leads

variable {s t u : Session σ} {ms ns : List (Moment σ)}

theorem after (hs : ∀ past, I past s → I past t) (ht : Leads I t ns u) : Leads I s ns u := by
  cases ns with
  | nil => exact fun past h => ht past (hs past h)
  | cons m rest => exact ⟨fun past h => ht.1 past (hs past h), ht.2⟩

theorem append (hs : Leads I s ms t) (ht : Leads I t ns u) : Leads I s (ms ++ ns) u := by
  induction ms generalizing s with
  | nil => exact ht.after hs
  | cons m rest ih => exact ⟨hs.1, ih hs.2⟩

theorem holds {past : List Event} (hl : Leads I s ms t) (h : I past s) :
    I (past ++ ms.map Moment.event) t ∧ ∀ p ∈ through past ms, I p.past p.session := by
  induction ms generalizing past s with
  | nil =>
    rw [List.map_nil, List.append_nil]
    exact ⟨hl past h, by simp [through]⟩
  | cons m rest ih =>
    have hm : I (past ++ [m.event]) m.session := hl.1 past h
    obtain ⟨hend, hin⟩ := ih hl.2 hm
    refine ⟨by simpa using hend, ?_⟩
    intro p hp
    rcases List.mem_cons.mp hp with rfl | hp
    · exact hm
    · exact hin p hp

end Leads

variable [Host σ]

/-- Each move of a session keeps the property, but for those that forget. -/
structure Lasting (I : List Event → Session σ → Prop) : Prop where
  note {past : List Event} {s : Session σ} (notices : List Notice) (h : I past s) :
    I past (s.note notices)
  refresh {past : List Event} {s : Session σ} (clock : Float) (h : I past s) :
    I past (s.refresh clock)
  hear {past : List Event} {s : Session σ} (clock : Float) (e : ChatEvent) (h : I past s) :
    I (past ++ (s.hear clock e).1.ticket.toList.map .issued) (s.hear clock e).2
  complete {past : List Event} {s : Session σ} (o : Outcome) (token : Option Nat)
    (h : I past s) : I (past ++ [.returned o token]) (s.complete o token)
  enqueue {past : List Event} {s : Session σ} (lines : List String) (h : I past s) :
    I (past ++ [.queued lines]) (s.enqueue lines)
  absorbed {past : List Event} {s : Session σ} {clock : Float} {o : Outcome}
    {rest : List Outcome} {a : Reply.Absorbed σ}
    (ha : Reply.absorb clock s.tracker.snapshot o s.queue s.draws s.host = .ok a)
    (h : I past { s with handoff := o :: rest }) :
    I (past ++ [.absorbed o a.lines])
      { s with queue := a.queue, draws := a.draws, host := a.host, handoff := rest }
  broken {past : List Event} {s : Session σ} {clock : Float} {o : Outcome}
    {rest : List Outcome} {b : Breach}
    (hb : Reply.absorb clock s.tracker.snapshot o s.queue s.draws s.host = .error b)
    (h : I past { s with handoff := o :: rest }) :
    I (past ++ [.absorbed o []]) { s with handoff := rest }
  said {past : List Event} {s : Session σ} {clock time : Float} {line : String}
    {q : Delivery.Queue} (hq : s.queue.take? time = some (line, q)) (h : I past s) :
    I (past ++ [.said line]) { s with queue := q, host := (Host.sendLine clock line s.host).1 }
  settled {past : List Event} {s : Session σ} (stamp : Float) (h : I past s) :
    I past { s with queue := s.queue.settle stamp }

namespace Lasting

/-- The loop reads the outcomes before it takes them off, so what waits is put in by hand. -/
theorem absorbAll (hI : Lasting I) (clock : Float) (os : List Outcome) (n : Nat)
    (s : Session σ) :
    Leads I { s with handoff := os } (absorbing clock os s) (absorbAll clock os n s).2 := by
  induction os generalizing n s with
  | nil => exact fun _ h => h
  | cons o rest ih =>
    unfold absorbing Session.absorbAll absorb
    cases ha : Reply.absorb clock s.tracker.snapshot o s.queue s.draws s.host with
    | error b => exact ⟨fun _ h => hI.broken ha h, fun _ h => h⟩
    | ok a => exact ⟨fun _ h => hI.note a.notices (hI.absorbed ha h), ih (n + 1) _⟩

theorem processCompletions (hI : Lasting I) (s : Session σ) (clock : Float) :
    Leads I s (absorbing clock s.handoff s) (s.processCompletions clock).2 :=
  hI.absorbAll clock s.handoff 0 s

theorem drain (hI : Lasting I) (s : Session σ) (clock : Float) (now : Option Float) :
    Leads I s (s.draining clock now) (s.drain clock now).2 := by
  unfold draining Session.drain
  cases hq : s.queue.take? (now.getD clock) with
  | none => exact fun _ h => h
  | some taken =>
    obtain ⟨line, q⟩ := taken
    exact ⟨fun _ h => hI.said hq h, fun _ h => hI.note _ (hI.settled (now.getD clock) h)⟩

theorem heartbeat (hI : Lasting I) (s : Session σ) (clock : Float) (now : Option Float) :
    Leads I s (s.ticking clock now) (s.heartbeat clock now).2 := by
  have habsorbed := (hI.processCompletions (s.refresh clock) clock).after
    fun _ h => hI.refresh clock h
  unfold ticking Session.heartbeat
  split_ifs with hstarted
  · exact fun _ h => h
  · dsimp only
    generalize (s.refresh clock).processCompletions clock = r at habsorbed ⊢
    obtain ⟨result, t⟩ := r
    cases result with
    | error b => simpa using habsorbed
    | ok n => exact habsorbed.append (hI.drain t clock now)

/-- A command that does not forget, as long as the host changes within bounds. -/
theorem step (hI : Lasting I) (c : Scene σ) {command : Command σ}
    (hf : command.forgets = false)
    (hc : ∀ change, command = .changeHost change → ∀ past (s : Session σ), I past s →
      I past { s with host := change s.host }) :
    Leads I c.session (c.moments command) (Session.step c command).2.session := by
  cases command with
  | start => cases hf
  | stop => cases hf
  | reset => cases hf
  | advance seconds => exact fun _ h => h
  | setClock time => exact fun _ h => h
  | refresh => exact fun _ h => hI.refresh c.clock h
  | changeHost change => exact fun past h => hc change rfl past c.session h
  | hear e =>
    have hheard : ∀ past, I past c.session → _ := fun past h => hI.hear c.clock e h
    change Leads I c.session ((c.session.hear c.clock e).1.ticket.toList.map fun ticket =>
      ⟨.issued ticket, (c.session.hear c.clock e).2⟩) (c.session.hear c.clock e).2
    cases ht : (c.session.hear c.clock e).1.ticket with
    | none => simpa [ht, Leads] using hheard
    | some ticket => exact ⟨by simpa [ht] using hheard, fun _ h => h⟩
  | complete o token => exact ⟨fun _ h => hI.complete o token h, fun _ h => h⟩
  | requestReply ticket answer =>
    obtain ⟨notices, hr⟩ := c.session.requestReply_eq ticket answer
    simp only [Scene.moments, Session.step, Scene.put, hr]
    exact ⟨fun _ h => hI.complete _ _ (hI.note notices h), fun _ h => h⟩
  | processCompletions => exact hI.processCompletions c.session c.clock
  | heartbeat now => exact hI.heartbeat c.session c.clock now
  | enqueue lines => exact ⟨fun _ h => hI.enqueue lines h, fun _ h => h⟩

theorem kept {P : Session σ → Prop} (hP : Lasting fun _ => P)
    (hf : ∀ s, P s → P s.start ∧ P s.stop ∧ P s.reset)
    (hc : ∀ (change : σ → σ) (s : Session σ), P s → P { s with host := change s.host })
    {c : Scene σ} (h : P c.session) (command : Command σ) :
    P (Session.step c command).2.session := by
  cases hforgets : command.forgets with
  | true =>
    obtain ⟨hstart, hstop, hreset⟩ := hf c.session h
    cases command with
    | start => exact hstart
    | stop => exact hstop
    | reset => exact hreset
    | _ => cases hforgets
  | false =>
    have hled := hP.step c hforgets fun change _ _ s => hc change s
    have hheld : P (Session.step c command).2.session ∧
        ∀ p ∈ through [] (c.moments command), P p.session := hled.holds h
    exact hheld.1

theorem inside {P : Session σ → Prop} (hP : Lasting fun _ => P)
    (hc : ∀ (change : σ → σ) (s : Session σ), P s → P { s with host := change s.host })
    {c : Scene σ} (h : P c.session) {command : Command σ} {m : Moment σ}
    (hm : m ∈ c.moments command) : P m.session := by
  have hkept : command.forgets = false := by
    cases command with
    | start => cases hm
    | stop => cases hm
    | reset => cases hm
    | _ => rfl
  have hled := hP.step c hkept fun change _ _ s => hc change s
  have hheld : P (Session.step c command).2.session ∧
      ∀ p ∈ through [] (c.moments command), P p.session := hled.holds h
  obtain ⟨before, hthrough⟩ := mem_through [] hm
  exact hheld.2 _ hthrough

/-- At every point of a run the property holds, if it also starts anew where a session forgets. -/
theorem points (hI : Lasting I) {commands : List (Command σ)} {c : Scene σ} {past : List Event}
    (hf : ∀ past (s : Session σ), I past s → I [] s.start ∧ I [] s.stop ∧ I [] s.reset)
    (hc : ∀ change, .changeHost change ∈ commands → ∀ past (s : Session σ), I past s →
      I past { s with host := change s.host }) (h : I past c.session) :
    ∀ p ∈ points c past commands, I p.past p.session := by
  induction commands generalizing c past with
  | nil =>
    intro p hp
    rw [Session.points, List.mem_singleton] at hp
    subst p
    exact h
  | cons command rest ih =>
    intro p hp
    have hrest : ∀ change, .changeHost change ∈ rest → ∀ past (s : Session σ), I past s →
        I past { s with host := change s.host } :=
      fun change hm => hc change (List.mem_cons_of_mem command hm)
    rw [Session.points, List.cons_append, List.mem_cons, List.mem_append] at hp
    cases hforgets : command.forgets with
    | true =>
      obtain ⟨hstart, hstop, hreset⟩ := hf past c.session h
      obtain ⟨hnone, hclean⟩ : c.moments command = [] ∧
          I [] (Session.step c command).2.session := by
        cases command with
        | start => exact ⟨rfl, hstart⟩
        | stop => exact ⟨rfl, hstop⟩
        | reset => exact ⟨rfl, hreset⟩
        | _ => cases hforgets
      rw [hforgets, hnone] at hp
      obtain rfl | hin | hlater := hp
      · exact h
      · simp [through] at hin
      · exact ih hrest hclean p hlater
    | false =>
      have hstep := hI.step c hforgets fun change he =>
        hc change (he ▸ List.mem_cons_self)
      obtain ⟨hend, hinside⟩ := hstep.holds h
      rw [hforgets] at hp
      obtain rfl | hin | hlater := hp
      · exact h
      · exact hinside p hin
      · exact ih hrest hend p hlater

theorem exists_of_forall {ι : Type} {J : ι → List Event → Session σ → Prop}
    (hJ : ∀ i, Lasting (J i)) : Lasting fun past s => ∃ i, J i past s where
  note notices := fun ⟨i, h⟩ => ⟨i, (hJ i).note notices h⟩
  refresh clock := fun ⟨i, h⟩ => ⟨i, (hJ i).refresh clock h⟩
  hear clock e := fun ⟨i, h⟩ => ⟨i, (hJ i).hear clock e h⟩
  complete o token := fun ⟨i, h⟩ => ⟨i, (hJ i).complete o token h⟩
  enqueue lines := fun ⟨i, h⟩ => ⟨i, (hJ i).enqueue lines h⟩
  absorbed ha := fun ⟨i, h⟩ => ⟨i, (hJ i).absorbed ha h⟩
  broken hb := fun ⟨i, h⟩ => ⟨i, (hJ i).broken hb h⟩
  said hq := fun ⟨i, h⟩ => ⟨i, (hJ i).said hq h⟩
  settled stamp := fun ⟨i, h⟩ => ⟨i, (hJ i).settled stamp h⟩

end Lasting
end Banter.Session
