import Banter.Proofs.Delivery.Passage
import Banter.Proofs.History

/-! The pause between two lines, as long as no hand-over is interrupted by a reset. -/
namespace Banter.Delivery

/-- What is known of the last hand-over after one more event. -/
def Event.follow : Option (Handover × List Event) → Event → Option (Handover × List Event)
  | _, reset => none
  | _, handed h => some (h, [])
  | last, e => last.map fun (h, after) => (h, after ++ [e])

/-- The last hand-over since the queue was reset, and what happened after it began. -/
def last? (past : List Event) : Option (Handover × List Event) :=
  past.foldl Event.follow none

theorem last?_snoc (past : List Event) (e : Event) :
    last? (past ++ [e]) = Event.follow (last? past) e := by
  simp [last?]

theorem last?_of_quiet {before after : List Event} {h : Handover}
    (hq : ∀ e ∈ after, e.isReset = false ∧ e.handed? = none) :
    last? (before ++ .handed h :: after) = some (h, after) := by
  induction after using List.reverseRecOn with
  | nil => exact last?_snoc before (.handed h)
  | append_singleton after e ih =>
    have hbefore := ih fun e he => hq e (List.mem_append_left _ he)
    obtain ⟨hreset, hhanded⟩ := hq e (by simp)
    rw [← List.cons_append, ← List.append_assoc, last?_snoc, hbefore]
    cases e with
    | reset => cases hreset
    | handed other => cases hhanded
    | _ => rfl

theorem last?_of_unhanded {past : List Event}
    (hq : ∀ e ∈ sinceReset past, e.handed? = none) : last? past = none := by
  induction past using List.reverseRecOn with
  | nil => rfl
  | append_singleton past e ih =>
    rw [sinceReset_snoc] at hq
    rw [last?_snoc]
    cases e with
    | reset => rfl
    | handed h => cases hq (.handed h) (by simp [Event.isReset])
    | _ =>
      rw [ih fun e he => hq e (List.mem_append_left _ he)]
      rfl

/-- Where a queue is with its lines: the last hand-over since the reset, those under way, and what
the queue remembers of them. -/
inductive Stage : Option (Handover × List Event) → List Flight → Queue → Prop
  | unused {q : Queue} (hb : q.busy = false) (ht : q.lastSend = none) (hs : q.lastSent = "") :
    Stage none [] q
  | flying {h : Handover} {after : List Event} {q : Queue} (hb : q.busy = true)
    (hs : q.lastSent = h.line) (he : endedIn after = []) :
    Stage (some (h, after)) [⟨h, false⟩] q
  | landed {h : Handover} {clock : Float} {after : List Event} {q : Queue} (hb : q.busy = false)
    (hs : q.lastSent = h.line) (he : endedIn after = [(h, clock)])
    (ht : q.lastSend = some (h.stamp clock)) : Stage (some (h, after)) [] q

/-- Each hand-over comes a pause after the end of the one before. -/
def Spaced (delay : Float) (past : List Event) : Prop :=
  ∀ before h after, past = before ++ .handed h :: after →
    ∀ earlier between, last? before = some (earlier, between) →
      ∃ clock, endedIn between = [(earlier, clock)] ∧ delay ≤ h.time - earlier.stamp clock

structure Paced (delay : Float) (past : List Event) (q : Queue) : Prop where
  pause : q.delay = delay
  stage : Stage (last? past) (underWay past) q
  spaced : Spaced delay past

theorem Spaced.snoc {delay : Float} {past : List Event} {e : Event} (h : Spaced delay past)
    (he : ∀ handover, e = .handed handover → ∀ earlier between,
      last? past = some (earlier, between) →
        ∃ clock, endedIn between = [(earlier, clock)] ∧
          delay ≤ handover.time - earlier.stamp clock) :
    Spaced delay (past ++ [e]) := by
  intro before handover after hsplit
  rcases snoc_eq_append_cons_iff.mp hsplit with ⟨rfl, rfl, -⟩ | ⟨between, -, hpast⟩
  · exact he handover rfl
  · exact h before handover between hpast

theorem Stage.aside {last : Option (Handover × List Event)} {flights : List Flight} {q r : Queue}
    {e : Event} (h : Stage last flights q) (he : e.ended? = none) (hb : r.busy = q.busy)
    (ht : r.lastSend = q.lastSend) (hs : r.lastSent = q.lastSent) :
    Stage (last.map fun (h, after) => (h, after ++ [e])) flights r := by
  have hended : ∀ after, endedIn (after ++ [e]) = endedIn after := by
    intro after
    rw [endedIn_snoc, he, Option.toList_none, List.append_nil]
  cases h with
  | unused hqb hqt hqs => exact .unused (hb.trans hqb) (ht.trans hqt) (hs.trans hqs)
  | flying hqb hqs hqe => exact .flying (hb.trans hqb) (hs.trans hqs) ((hended _).trans hqe)
  | landed hqb hqs hqe hqt =>
    exact .landed (hb.trans hqb) (hs.trans hqs) ((hended _).trans hqe) (ht.trans hqt)

/-- A line is handed over only after the one before has landed, and after the pause. -/
theorem Stage.handed {last : Option (Handover × List Event)} {flights : List Flight}
    {q taken : Queue} {h : Handover} (hstage : Stage last flights q)
    (ht : q.take? h.time = some (h.line, taken)) :
    Stage (some (h, [])) (⟨h, false⟩ :: flights) taken ∧
      ∀ earlier between, last = some (earlier, between) →
        ∃ clock, endedIn between = [(earlier, clock)] ∧
          q.delay ≤ h.time - earlier.stamp clock := by
  obtain ⟨hfree, hready, rest, -, rfl⟩ := Queue.take?_eq_some_iff.mp ht
  cases hstage with
  | unused hb hlast hs => exact ⟨.flying rfl rfl rfl, by simp⟩
  | flying hb hs he =>
    -- In the middle of a hand-over nothing is given away.
    rw [hb] at hfree
    cases hfree
  | landed hb hs he hlast =>
    refine ⟨.flying rfl rfl rfl, ?_⟩
    rintro earlier between ⟨⟩
    rw [Queue.ready, hlast] at hready
    exact ⟨_, he, of_decide_eq_true hready⟩

theorem Stage.ended {last : Option (Handover × List Event)} {flight : Flight}
    {outer : List Flight} {q : Queue} (hstage : Stage last (flight :: outer) q) (clock : Float)
    (failed : Bool) :
    Stage (Event.follow last (.ended flight.handover clock failed)) outer
      (q.settle (flight.handover.stamp clock)) := by
  cases hstage with
  | flying hb hs he =>
    refine .landed rfl hs ?_ rfl
    rw [endedIn_snoc, he]
    rfl

theorem Stage.rest {last : Option (Handover × List Event)} {q : Queue} (h : Stage last [] q) :
    q.busy = false ∧
      (∀ handover after, last = some (handover, after) →
        q.lastSent = handover.line ∧
        ∃ clock, endedIn after = [(handover, clock)] ∧
          q.lastSend = some (handover.stamp clock)) ∧
      (last = none → q.lastSent = "" ∧ q.lastSend = none) := by
  cases h with
  | unused hb ht hs => exact ⟨hb, by simp, fun _ => ⟨hs, ht⟩⟩
  | landed hb hs he ht =>
    refine ⟨hb, ?_, by simp⟩
    rintro handover after ⟨⟩
    exact ⟨hs, _, he, ht⟩

theorem Paced.aside {delay : Float} {past : List Event} {q r : Queue} {e : Event}
    (h : Paced delay past q) (hstill : e.isReset = false ∧ e.handed? = none ∧ e.ended? = none)
    (hd : r.delay = q.delay) (hb : r.busy = q.busy) (ht : r.lastSend = q.lastSend)
    (hs : r.lastSent = q.lastSent) : Paced delay (past ++ [e]) r := by
  obtain ⟨hreset, hhanded, hended⟩ := hstill
  refine ⟨hd.trans h.pause, ?_, h.spaced.snoc ?_⟩
  · have hstage := h.stage.aside hended hb ht hs
    rw [last?_snoc, underWay_snoc]
    cases e with
    | reset => cases hreset
    | handed handover => cases hhanded
    | ended handover clock failed => cases hended
    | _ => exact hstage
  · rintro handover rfl
    cases hhanded

theorem paced_lasting (delay : Float) :
    Lasting fun past q => Undisturbed past → Paced delay past q where
  queued lines h hu := (h hu.init).aside ⟨rfl, rfl, rfl⟩ rfl rfl rfl rfl
  asked h hu := (h hu.init).aside ⟨rfl, rfl, rfl⟩ rfl rfl rfl rfl
  answered line h hu := (h hu.init).aside ⟨rfl, rfl, rfl⟩ rfl rfl rfl rfl
  reset {past q} h hu := by
    have hbefore := h hu.init
    refine ⟨hbefore.pause, ?_, hbefore.spaced.snoc (by rintro _ ⟨⟩)⟩
    rw [last?_snoc, underWay_snoc, hu.underWay_of_reset]
    -- None is under way, so no old hand-over will stamp the new queue.
    exact .unused rfl rfl rfl
  handed {past q taken handover} ht h hu := by
    have hbefore := h hu.init
    obtain ⟨hstage, hspaced⟩ := hbefore.stage.handed ht
    rw [hbefore.pause] at hspaced
    refine ⟨(Queue.delay_take? ht).trans hbefore.pause, ?_, hbefore.spaced.snoc ?_⟩
    · rw [last?_snoc, underWay_snoc]
      exact hstage
    · rintro handover ⟨⟩
      exact hspaced
  ended {past q flight outer} hflight clock failed h hu := by
    have hbefore := h hu.init
    have hstage := hbefore.stage
    rw [hflight] at hstage
    refine ⟨hbefore.pause, ?_, hbefore.spaced.snoc (by rintro _ ⟨⟩)⟩
    rw [last?_snoc, underWay_snoc, Event.pass, hflight]
    exact hstage.ended clock failed

/-- Unless a reset interrupts a hand-over, the pause lies between the end of one, failed or not, and
the call for the next. -/
theorem paced_by_last_stamp (script : Script) (delay start : Float) :
    ∀ p ∈ script.points (.fresh delay start), Undisturbed p.past →
      (∀ before earlier between later after,
        p.past = before ++ .handed earlier :: (between ++ .handed later :: after) →
        (∀ e ∈ between, e.isReset = false ∧ e.handed? = none) →
        ∃ clock, endedIn between = [(earlier, clock)] ∧
          delay ≤ later.time - earlier.stamp clock) ∧
      (underWay p.past = [] →
        p.desk.queue.busy = false ∧
        (∀ before last after, p.past = before ++ .handed last :: after →
          (∀ e ∈ after, e.isReset = false ∧ e.handed? = none) →
          p.desk.queue.lastSent = last.line ∧
          ∃ clock, endedIn after = [(last, clock)] ∧
            p.desk.queue.lastSend = some (last.stamp clock)) ∧
        ((∀ e ∈ sinceReset p.past, e.handed? = none) →
          p.desk.queue.lastSent = "" ∧ p.desk.queue.lastSend = none)) := by
  intro p hp hu
  have hfresh : Paced delay [] (Desk.fresh delay start).queue :=
    ⟨rfl, .unused rfl rfl rfl, by rintro before h after hsplit; simp at hsplit⟩
  have hpaced := (paced_lasting delay).points script (fun _ => hfresh) p hp hu
  refine ⟨?_, ?_⟩
  · intro before earlier between later after hpast hquiet
    rw [← List.cons_append, ← List.append_assoc] at hpast
    exact hpaced.spaced _ later after hpast earlier between (last?_of_quiet hquiet)
  · intro hnone
    have hstage := hpaced.stage
    rw [hnone] at hstage
    obtain ⟨hfree, hlast, hunused⟩ := hstage.rest
    refine ⟨hfree, ?_, fun hquiet => hunused (last?_of_unhanded hquiet)⟩
    intro before last after hpast hquiet
    refine hlast last after ?_
    rw [hpast, last?_of_quiet hquiet]

/-- The first hand-over fails after half a second, in which it calls for the next line itself. That
one is due two seconds later. -/
def patience : Script :=
  .enqueue ["a", "b"] (.drain none
    (fun _ => .wait 0.5 (.drain none (fun _ => .finish) fun _ => .fail))
    fun _ => .wait 2 (.drain none (fun _ => .finish) fun _ => .finish))

def awaited : List Point := patience.points (.fresh 1.8 1000)

def meantime : List Event :=
  [.asked, .answered none, .ended ⟨"a", none, 1000⟩ 1000.5 true, .answered (some "a"), .asked]

def aftermath : List Event :=
  [.ended ⟨"b", none, 1002.5⟩ 1002.5 false, .answered (some "b")]

/-- The pause lies between the end of the first hand-over, although it failed, and the call for the
second line, and the second is what the queue remembers. -/
theorem paced_after_failure :
    (1.8 : Float) ≤ 1002.5 - 1000.5 ∧
      (awaited.get ⟨11, by decide +kernel⟩).desk.queue.lastSend = some 1002.5 ∧
      (awaited.get ⟨11, by decide +kernel⟩).desk.queue.busy = false := by
  obtain ⟨hspaced, hrest⟩ := paced_by_last_stamp patience 1.8 1000 _
    (List.get_mem awaited ⟨11, by decide +kernel⟩) (undisturbed_of_unreset (by decide +kernel))
  obtain ⟨clock, hended, hpause⟩ := hspaced [.queued ["a", "b"], .asked] ⟨"a", none, 1000⟩ meantime
    ⟨"b", none, 1002.5⟩ aftermath (by decide +kernel) (by decide)
  obtain ⟨hfree, hlast, -⟩ := hrest (by decide +kernel)
  obtain ⟨-, stamped, hlanded, hstamp⟩ := hlast
    ([.queued ["a", "b"], .asked, .handed ⟨"a", none, 1000⟩] ++ meantime) ⟨"b", none, 1002.5⟩
    aftermath (by decide +kernel) (by decide)
  have hfirst : endedIn meantime = [(⟨"a", none, 1000⟩, 1000.5)] := rfl
  have hsecond : endedIn aftermath = [(⟨"b", none, 1002.5⟩, 1002.5)] := rfl
  rw [hfirst, List.cons.injEq, Prod.mk.injEq] at hended
  rw [hsecond, List.cons.injEq, Prod.mk.injEq] at hlanded
  rw [← hended.1.2] at hpause
  rw [← hlanded.1.2] at hstamp
  exact ⟨hpause, hstamp, hfree⟩

end Banter.Delivery
