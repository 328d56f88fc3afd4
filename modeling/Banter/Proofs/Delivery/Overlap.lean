import Banter.Proofs.Delivery.Passage

/-! When a line is handed over while another still is: only after the queue was reset meanwhile. -/
namespace Banter.Delivery

/-- All hand-overs under way but the innermost began before the last reset, and the queue is busy
just while one is under way that began later. -/
structure Alone (past : List Event) (q : Queue) : Prop where
  outer : ∀ f ∈ (underWay past).tail, f.cutOff = true
  busy : q.busy = (underWay past).any fun f => !f.cutOff

theorem Alone.busy_eq_false_iff {past : List Event} {q : Queue} (h : Alone past q) :
    q.busy = false ↔ ∀ f ∈ underWay past, f.cutOff = true := by
  simp [h.busy]

theorem Alone.aside {past : List Event} {q r : Queue} {e : Event} (h : Alone past q)
    (he : e.pass (underWay past) = underWay past) (hb : r.busy = q.busy) :
    Alone (past ++ [e]) r := by
  constructor
  · rw [underWay_snoc, he]
    exact h.outer
  · rw [underWay_snoc, he, hb, h.busy]

theorem alone_lasting : Lasting Alone where
  queued lines h := h.aside rfl rfl
  asked h := h.aside rfl rfl
  answered line h := h.aside rfl rfl
  reset {past q} h := by
    constructor
    · intro f hf
      rw [underWay_snoc] at hf
      obtain ⟨earlier, -, rfl⟩ := List.mem_map.mp (List.mem_of_mem_tail hf)
      rfl
    · simp [Event.pass, Queue.reset, Queue.fresh]
  handed {past q taken handover} ht h := by
    obtain ⟨hfree, -, rest, -, rfl⟩ := Queue.take?_eq_some_iff.mp ht
    constructor
    · rw [underWay_snoc, Event.pass, List.tail_cons]
      exact h.busy_eq_false_iff.mp hfree
    · simp [Event.pass]
  ended {past q flight outer} hu clock failed h := by
    have hcut : ∀ f ∈ outer, f.cutOff = true := by simpa [hu] using h.outer
    constructor
    · rw [underWay_snoc, Event.pass, hu, List.tail_cons]
      exact fun f hf => hcut f (List.mem_of_mem_tail hf)
    · simpa [Event.pass, hu, Queue.settle] using hcut

/-- Where resets keep to the gaps between hand-overs, none is cut off. -/
theorem Undisturbed.cutOff {past : List Event} (h : Undisturbed past) :
    ∀ f ∈ underWay past, f.cutOff = false := by
  induction past using List.reverseRecOn with
  | nil => simp [underWay]
  | append_singleton past e ih =>
    have hbefore := ih h.init
    rw [underWay_snoc]
    cases e with
    | handed handover => simpa [Event.pass] using hbefore
    | ended handover clock failed => exact fun f hf => hbefore f (List.mem_of_mem_tail hf)
    | reset => simp [Event.pass, h.underWay_of_reset]
    | queued lines => exact hbefore
    | asked => exact hbefore
    | answered line => exact hbefore

theorem Alone.length_le_one {past : List Event} {q : Queue} (h : Alone past q)
    (hu : Undisturbed past) : (underWay past).length ≤ 1 := by
  have hwhole := hu.cutOff
  have houter := h.outer
  match hf : underWay past with
  | [] => simp
  | [f] => simp
  | f :: g :: rest =>
    rw [hf] at hwhole houter
    have hcut := houter g (by simp)
    rw [hwhole g (by simp)] at hcut
    cases hcut

theorem Desk.drain_eq_some_iff {d : Desk} {now : Option Float} {send : String → Script}
    {line : String} : (d.drain now send).1 = some line ↔
      d.queue.busy = false ∧ d.queue.ready (now.getD d.clock) = true ∧
        d.queue.lines.head? = some line := by
  have htake : (d.drain now send).1 = (d.queue.take? (now.getD d.clock)).map Prod.fst := by
    unfold Desk.drain
    cases d.queue.take? (now.getD d.clock) <;> rfl
  simp only [htake, Option.map_eq_some_iff, Prod.exists, exists_and_right, exists_eq_right,
    Queue.take?_eq_some_iff, List.head?_eq_some_iff]
  constructor
  · rintro ⟨taken, hbusy, hready, rest, hl, -⟩
    exact ⟨hbusy, hready, rest, hl⟩
  · rintro ⟨hbusy, hready, rest, hl⟩
    exact ⟨_, hbusy, hready, rest, hl, rfl⟩

/-- A call hands over its first line just if the pause has passed and the queue was reset in each
hand-over that is still under way. -/
theorem overlap_only_by_reset (script : Script) (delay start : Float) :
    ∀ p ∈ script.points (.fresh delay start),
      (∀ now send line, (p.desk.drain now send).1 = some line ↔
        (∀ f ∈ underWay p.past, f.cutOff = true) ∧
          p.desk.queue.ready (now.getD p.desk.clock) = true ∧
          p.desk.queue.lines.head? = some line) ∧
      (∀ before h, p.past = before ++ [.handed h] → ∀ f ∈ underWay before, f.cutOff = true) ∧
      (Undisturbed p.past → (underWay p.past).length ≤ 1) := by
  intro p hp
  have halone : Alone p.past p.desk.queue :=
    alone_lasting.points script ⟨by simp [underWay], rfl⟩ p hp
  refine ⟨?_, ?_, halone.length_le_one⟩
  · intro now send line
    rw [Desk.drain_eq_some_iff, halone.busy_eq_false_iff]
  · intro before h hpast
    have houter := halone.outer
    rwa [hpast, underWay_snoc, Event.pass, List.tail_cons] at houter

/-- Inside the first hand-over the reset queue gives a line away, and then two are under way. Before
the reset there was one. -/
theorem overlap_of_intrusion :
    ((intruded.get ⟨8, by decide +kernel⟩).desk.drain none fun _ => .fail).1 = some "d" ∧
      (underWay innermost.past).length = 2 ∧
      (underWay (intruded.get ⟨4, by decide +kernel⟩).past).length ≤ 1 := by
  have hall : ∀ p ∈ intruded, _ := overlap_only_by_reset intrusion 1.8 1000
  obtain ⟨hgiven, -, -⟩ := hall _ (List.get_mem intruded ⟨8, by decide +kernel⟩)
  obtain ⟨-, -, hlone⟩ := hall _ (List.get_mem intruded ⟨4, by decide +kernel⟩)
  refine ⟨(hgiven none _ "d").mpr (by decide +kernel), by decide +kernel, hlone ?_⟩
  exact undisturbed_of_unreset (by decide +kernel)

end Banter.Delivery
