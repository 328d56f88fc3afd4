import Banter.Proofs.Delivery.Passage

/-! Lines leave a queue once each and in the order in which they came, even in the middle of a
hand-over. -/
namespace Banter.Delivery

/-- Counted from the last reset, the lines queued are those handed over and those that wait. -/
def Balanced (past : List Event) (q : Queue) : Prop :=
  handedIn (sinceReset past) ++ q.lines = queuedIn (sinceReset past)

theorem Balanced.snoc {past : List Event} {q r : Queue} {e : Event} (h : Balanced past q)
    (hr : e.isReset = false)
    (hm : (e.handed?.map Handover.line).toList ++ r.lines = q.lines ++ e.batch) :
    Balanced (past ++ [e]) r := by
  unfold Balanced at h ⊢
  rw [sinceReset_snoc, hr, if_neg Bool.false_ne_true, handedIn_snoc, queuedIn_snoc,
    List.append_assoc, hm, ← List.append_assoc, h]

theorem balanced_lasting : Lasting Balanced where
  queued {_ q} lines h := h.snoc rfl (congrArg (q.lines ++ ·) (Queue.batch_eq_filter lines))
  reset {past _} _ := by
    rw [Balanced, sinceReset_snoc]
    rfl
  asked h := h.snoc rfl (List.append_nil _).symm
  handed ht h := h.snoc rfl ((Queue.take?_lines ht).symm.trans (List.append_nil _).symm)
  ended _ _ _ h := h.snoc rfl (List.append_nil _).symm
  answered _ h := h.snoc rfl (List.append_nil _).symm

/-- At every point, counted from the last reset, the lines handed over and those that wait are the
lines queued, each once and in order. -/
theorem handed_once_in_order (script : Script) (delay start : Float) :
    (∀ p ∈ script.points (.fresh delay start),
      handedIn (sinceReset p.past) ++ p.desk.queue.lines = queuedIn (sinceReset p.past)) ∧
    Calls (script.events (.fresh delay start)) :=
  ⟨balanced_lasting.points script rfl, script.calls_events _⟩

/-- Inside the inner hand-over the books are balanced. -/
theorem balanced_inside : Calls (intrusion.events (.fresh 1.8 1000)) ∧
    handedIn (sinceReset innermost.past) ++ innermost.desk.queue.lines = ["d", "e"] ∧
      innermost.desk.queue.lines = ["e"] := by
  obtain ⟨hpoints, hcalls⟩ := handed_once_in_order intrusion 1.8 1000
  refine ⟨hcalls, ?_, by decide +kernel⟩
  rw [hpoints innermost innermost_mem]
  decide +kernel

end Banter.Delivery
