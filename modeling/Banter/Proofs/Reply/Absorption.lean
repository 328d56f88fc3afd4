import Banter.Proofs.Selection
import Banter.Proofs.Text.Layout
import Banter.Reply.Absorption

/-! What absorbing an outcome does to the queue and the host. -/
namespace Banter.Reply

variable {σ : Type} [Host σ]

theorem ne_empty_of_mem_prepareLines {text line : String} {s : Activity.Snapshot} {d : Draws}
    (h : line ∈ (prepareLines text s d).1) : line ≠ "" :=
  Text.ne_empty_of_mem_segment ((Selection.limitParts_sublist _ _ _).subset h)

/-- Nothing that is prepared is lost on the way into the queue. -/
theorem batch_prepareLines (text : String) (s : Activity.Snapshot) (d : Draws) :
    Delivery.Queue.batch (prepareLines text s d).1 = (prepareLines text s d).1 := by
  apply List.filter_eq_self.mpr
  intro line hl
  have hne := ne_empty_of_mem_prepareLines hl
  simpa using hne

/-- Either the outcome changes nothing but the journal, or all its lines are queued, each with its
emote performed first. -/
theorem absorb_cases {now : Float} {s : Activity.Snapshot} {o : Outcome} {q : Delivery.Queue}
    {d : Draws} {host : σ} {a : Absorbed σ} (h : absorb now s o q d host = .ok a) :
    (a.lines = [] ∧ a.queue = q ∧ a.draws = d ∧ a.host = host) ∨
      (a.lines ≠ [] ∧ a.queue = { q with lines := q.lines ++ a.lines } ∧
        a.host = (performAll now a.lines host).1) := by
  unfold absorb at h
  split at h
  · cases h
  · cases h
    exact .inl ⟨rfl, rfl, rfl, rfl⟩
  · next reply _ =>
    have hbatch := batch_prepareLines reply.text s d
    split at h
    · cases h
      exact .inl ⟨rfl, rfl, rfl, rfl⟩
    · next lines d' hne hp =>
      rw [hp] at hbatch
      cases h
      refine .inr ⟨hne, ?_, rfl⟩
      simp only [Delivery.Queue.enqueue, hbatch]

theorem absorb_queue {now : Float} {s : Activity.Snapshot} {o : Outcome} {q : Delivery.Queue}
    {d : Draws} {host : σ} {a : Absorbed σ} (h : absorb now s o q d host = .ok a) :
    a.queue = { q with lines := q.lines ++ a.lines } := by
  obtain ⟨hl, hq, -, -⟩ | ⟨-, hq, -⟩ := absorb_cases h
  · rw [hq, hl, List.append_nil]
  · exact hq

theorem absorb_host {now : Float} {s : Activity.Snapshot} {o : Outcome} {q : Delivery.Queue}
    {d : Draws} {host : σ} {a : Absorbed σ} (h : absorb now s o q d host = .ok a) :
    a.host = (performAll now a.lines host).1 := by
  obtain ⟨hl, -, -, hh⟩ | ⟨-, -, hh⟩ := absorb_cases h
  · rw [hh, hl]
    rfl
  · exact hh

theorem length_absorb_lines_le {now : Float} {s : Activity.Snapshot} {o : Outcome}
    {q : Delivery.Queue} {d : Draws} {host : σ} {a : Absorbed σ}
    (h : absorb now s o q d host = .ok a) : a.lines.length ≤ Selection.mostParts := by
  unfold absorb at h
  split at h
  · cases h
  · cases h
    exact Nat.zero_le _
  · next reply _ =>
    have hprepared : (prepareLines reply.text s d).1.length ≤ Selection.mostParts :=
      Selection.length_limitParts_le _ _ _
    split at h
    · cases h
      exact Nat.zero_le _
    · next hp =>
      rw [hp] at hprepared
      cases h
      exact hprepared

end Banter.Reply
