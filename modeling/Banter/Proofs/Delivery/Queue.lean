import Banter.Delivery.Queue
import Mathlib.Tactic.SplitIfs

/-! When a queue gives a line away, and what is left of it. -/
namespace Banter.Delivery.Queue

theorem batch_eq_filter (lines : List String) : batch lines = lines.filter (· ≠ "") := by
  apply List.filter_congr
  intro line _
  rw [Bool.eq_iff_iff]
  simp

variable {q taken : Queue} {now : Float} {line : String}

/-- A line is taken just if it is the first, none is under way and the pause has passed. -/
theorem take?_eq_some_iff : q.take? now = some (line, taken) ↔
    q.busy = false ∧ q.ready now = true ∧
      ∃ rest, q.lines = line :: rest ∧
        taken = { q with lines := rest, lastSent := line, busy := true } := by
  unfold take?
  constructor
  · intro h
    cases hl : q.lines with
    | nil => simp [hl] at h
    | cons first rest =>
      rw [hl] at h
      dsimp only at h
      split_ifs at h with hclosed
      simp only [Bool.or_eq_true, Bool.not_eq_true', not_or, Bool.not_eq_true,
        Bool.not_eq_false] at hclosed
      cases h
      exact ⟨hclosed.1, hclosed.2, rest, rfl, rfl⟩
  · rintro ⟨hbusy, hready, rest, hl, rfl⟩
    rw [hl]
    simp [hbusy, hready]

theorem take?_lines (h : q.take? now = some (line, taken)) : q.lines = line :: taken.lines := by
  obtain ⟨-, -, rest, hl, rfl⟩ := take?_eq_some_iff.mp h
  exact hl

theorem delay_take? (h : q.take? now = some (line, taken)) : taken.delay = q.delay := by
  obtain ⟨-, -, rest, -, rfl⟩ := take?_eq_some_iff.mp h
  rfl

end Banter.Delivery.Queue
