import Mathlib.Data.List.DropRight
import Mathlib.Data.List.Nodup

/-! Histories, which grow at their end, and how much of them is remembered. -/
namespace Banter

/-- The newest item of a history is the one in question, or it comes later than that. -/
theorem snoc_eq_append_cons_iff {α : Type} {past before after : List α} {newest item : α} :
    past ++ [newest] = before ++ item :: after ↔
      (past = before ∧ newest = item ∧ after = []) ∨
        ∃ between, after = between ++ [newest] ∧ past = before ++ item :: between := by
  constructor
  · intro h
    rcases List.eq_nil_or_concat after with rfl | ⟨between, last, rfl⟩
    · obtain ⟨hpast, hnewest⟩ := List.append_inj' h rfl
      exact .inl ⟨hpast, (List.cons.inj hnewest).1, rfl⟩
    · rw [List.concat_eq_append, ← List.cons_append, ← List.append_assoc] at h
      obtain ⟨hpast, hnewest⟩ := List.append_inj' h rfl
      obtain rfl := (List.cons.inj hnewest).1
      exact .inr ⟨between, List.concat_eq_append, hpast⟩
  · rintro (⟨rfl, rfl, rfl⟩ | ⟨between, rfl, rfl⟩)
    · rfl
    · simp

theorem rtake_cons_of_le {α : Type} (x : α) {xs : List α} {n : Nat} (h : n ≤ xs.length) :
    (x :: xs).rtake n = xs.rtake n := by
  rw [List.rtake, List.length_cons, Nat.succ_sub h, List.drop_succ_cons, List.rtake]

theorem rtake_of_length_le {α : Type} {xs : List α} {n : Nat} (h : xs.length ≤ n) :
    xs.rtake n = xs := by
  rw [List.rtake, Nat.sub_eq_zero_of_le h, List.drop_zero]

theorem map_rtake {α β : Type} (f : α → β) (xs : List α) (n : Nat) :
    (xs.rtake n).map f = (xs.map f).rtake n := by
  rw [List.rtake, List.rtake, List.map_drop, List.length_map]

theorem rtake_snoc_rtake {α : Type} (xs : List α) (x : α) (n : Nat) :
    (xs.rtake n ++ [x]).rtake n = (xs ++ [x]).rtake n := by
  cases n with
  | zero => rw [List.rtake_zero, List.rtake_zero]
  | succ n =>
    rw [List.rtake_concat_succ, List.rtake_concat_succ]
    simp [List.rtake_eq_reverse_take_reverse, List.take_take]

theorem nodup_eraseDups {α : Type} [BEq α] [LawfulBEq α] (names : List α) :
    names.eraseDups.Nodup := by
  induction hn : names.length using Nat.strong_induction_on generalizing names with
  | _ n ih =>
    cases names with
    | nil => exact List.nodup_nil
    | cons name rest =>
      have hshorter : (rest.filter fun other => !other == name).length < n := by
        rw [← hn, List.length_cons]
        exact Nat.lt_succ_of_le (List.length_filter_le _ rest)
      rw [List.eraseDups_cons, List.nodup_cons, List.mem_eraseDups]
      exact ⟨by simp, ih _ hshorter _ rfl⟩

end Banter
