import Banter.Proofs.Selection

/-!
No selection of up to three parts is left out by chance: for each there are draws that lead to it, in a
short list and in a long one.
-/
namespace Banter.Selection

open Draws

variable {α : Type}

theorem reaches_fromPool {targets pool : List Nat} (honce : targets.Nodup) (hmem : targets ⊆ pool)
    (hfew : pool.length ≤ units) : Reaches (fromPool targets.length pool) targets := by
  induction targets generalizing pool with
  | nil => exact reaches_of_forall_eq fun _ => rfl
  | cons target rest ih =>
    obtain ⟨hnew, hrestonce⟩ := List.nodup_cons.mp honce
    have hin : target ∈ pool := hmem List.mem_cons_self
    have hj : pool.idxOf target < pool.length := List.idxOf_lt_length_of_mem hin
    have hdrawn : pool[pool.idxOf target]? = some target := List.getElem?_idxOf hin
    obtain ⟨last, hlast⟩ : ∃ last, pool.getLast? = some last :=
      ⟨_, List.getLast?_eq_some_getLast (List.ne_nil_of_mem hin)⟩
    have hperm := perm_set_dropLast hj hlast
    rw [List.getElem_idxOf] at hperm
    have hrest : rest ⊆ (pool.set (pool.idxOf target) last).dropLast := by
      intro i hi
      have hother : i ≠ target := fun h => hnew (h ▸ hi)
      have hpool := hperm.mem_iff.mp (hmem (List.mem_cons_of_mem target hi))
      exact (List.mem_cons.mp hpool).resolve_left hother
    have hleft : (pool.set (pool.idxOf target) last).dropLast.length ≤ units := by
      rw [List.length_dropLast, List.length_set]
      omega
    refine (reaches_below hj hfew).bind (ih hrestonce hrest hleft) fun d d' d'' hbelow htaken => ?_
    rw [List.length_cons, fromPool_succ hbelow hdrawn hlast, htaken]

theorem reaches_distinct {n : Nat} {targets taken : List Nat} (honce : (targets ++ taken).Nodup)
    (hmem : ∀ i ∈ targets, i < n) (hfew : n ≤ units) :
    Reaches (distinct n targets.length taken) (targets.reverse ++ taken) := by
  induction targets generalizing taken with
  | nil => exact reaches_of_forall_eq fun _ => rfl
  | cons target rest ih =>
    obtain ⟨htarget, hrestlt⟩ := List.forall_mem_cons.mp hmem
    have hnew : target ∉ taken := fun h =>
      (List.nodup_cons.mp honce).1 (List.mem_append_right rest h)
    have honce' : (rest ++ target :: taken).Nodup := List.nodup_middle.mpr honce
    refine (reaches_below htarget hfew).bind (ih honce' hrestlt) fun d d' d'' hbelow htaken => ?_
    rw [List.length_cons, distinct, freshIndex_of_not_mem hbelow hnew, List.reverse_cons,
      List.append_assoc]
    exact htaken

theorem IsSample.reaches {n count : Nat} {targets : List Nat} (h : IsSample n count targets)
    (hfew : n ≤ units) : ∃ indexes, targets.Perm indexes ∧ Reaches (sample n count) indexes := by
  obtain ⟨honce, hlt, rfl⟩ := h
  by_cases hpool : n ≤ poolLimit
  · have hmem : targets ⊆ List.range n := fun i hi => List.mem_range.mpr (hlt i hi)
    have hlength : (List.range n).length ≤ units := by rwa [List.length_range]
    refine ⟨targets, List.Perm.refl _, (reaches_fromPool honce hmem hlength).imp fun d d' hdrawn => ?_⟩
    rw [sample, if_pos hpool, hdrawn]
  · have honce' : (targets ++ []).Nodup := by rwa [List.append_nil]
    refine ⟨targets.reverse ++ [], ?_, (reaches_distinct honce' hlt hfew).imp fun d d' hdrawn => ?_⟩
    · rw [List.append_nil]
      exact (List.reverse_perm targets).symm
    · rw [sample, if_neg hpool, hdrawn]

theorem isSample_of_ascending {n : Nat} {chosen : List (Fin n)} (h : chosen.Pairwise (· < ·)) :
    IsSample n chosen.length (chosen.map Fin.val) :=
  ⟨h.nodup.map Fin.val_injective, List.forall_mem_map.mpr fun i _ => i.isLt, List.length_map _⟩

/-- In a quiet channel any one to three parts can be what is said. -/
theorem reaches_limitParts (parts : List α) (hfew : parts.length ≤ units) {participants : Int}
    (hquiet : participants ≤ (Activity.quietLimit : Int)) {chosen : List (Fin parts.length)}
    (hascending : chosen.Pairwise (· < ·)) (hsome : 1 ≤ chosen.length)
    (hmost : chosen.length ≤ mostParts) :
    Reaches (limitParts parts participants) (chosen.map parts.get) := by
  have hsublist : (chosen.map parts.get).Sublist parts := List.map_getElem_sublist hascending
  have hroom : chosen.length ≤ parts.length := by
    rw [← List.length_map parts.get]
    exact hsublist.length_le
  have hparts : parts ≠ [] := List.ne_nil_of_length_pos (by omega)
  have hcount : 1 + (chosen.length - 1) = chosen.length := by omega
  have hdrawn : Reaches (below mostParts) (chosen.length - 1) :=
    reaches_below (by omega) (by decide)
  by_cases hall : parts.length ≤ chosen.length
  · have hwhole : chosen.map parts.get = parts := by
      refine hsublist.eq_of_length_le ?_
      rwa [List.length_map]
    refine hdrawn.imp fun d d' hbelow => ?_
    rw [limitParts_of_below hparts hquiet hbelow, hcount, if_pos hall, hwhole]
  · obtain ⟨indexes, hperm, hreaches⟩ := (isSample_of_ascending hascending).reaches hfew
    refine hdrawn.bind hreaches fun d d' d'' hbelow hindexes => ?_
    rw [limitParts_of_below hparts hquiet hbelow, hcount, if_neg hall, hindexes, pick_eq_map,
      places_eq hascending hperm]

/-- Whichever one to three parts are wanted, finitely many draws lead to them and to nothing else. -/
theorem exists_script_limitParts (parts : List α) (hfew : parts.length < 2 ^ 53) {participants : Int}
    (hquiet : participants ≤ 5) (chosen : List (Fin parts.length))
    (hascending : chosen.Pairwise (· < ·)) (hsome : 1 ≤ chosen.length) (hmost : chosen.length ≤ 3) :
    ∃ script : List Float, (∀ x ∈ script, 0 ≤ x ∧ x < 1) ∧
      limitParts parts participants (Draws.ofScript script) =
        (chosen.map parts.get, ⟨[], 0, script.length⟩) := by
  obtain ⟨script, hunit, hrun⟩ :=
    reaches_limitParts parts (Nat.le_of_lt hfew) hquiet hascending hsome hmost
  refine ⟨script, hunit, ?_⟩
  have halone := hrun [] 0 0
  rwa [List.append_nil, Nat.zero_add] at halone

/-- Of twenty-five lines, which are too many for a pool, three that say the same. -/
theorem exists_script_three_of_many :
    let parts := (List.range 25).map (· % 7)
    let chosen : List (Fin 25) := [3, 17, 24]
    (parts.length < 2 ^ 53 ∧ (5 : Int) ≤ 5 ∧ chosen.Pairwise (· < ·) ∧ 1 ≤ chosen.length ∧
      chosen.length ≤ 3) ∧
      ∃ script : List Float, (∀ x ∈ script, 0 ≤ x ∧ x < 1) ∧
        limitParts parts 5 (Draws.ofScript script) = ([3, 3, 3], ⟨[], 0, script.length⟩) := by
  have hascending : ([3, 17, 24] : List (Fin 25)).Pairwise (· < ·) := by decide
  refine ⟨by decide, ?_⟩
  exact exists_script_limitParts ((List.range 25).map (· % 7)) (by decide) (Int.le_refl 5)
    ([3, 17, 24] : List (Fin 25)) hascending (by decide) (by decide)

end Banter.Selection
