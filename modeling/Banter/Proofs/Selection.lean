import Banter.Proofs.Draws
import Banter.Selection
import Mathlib.Data.List.Perm.Basic
import Mathlib.Data.List.Sort

/-!
Whatever is drawn, a selection leaves items out and never repeats or reorders them: it is told by a
sample of the places, in ascending order. It never leaves out all.
-/
namespace Banter.Selection

variable {α : Type}

/-- So many different indexes below `n`. -/
structure IsSample (n count : Nat) (indexes : List Nat) : Prop where
  nodup : indexes.Nodup
  lt : ∀ i ∈ indexes, i < n
  length : indexes.length = count

theorem perm_set_dropLast {pool : List Nat} {j last : Nat} (hj : j < pool.length)
    (hlast : pool.getLast? = some last) :
    pool.Perm (pool[j] :: (pool.set j last).dropLast) := by
  obtain ⟨front, rfl⟩ := List.getLast?_eq_some_iff.mp hlast
  rw [List.length_append, List.length_singleton] at hj
  rcases Nat.lt_succ_iff_lt_or_eq.mp hj with hfront | rfl
  · rw [List.getElem_append_left hfront, List.set_append_left _ _ hfront, List.dropLast_concat]
    have hdrawn := List.getElem_cons_eraseIdx_perm hfront
    have hfilled := List.set_perm_cons_eraseIdx hfront last
    have hfront' : front.Perm (front[j] :: front.eraseIdx j) := hdrawn.symm
    have hrest : (last :: front.eraseIdx j).Perm (front.set j last) := hfilled.symm
    exact (List.perm_append_singleton last front).trans
      ((hfront'.cons last).trans ((List.Perm.swap _ _ _).trans (hrest.cons front[j])))
  · simp

theorem fromPool_succ {count j x last : Nat} {pool : List Nat} {d d' : Draws}
    (hbelow : d.below pool.length = (j, d')) (hdrawn : pool[j]? = some x)
    (hlast : pool.getLast? = some last) :
    fromPool (count + 1) pool d =
      (x :: (fromPool count (pool.set j last).dropLast d').1,
        (fromPool count (pool.set j last).dropLast d').2) := by
  rw [fromPool, hbelow]
  dsimp only
  rw [hdrawn, hlast]

/-- What is taken from a pool and what stays in it make up the pool. -/
theorem exists_perm_fromPool (count : Nat) (pool : List Nat) (d : Draws)
    (hcount : count ≤ pool.length) :
    ∃ left, pool.Perm ((fromPool count pool d).1 ++ left) ∧
      (fromPool count pool d).1.length = count := by
  induction count generalizing pool d with
  | zero => exact ⟨pool, List.Perm.refl _, rfl⟩
  | succ count ih =>
    have hpool : pool ≠ [] := List.ne_nil_of_length_pos (by omega)
    have hj : (d.below pool.length).1 < pool.length := d.below_lt (by omega)
    have hdrawn := List.getElem?_eq_getElem hj
    have hlast := List.getLast?_eq_some_getLast hpool
    have hperm := perm_set_dropLast hj hlast
    have hleft : count ≤
        ((pool.set (d.below pool.length).1 (pool.getLast hpool)).dropLast).length := by
      rw [List.length_dropLast, List.length_set]
      omega
    obtain ⟨left, hrest, hlength⟩ := ih _ (d.below pool.length).2 hleft
    rw [fromPool_succ rfl hdrawn hlast]
    exact ⟨left, hperm.trans (hrest.cons _), congrArg Nat.succ hlength⟩

theorem freshIndex_of_not_mem {n j : Nat} {taken : List Nat} {d d' : Draws}
    (hbelow : d.below n = (j, d')) (hnew : j ∉ taken) :
    freshIndex n taken d.patience d = (j, d') := by
  have hattempts : d.patience = d.script.length + 15 + 1 := rfl
  have hfree : ¬ taken.contains j = true := fun hj => hnew (List.contains_iff_mem.mp hj)
  rw [hattempts, freshIndex, hbelow]
  exact if_neg hfree

theorem freshIndex_lt {n : Nat} (hn : 0 < n) (taken : List Nat) (attempts : Nat) (d : Draws) :
    (freshIndex n taken attempts d).1 < n := by
  induction attempts generalizing d with
  | zero =>
    unfold freshIndex
    cases hfound : (List.range n).find? fun i => !taken.contains i with
    | none => exact hn
    | some i => exact List.mem_range.mp (List.mem_of_find?_eq_some hfound)
  | succ attempts ih =>
    unfold freshIndex
    dsimp only
    split_ifs
    · exact ih _
    · exact d.below_lt hn

theorem freshIndex_not_mem {n : Nat} {taken : List Nat} (hroom : taken.length < n) (attempts : Nat)
    (d : Draws) : (freshIndex n taken attempts d).1 ∉ taken := by
  induction attempts generalizing d with
  | zero =>
    unfold freshIndex
    cases hfound : (List.range n).find? fun i => !taken.contains i with
    | none =>
      -- As many indexes as there are cannot all be taken.
      have hall : List.range n ⊆ taken := fun i hi => by
        simpa using List.find?_eq_none.mp hfound i hi
      have hlength := List.nodup_range.length_le_of_subset hall
      rw [List.length_range] at hlength
      omega
    | some i => simpa using List.find?_some hfound
  | succ attempts ih =>
    unfold freshIndex
    dsimp only
    split_ifs with hdrawn
    · exact ih _
    · simpa using hdrawn

theorem IsSample.distinct {n held : Nat} {taken : List Nat} (h : IsSample n held taken) (count : Nat)
    (hroom : held + count ≤ n) (d : Draws) :
    IsSample n (held + count) (distinct n count taken d).1 := by
  induction count generalizing held taken d with
  | zero => exact h
  | succ count ih =>
    have hfree : taken.length < n := by rw [h.length]; omega
    have hone : IsSample n (held + 1) ((freshIndex n taken d.patience d).1 :: taken) :=
      ⟨List.nodup_cons.mpr ⟨freshIndex_not_mem hfree _ d, h.nodup⟩,
        List.forall_mem_cons.mpr ⟨freshIndex_lt (by omega) taken _ d, h.lt⟩,
        congrArg Nat.succ h.length⟩
    have hrest := ih hone (by omega) (freshIndex n taken d.patience d).2
    rwa [Nat.add_right_comm] at hrest

theorem isSample_sample {n count : Nat} (h : count ≤ n) (d : Draws) :
    IsSample n count (sample n count d).1 := by
  unfold sample
  split_ifs
  · have hroom : count ≤ (List.range n).length := by rwa [List.length_range]
    obtain ⟨left, hperm, hlength⟩ := exists_perm_fromPool count (List.range n) d hroom
    refine ⟨?_, fun i hi => ?_, hlength⟩
    · exact (List.nodup_append.mp (hperm.nodup_iff.mp List.nodup_range)).1
    · exact List.mem_range.mp (hperm.mem_iff.mpr (List.mem_append_left _ hi))
  · have hnone : IsSample n 0 [] := ⟨List.nodup_nil, fun _ hi => absurd hi List.not_mem_nil, rfl⟩
    have hdistinct := hnone.distinct count (by omega) d
    rwa [Nat.zero_add] at hdistinct

/-- The places that a list of indexes names, in ascending order. -/
def places (n : Nat) (indexes : List Nat) : List (Fin n) :=
  (List.finRange n).filter fun i => indexes.contains i.val

theorem zipIdx_eq_map (items : List α) :
    items.zipIdx = (List.finRange items.length).map fun i => (items.get i, i.val) := by
  refine List.ext_getElem (by simp) fun i hi hi' => ?_
  simp

theorem pick_eq_map (items : List α) (indexes : List Nat) :
    pick items indexes = (places items.length indexes).map items.get := by
  rw [pick, zipIdx_eq_map, List.filter_map, List.map_map]
  rfl

theorem pairwise_places (n : Nat) (indexes : List Nat) : (places n indexes).Pairwise (· < ·) :=
  (List.sortedLT_finRange n).pairwise.filter _

theorem IsSample.perm_places {n count : Nat} {indexes : List Nat} (h : IsSample n count indexes) :
    ((places n indexes).map Fin.val).Perm indexes := by
  have honce : ((places n indexes).map Fin.val).Nodup :=
    ((List.nodup_finRange n).filter _).map Fin.val_injective
  rw [List.perm_ext_iff_of_nodup honce h.nodup]
  intro i
  constructor
  · intro hi
    obtain ⟨place, hplace, rfl⟩ := List.mem_map.mp hi
    exact List.contains_iff_mem.mp (List.mem_filter.mp hplace).2
  · intro hi
    refine List.mem_map.mpr ⟨⟨i, h.lt i hi⟩, List.mem_filter.mpr ⟨List.mem_finRange _, ?_⟩, rfl⟩
    exact List.contains_iff_mem.mpr hi

theorem places_eq {n : Nat} {indexes : List Nat} {chosen : List (Fin n)}
    (hascending : chosen.Pairwise (· < ·)) (hperm : (chosen.map Fin.val).Perm indexes) :
    places n indexes = chosen := by
  refine (pairwise_places n indexes).sortedLT.eq_of_mem_iff hascending.sortedLT fun i => ?_
  have hnamed : i.val ∈ indexes ↔ i ∈ chosen := by
    rw [← hperm.mem_iff, List.mem_map_of_injective Fin.val_injective]
  simp [places, hnamed]

theorem limitParts_busy (parts : List α) {participants : Int} (d : Draws)
    (h : (Activity.quietLimit : Int) < participants) :
    limitParts parts participants d = (parts.take 1, d) := by
  unfold limitParts
  cases parts with
  | nil => rfl
  | cons first rest => exact if_pos h

theorem limitParts_of_below {parts : List α} (hparts : parts ≠ []) {participants : Int}
    (hquiet : participants ≤ (Activity.quietLimit : Int)) {d d' : Draws} {extra : Nat}
    (hbelow : d.below mostParts = (extra, d')) :
    limitParts parts participants d =
      if parts.length ≤ 1 + extra then (parts, d')
      else (pick parts (sample parts.length (1 + extra) d').1,
        (sample parts.length (1 + extra) d').2) := by
  have hcalm : ¬ (Activity.quietLimit : Int) < participants := Int.not_lt.mpr hquiet
  cases parts with
  | nil => exact absurd rfl hparts
  | cons first rest =>
    unfold limitParts
    dsimp only
    rw [if_neg hcalm, hbelow]
    dsimp only
    by_cases hall : (first :: rest).length ≤ 1 + extra
    · rw [if_pos hall, if_pos (Nat.le_min.mpr ⟨hall, Nat.le_refl _⟩)]
    · rw [if_neg hall, if_neg fun h => hall (Nat.le_min.mp h).1,
        Nat.min_eq_left (Nat.le_of_not_le hall)]

theorem limitParts_quiet {parts : List α} (hparts : parts ≠ []) {participants : Int} (d : Draws)
    (hquiet : participants ≤ (Activity.quietLimit : Int)) :
    ∃ chosen : List (Fin parts.length), chosen.Pairwise (· < ·) ∧
      chosen.length = min (1 + (d.below mostParts).1) parts.length ∧
      (limitParts parts participants d).1 = chosen.map parts.get := by
  obtain ⟨extra, d', hbelow⟩ : ∃ extra d', d.below mostParts = (extra, d') := ⟨_, _, rfl⟩
  rw [limitParts_of_below hparts hquiet hbelow, hbelow]
  split_ifs with hall
  · refine ⟨List.finRange _, (List.sortedLT_finRange _).pairwise, ?_, ?_⟩
    · rw [List.length_finRange, Nat.min_eq_right hall]
    · rw [List.map_get_finRange]
  · have hsample := isSample_sample (Nat.le_of_not_le hall) d'
    have hlength := hsample.perm_places.length_eq
    rw [List.length_map, hsample.length] at hlength
    refine ⟨_, pairwise_places _ _, ?_, pick_eq_map _ _⟩
    rw [hlength, Nat.min_eq_left (Nat.le_of_not_le hall)]

/-- Nothing is said of no parts, the first in a busy channel, and else as many as a number from one
to three that is drawn, at places in ascending order. -/
theorem limitParts_by_places (parts : List α) (participants : Int) (d : Draws) :
    (parts = [] → limitParts parts participants d = ([], d)) ∧
    (∀ first rest, parts = first :: rest → 5 < participants →
      limitParts parts participants d = ([first], d)) ∧
    (parts ≠ [] → participants ≤ 5 →
      ∃ k, k = 1 + (d.below 3).1 ∧ 1 ≤ k ∧ k ≤ 3 ∧
        (∃ chosen : List (Fin parts.length), chosen.Pairwise (· < ·) ∧
          chosen.length = min k parts.length ∧
          (limitParts parts participants d).1 = chosen.map parts.get) ∧
        (parts.length ≤ k → (limitParts parts participants d).1 = parts)) := by
  refine ⟨?empty, ?busy, ?quiet⟩
  case empty =>
    rintro rfl
    rfl
  case busy =>
    rintro first rest rfl hbusy
    exact limitParts_busy (first :: rest) d hbusy
  case quiet =>
    intro hparts hquiet
    have hdrawn : (d.below 3).1 < 3 := d.below_lt (by decide)
    refine ⟨_, rfl, by omega, by omega, limitParts_quiet hparts d hquiet, fun hall => ?_⟩
    rw [limitParts_of_below hparts hquiet rfl]
    exact congrArg Prod.fst (if_pos hall)

/-- Two of twenty-four lines, which read alike at the places that are drawn. The third draw names the
place of the second, so that one more is taken. -/
theorem limitParts_by_places_of_long :
    let parts := (List.range 24).map (· % 8)
    let d := Draws.ofScript [0.5, 0.25, 0.25, 0.125]
    (parts ≠ [] ∧ (5 : Int) ≤ 5) ∧
      (limitParts parts 5 d).1 = [0, 0] ∧
      ∃ k, k = 1 + (d.below 3).1 ∧ 1 ≤ k ∧ k ≤ 3 ∧
        (∃ chosen : List (Fin parts.length), chosen.Pairwise (· < ·) ∧
          chosen.length = min k parts.length ∧
          (limitParts parts 5 d).1 = chosen.map parts.get) ∧
        (parts.length ≤ k → (limitParts parts 5 d).1 = parts) :=
  ⟨by decide, by decide +kernel,
    (limitParts_by_places _ 5 (Draws.ofScript [0.5, 0.25, 0.25, 0.125])).2.2 (by decide) (by decide)⟩

theorem limitParts_sublist (parts : List α) (participants : Int) (d : Draws) :
    (limitParts parts participants d).1.Sublist parts := by
  by_cases hbusy : (Activity.quietLimit : Int) < participants
  · rw [limitParts_busy parts d hbusy]
    exact List.take_sublist 1 parts
  · cases parts with
    | nil => exact List.Sublist.refl _
    | cons first rest =>
      obtain ⟨chosen, hascending, -, hsaid⟩ :=
        limitParts_quiet (List.cons_ne_nil first rest) d (Int.not_lt.mp hbusy)
      rw [hsaid]
      exact List.map_getElem_sublist hascending

theorem limitParts_ne_nil {parts : List α} (h : parts ≠ []) (participants : Int) (d : Draws) :
    (limitParts parts participants d).1 ≠ [] := by
  have hpos := List.length_pos_iff.mpr h
  refine List.ne_nil_of_length_pos ?_
  by_cases hbusy : (Activity.quietLimit : Int) < participants
  · rw [limitParts_busy parts d hbusy, List.length_take]
    omega
  · obtain ⟨chosen, -, hlength, hsaid⟩ := limitParts_quiet h d (Int.not_lt.mp hbusy)
    rw [hsaid, List.length_map, hlength]
    omega

theorem limitParts_of_nil {parts : List α} {participants : Int} {d : Draws}
    (h : (limitParts parts participants d).1 = []) :
    limitParts parts participants d = ([], d) := by
  cases parts with
  | nil => rfl
  | cons first rest =>
    exact absurd h (limitParts_ne_nil (List.cons_ne_nil first rest) participants d)

theorem length_limitParts_le (parts : List α) (participants : Int) (d : Draws) :
    (limitParts parts participants d).1.length ≤ mostParts := by
  by_cases hbusy : (Activity.quietLimit : Int) < participants
  · rw [limitParts_busy parts d hbusy]
    exact Nat.le_trans (List.length_take_le 1 parts) (by decide)
  · cases parts with
    | nil => exact Nat.zero_le _
    | cons first rest =>
      have hdrawn : (d.below mostParts).1 < mostParts := d.below_lt (by decide)
      obtain ⟨chosen, -, hlength, hsaid⟩ :=
        limitParts_quiet (List.cons_ne_nil first rest) d (Int.not_lt.mp hbusy)
      rw [hsaid, List.length_map, hlength]
      omega

end Banter.Selection
