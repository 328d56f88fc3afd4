import Banter.Proofs.Number.Quotient
import Mathlib.Tactic.SplitIfs

/-!
What is drawn below a bound is below it, and each number below a bound can be drawn: where the draw is
a number of units, that number comes out, whatever the bound. What a computation reaches so is told by
the computations it is made of.
-/
namespace Banter.Draws

open Float.Model Banter.Binary64

theorem belowWithin_lt {n : Nat} (hn : 0 < n) (attempts : Nat) (d : Draws) :
    (belowWithin n attempts d).1 < n := by
  induction attempts generalizing d with
  | zero => exact hn
  | succ attempts ih =>
    unfold belowWithin
    dsimp only
    split_ifs
    · exact ih _
    · have hpos : (0 : Int) < n := Int.natCast_pos.mpr hn
      have hlo := Int.emod_nonneg (Binary64.floorScaled precision d.next.1) (Int.ne_of_gt hpos)
      have hhi := Int.emod_lt_of_pos (Binary64.floorScaled precision d.next.1) hpos
      omega

theorem below_lt {n : Nat} (hn : 0 < n) (d : Draws) : (d.below n).1 < n :=
  belowWithin_lt hn _ d

/-- The draw of so many units. -/
def unit (k : Nat) : Float :=
  Float.ofNat k / Float.ofNat units

theorem fairLimit_eq (n : Nat) : fairLimit n = unit (units - units % n) := rfl

theorem unpack_unit_zero : (unit 0).toModel.unpack = .zero .positive := rfl

theorem unit_units : unit units = 1 := by decide +kernel

theorem denotes_unit {k : Nat} (hpos : 0 < k) (hk : k ≤ units) :
    ∃ m, m * 2 ^ k.log2 = k * 2 ^ 52 ∧ Denotes (unit k) m ((k.log2 : Int) - 105) := by
  rcases Nat.lt_or_eq_of_le hk with hlt | rfl
  · have hlog : k.log2 < 53 := (Nat.log2_lt (Nat.ne_of_gt hpos)).mpr hlt
    have hexp : (k.log2 : Int) - 52 - 53 = k.log2 - 105 := by omega
    have hdivided := (denotes_ofNat hpos hlt).div_units (by omega) (by omega)
    rw [hexp] at hdivided
    refine ⟨_, ?_, hdivided⟩
    have hwidth : 52 - k.log2 + k.log2 = 52 := by omega
    rw [Nat.mul_assoc, ← Nat.pow_add, hwidth]
  · have hone := denotes_units.div_units (by decide) (by decide)
    exact ⟨2 ^ 52, by decide +kernel, hone⟩

/-- More units are more, at the same exponent by the significand and else by the exponent. -/
theorem unit_lt_unit {j k : Nat} (hjk : j < k) (hk : k ≤ units) : unit j < unit k := by
  obtain ⟨m, hm, hdenotes⟩ := denotes_unit (Nat.zero_lt_of_lt hjk) hk
  obtain ⟨hpos, hreads⟩ := hdenotes.reads
  rw [lt_iff, hreads]
  rcases Nat.eq_zero_or_pos j with rfl | hj
  · rw [unpack_unit_zero]
    rfl
  · obtain ⟨m', hm', hdenotes'⟩ := denotes_unit hj (by omega)
    obtain ⟨hpos', hreads'⟩ := hdenotes'.reads
    have hlog : j.log2 ≤ k.log2 := by
      rw [Nat.le_log2 (by omega)]
      exact Nat.le_trans (Nat.log2_self_le (by omega)) hjk.le
    rw [hreads']
    show some ((compare ((j.log2 : Int) - 105) ((k.log2 : Int) - 105)).then (compare m' m)) = _
    rcases Nat.lt_or_eq_of_le hlog with hlt | heq
    · rw [Int.compare_eq_lt.mpr (by omega)]
      rfl
    · have hless : m' < m := by
        rw [heq] at hm'
        refine Nat.lt_of_mul_lt_mul_right (a := 2 ^ k.log2) ?_
        rw [hm, hm']
        exact Nat.mul_lt_mul_of_pos_right hjk (Nat.two_pow_pos 52)
      rw [heq, Nat.compare_eq_lt.mpr hless]
      simp

theorem floorScaled_unit {j : Nat} (hj : j < units) : floorScaled precision (unit j) = j := by
  rcases Nat.eq_zero_or_pos j with rfl | hpos
  · decide +kernel
  · obtain ⟨m, hm, hdenotes⟩ := denotes_unit hpos (Nat.le_of_lt hj)
    obtain ⟨hsign, hsig, hexp⟩ := hdenotes.magnitude
    have hlog : j.log2 < 53 := (Nat.log2_lt (Nat.ne_of_gt hpos)).mpr hj
    have hscaled : m = j * 2 ^ (52 - j.log2) := by
      have hwidth : 52 - j.log2 + j.log2 = 52 := by omega
      refine Nat.eq_of_mul_eq_mul_right (Nat.two_pow_pos j.log2) ?_
      rw [hm, Nat.mul_assoc, ← Nat.pow_add, hwidth]
    have hsum : (j.log2 : Int) - 105 + precision = (j.log2 : Int) - 52 := by
      show (j.log2 : Int) - 105 + 53 = _
      omega
    rw [floorScaled, hsign, hsig, hexp, hsum, hscaled, if_neg Bool.false_ne_true]
    split_ifs with hwhole
    · have hfull : j.log2 = 52 := by omega
      rw [hfull]
      show ((j * 2 ^ 0 : Nat) : Int) * ((2 ^ 0 : Nat) : Int) = j
      simp
    · have hshift : (-((j.log2 : Int) - 52)).toNat = 52 - j.log2 := by omega
      rw [hshift]
      show ((j * 2 ^ (52 - j.log2) : Nat) : Int) / ((2 ^ (52 - j.log2) : Nat) : Int) = j
      rw [← Int.natCast_ediv, Nat.mul_div_cancel _ (Nat.two_pow_pos _)]

theorem unit_mem_interval {j : Nat} (hj : j < units) : 0 ≤ unit j ∧ unit j < 1 := by
  refine ⟨?_, unit_units ▸ unit_lt_unit hj (Nat.le_refl units)⟩
  rcases Nat.eq_zero_or_pos j with rfl | hpos
  · decide +kernel
  · have hzero := unit_lt_unit hpos (Nat.le_of_lt hj)
    rw [lt_iff, unpack_unit_zero] at hzero
    exact le_iff.mpr ⟨_, hzero, rfl⟩

theorem below_unit {j n : Nat} (hj : j < n) (hn : n ≤ units) (more : List Float)
    (cycled used : Nat) :
    below n ⟨unit j :: more, cycled, used⟩ = (j, ⟨more, cycled, used + 1⟩) := by
  have hunits : j < units := Nat.lt_of_lt_of_le hj hn
  have hwhole : n ≤ units - units % n := by
    have hdivided := Nat.div_add_mod units n
    have honce : n * 1 ≤ n * (units / n) := Nat.mul_le_mul_left n (Nat.div_pos hn (by omega))
    omega
  have hfair : ¬ fairLimit n ≤ unit j := by
    have hlt := unit_lt_unit (Nat.lt_of_lt_of_le hj hwhole) (Nat.sub_le _ _)
    obtain ⟨hnum, hnum'⟩ := isNaN_of_lt hlt
    rw [fairLimit_eq]
    exact (not_le_iff hnum' hnum).mpr hlt
  have hattempts : patience ⟨unit j :: more, cycled, used⟩ = more.length + cycleLength + 1 := by
    rw [patience, List.length_cons]
    omega
  rw [below, hattempts, belowWithin]
  dsimp only [next]
  rw [if_neg hfair, floorScaled_unit hunits, ← Int.natCast_emod, Nat.mod_eq_of_lt hj, Int.toNat_natCast]

/-- Some draws from the unit interval make it come out so, whatever is drawn next. -/
def Reaches {β : Type} (f : Draws → β × Draws) (b : β) : Prop :=
  ∃ script : List Float, (∀ x ∈ script, 0 ≤ x ∧ x < 1) ∧ ∀ more cycled used,
    f ⟨script ++ more, cycled, used⟩ = (b, ⟨more, cycled, used + script.length⟩)

section Reaches

variable {β γ δ : Type} {f : Draws → β × Draws} {g : Draws → γ × Draws} {h : Draws → δ × Draws}
  {b : β} {c : γ} {e : δ}

theorem reaches_of_forall_eq (heq : ∀ d, f d = (b, d)) : Reaches f b :=
  ⟨[], fun _ hx => absurd hx List.not_mem_nil, fun more cycled used => heq ⟨more, cycled, used⟩⟩

theorem Reaches.imp (hf : Reaches f b) (heq : ∀ d d', f d = (b, d') → g d = (c, d')) :
    Reaches g c := by
  obtain ⟨script, hunit, hrun⟩ := hf
  exact ⟨script, hunit, fun more cycled used => heq _ _ (hrun more cycled used)⟩

theorem Reaches.bind (hf : Reaches f b) (hg : Reaches g c)
    (heq : ∀ d d' d'', f d = (b, d') → g d' = (c, d'') → h d = (e, d'')) : Reaches h e := by
  obtain ⟨script, hunit, hrun⟩ := hf
  obtain ⟨script', hunit', hrun'⟩ := hg
  refine ⟨script ++ script', List.forall_mem_append.mpr ⟨hunit, hunit'⟩, fun more cycled used => ?_⟩
  rw [List.append_assoc, List.length_append, ← Nat.add_assoc]
  exact heq _ _ _ (hrun _ cycled used) (hrun' more cycled _)

theorem reaches_below {j n : Nat} (hj : j < n) (hn : n ≤ units) : Reaches (below n) j := by
  have hunit : ∀ x ∈ [unit j], 0 ≤ x ∧ x < 1 := by
    rw [List.forall_mem_singleton]
    exact unit_mem_interval (Nat.lt_of_lt_of_le hj hn)
  exact ⟨[unit j], hunit, below_unit hj hn⟩

end Reaches

end Banter.Draws
