import Mathlib.Order.Compare

/-! Doubles compare with each other, unless one of them is no number. -/
namespace Banter.Binary64

open Float.Model

theorem compare_finite_swap (e e' : Int) (m m' : Nat) :
    (compare e' e).then (compare m' m) = ((compare e e').then (compare m m')).swap := by
  rw [Ordering.swap_then, ← Std.OrientedOrd.eq_swap, ← Std.OrientedOrd.eq_swap]

theorem compare_swap (a b : UnpackedFloat) : b.compare a = (a.compare b).map Ordering.swap := by
  cases a with
  | notANumber => cases b <;> rfl
  | infinity s => cases s <;> rcases b with (_ | _) | _ | _ | ⟨_ | _, _⟩ <;> rfl
  | zero s => rcases b with (_ | _) | _ | _ | ⟨_ | _, _⟩ <;> rfl
  | finite s m e hm =>
    cases b with
    | notANumber => cases s <;> rfl
    | infinity s' => cases s <;> cases s' <;> rfl
    | zero s' => cases s <;> rfl
    | finite s' m' e' hm' =>
      have hswap := compare_finite_swap e e' m m'
      cases s <;> cases s'
      · exact congrArg (fun o => some o.swap) hswap
      · rfl
      · rfl
      · exact congrArg some hswap

theorem exists_compare {a b : UnpackedFloat} (ha : a.isNaN = false) (hb : b.isNaN = false) :
    ∃ o, a.compare b = some o := by
  cases a with
  | notANumber => cases ha
  | infinity s =>
    cases b with
    | notANumber => cases hb
    | infinity s' => cases s <;> cases s' <;> exact ⟨_, rfl⟩
    | zero s' => cases s <;> exact ⟨_, rfl⟩
    | finite s' m e hm => cases s <;> exact ⟨_, rfl⟩
  | zero s =>
    cases b with
    | notANumber => cases hb
    | infinity s' => cases s' <;> exact ⟨_, rfl⟩
    | zero s' => exact ⟨_, rfl⟩
    | finite s' m e hm => cases s' <;> exact ⟨_, rfl⟩
  | finite s m e hm =>
    cases b with
    | notANumber => cases hb
    | infinity s' => cases s <;> cases s' <;> exact ⟨_, rfl⟩
    | zero s' => cases s <;> exact ⟨_, rfl⟩
    | finite s' m' e' hm' => cases s <;> cases s' <;> exact ⟨_, rfl⟩

theorem compare_of_isNaN {a b : UnpackedFloat} (h : a.isNaN = true ∨ b.isNaN = true) :
    a.compare b = none := by
  rcases h with h | h
  · cases a with
    | notANumber => cases b <;> rfl
    | _ => cases h
  · cases b with
    | notANumber => rcases a with (_ | _) | _ | _ | ⟨_ | _, _⟩ <;> rfl
    | _ => cases h

theorem lt_iff {x y : Float} : x < y ↔ x.toModel.unpack.compare y.toModel.unpack = some .lt := by
  change decide (x.toModel < y.toModel) = true ↔ _
  rw [decide_eq_true_eq]
  exact beq_iff_eq

theorem le_iff {x y : Float} :
    x ≤ y ↔ ∃ o, x.toModel.unpack.compare y.toModel.unpack = some o ∧ o.isLE = true := by
  change decide (x.toModel ≤ y.toModel) = true ↔ _
  rw [decide_eq_true_eq]
  exact Option.any_eq_true _ _

/-- Of two numbers one is below the other, or it is not. -/
theorem not_le_iff {x y : Float} (hx : x.isNaN = false) (hy : y.isNaN = false) :
    ¬ x ≤ y ↔ y < x := by
  have hswap := compare_swap x.toModel.unpack y.toModel.unpack
  have hboth : ∃ o, x.toModel.unpack.compare y.toModel.unpack = some o := exists_compare hx hy
  obtain ⟨o, hcompared⟩ := hboth
  rw [le_iff, lt_iff, hswap, hcompared]
  cases o <;> simp

theorem isNaN_of_lt {x y : Float} (h : x < y) : x.isNaN = false ∧ y.isNaN = false := by
  by_contra hno
  rw [not_and_or, Bool.not_eq_false, Bool.not_eq_false] at hno
  have hcompared := lt_iff.mp h
  rw [compare_of_isNaN hno] at hcompared
  cases hcompared

end Banter.Binary64
