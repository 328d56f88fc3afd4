import Banter.Text.Span
import Mathlib.Data.List.Basic
import Mathlib.Data.Nat.Bitwise
import Mathlib.Order.Basic

/-! Sets of code points as numbers, so that what tables have in common is found in one step. -/
namespace Banter.Text

/-- The code points are the places of the bits. -/
def bits (ns : List Nat) : Nat :=
  ns.foldr (fun n set => 1 <<< n ||| set) 0

def spanBits (spans : List (Nat × Nat)) : Nat :=
  spans.foldr (fun s set => ((1 <<< (s.2 + 1 - s.1)) - 1) <<< s.1 ||| set) 0

theorem testBit_bits {ns : List Nat} {n : Nat} : (bits ns).testBit n = true ↔ n ∈ ns := by
  induction ns with
  | nil => simp [bits]
  | cons m rest ih =>
    have hone : (1 <<< m).testBit n = true ↔ n = m := by
      simp [Nat.shiftLeft_eq, Nat.testBit_two_pow, eq_comm]
    unfold bits at ih ⊢
    rw [List.foldr_cons, Nat.testBit_or, Bool.or_eq_true, hone, ih, List.mem_cons]

theorem testBit_spanBits {spans : List (Nat × Nat)} {n : Nat} :
    (spanBits spans).testBit n = true ↔ ∃ s ∈ spans, s.1 ≤ n ∧ n ≤ s.2 := by
  induction spans with
  | nil => simp [spanBits]
  | cons s rest ih =>
    have hone : (((1 <<< (s.2 + 1 - s.1)) - 1) <<< s.1).testBit n = true ↔ s.1 ≤ n ∧ n ≤ s.2 := by
      rw [Nat.testBit_shiftLeft, Nat.one_shiftLeft, Nat.testBit_two_pow_sub_one]
      simp
      omega
    unfold spanBits at ih ⊢
    rw [List.foldr_cons, Nat.testBit_or, Bool.or_eq_true, hone, ih, List.exists_mem_cons_iff]

theorem testBit_of_lor {a b n : Nat} (h : a ||| b = b) (ha : a.testBit n = true) :
    b.testBit n = true := by
  rw [← h, Nat.testBit_or, ha, Bool.true_or]

theorem testBit_of_land {a b n : Nat} (h : a &&& b = 0) (ha : a.testBit n = true) :
    b.testBit n = false := by
  have hboth := Nat.testBit_and a b n
  rw [h, Nat.zero_testBit, ha, Bool.true_and] at hboth
  exact hboth.symm

/-- Each span ends before the next one starts. -/
abbrev Ascending (spans : List (Nat × Nat)) : Prop :=
  spans.IsChain fun s t => s.1 ≤ s.2 ∧ s.2 < t.1

theorem Ascending.pairwise {spans : List (Nat × Nat)} (h : Ascending spans) :
    spans.Pairwise fun s t => s.1 ≤ s.2 ∧ s.2 < t.1 := by
  have htrans : IsTrans (Nat × Nat) fun s t => s.1 ≤ s.2 ∧ s.2 < t.1 :=
    ⟨fun s t u hst htu => ⟨hst.1, by omega⟩⟩
  exact List.isChain_iff_pairwise.mp h

theorem inSpans_iff {spans : List (Nat × Nat)} (h : Ascending spans) {n : Nat} :
    inSpans n spans = true ↔ ∃ s ∈ spans, s.1 ≤ n ∧ n ≤ s.2 := by
  have hpairs := h.pairwise
  clear h
  induction spans with
  | nil => simp [inSpans]
  | cons s rest ih =>
    obtain ⟨hfirst, hrest⟩ := List.pairwise_cons.mp hpairs
    obtain ⟨first, last⟩ := s
    have hlater := ih hrest
    rw [inSpans, List.exists_mem_cons_iff]
    by_cases hbefore : n < first
    · rw [if_pos hbefore]
      refine iff_of_false Bool.false_ne_true ?_
      rintro (⟨hin, -⟩ | ⟨t, ht, hin, -⟩)
      · exact absurd hin (Nat.not_le.mpr hbefore)
      · have horder := hfirst t ht
        dsimp only at horder
        omega
    · rw [if_neg hbefore, Bool.or_eq_true, decide_eq_true_eq]
      exact or_congr ⟨fun h => ⟨Nat.not_lt.mp hbefore, h⟩, fun h => h.2⟩ hlater

theorem inSpans_eq {spans : List (Nat × Nat)} (h : Ascending spans) (n : Nat) :
    inSpans n spans = (spanBits spans).testBit n := by
  rw [Bool.eq_iff_iff, inSpans_iff h, testBit_spanBits]

end Banter.Text
