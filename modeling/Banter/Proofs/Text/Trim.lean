import Banter.Text.Blank
import Mathlib.Data.List.TakeWhile

/-! Trimming takes away outer white space only. -/
namespace Banter.Text

theorem trimRight_append {d : Char} (s : List Char) (hd : isBlank d = false) :
    trimRight (s ++ [d]) = s ++ [d] := by
  induction s with
  | nil => simp [trimRight, hd]
  | cons c s ih =>
    rw [List.cons_append, trimRight_cons, ih]
    simp

theorem trimLeft_cons {c : Char} (s : List Char) (hc : isBlank c = false) :
    trimLeft (c :: s) = c :: s := by
  simp [trimLeft, hc]

theorem trim_enclosed {c d : Char} (s : List Char) (hc : isBlank c = false)
    (hd : isBlank d = false) : trim (c :: (s ++ [d])) = c :: (s ++ [d]) := by
  rw [trim, trimLeft_cons _ hc, ← List.cons_append, trimRight_append _ hd]

theorem trimRight_trimRight (s : List Char) : trimRight (trimRight s) = trimRight s := by
  induction s with
  | nil => rfl
  | cons c s ih =>
    rw [trimRight_cons]
    cases hdrop : (trimRight s).isEmpty && isBlank c with
    | true => rfl
    | false =>
      simp only [Bool.false_eq_true, if_false]
      rw [trimRight_cons, ih, hdrop]
      rfl

theorem trim_trim (s : List Char) : trim (trim s) = trim s := by
  have hleft : trimLeft (trim s) = trim s := by
    unfold trim
    cases h : trimLeft s with
    | nil => rfl
    | cons c rest =>
      have hc : isBlank c = false := by
        have hhead := List.head?_dropWhile_not isBlank s
        rw [show s.dropWhile isBlank = c :: rest from h] at hhead
        exact hhead
      rw [trimRight_cons, hc, Bool.and_false]
      exact trimLeft_cons _ hc
  rw [trim, hleft]
  exact trimRight_trimRight _

theorem trimRight_append_blank (s : List Char) {a : List Char}
    (ha : ∀ c ∈ a, isBlank c = true) : trimRight (s ++ a) = trimRight s := by
  induction s with
  | nil =>
    induction a with
    | nil => rfl
    | cons c a ih =>
      have hrest : trimRight a = [] := ih fun d hd => ha d (List.mem_cons_of_mem c hd)
      rw [List.nil_append, trimRight_cons, hrest, ha c List.mem_cons_self]
      rfl
  | cons c s ih => rw [List.cons_append, trimRight_cons, trimRight_cons, ih]

theorem trim_append_blank (s : List Char) {a : List Char} (ha : ∀ c ∈ a, isBlank c = true) :
    trim (s ++ a) = trim s := by
  induction s with
  | nil =>
    have hnone : trimLeft a = [] := List.dropWhile_eq_nil_iff.mpr ha
    rw [List.nil_append, trim, hnone]
    rfl
  | cons c s ih =>
    cases hc : isBlank c with
    | true =>
      have hskip : ∀ t, trim (c :: t) = trim t := fun t => by simp [trim, trimLeft, hc]
      rw [List.cons_append, hskip, hskip, ih]
    | false =>
      rw [List.cons_append, trim, trim, trimLeft_cons _ hc, trimLeft_cons _ hc, ← List.cons_append,
        trimRight_append_blank _ ha]

/-- What is trimmed at the end is white space. -/
theorem exists_trimRight (s : List Char) :
    ∃ a, (∀ c ∈ a, isBlank c = true) ∧ s = trimRight s ++ a := by
  induction s with
  | nil => exact ⟨[], by simp, rfl⟩
  | cons c s ih =>
    obtain ⟨a, ha, hs⟩ := ih
    rw [trimRight_cons]
    cases hdrop : (trimRight s).isEmpty && isBlank c with
    | true =>
      rw [Bool.and_eq_true, List.isEmpty_iff] at hdrop
      rw [hdrop.1, List.nil_append] at hs
      refine ⟨c :: s, ?_, rfl⟩
      rw [hs]
      simpa [hdrop.2] using ha
    | false =>
      refine ⟨a, ha, ?_⟩
      simp only [Bool.false_eq_true, if_false, List.cons_append]
      rw [← hs]

theorem trim_sublist (s : List Char) : (trim s).Sublist s := by
  obtain ⟨a, -, hright⟩ := exists_trimRight (trimLeft s)
  have hwhole : trim s ++ a = trimLeft s := hright.symm
  have hkept : (trim s).Sublist (trim s ++ a) := List.sublist_append_left _ _
  rw [hwhole] at hkept
  exact hkept.trans (List.dropWhile_sublist _)

/-- A text without outer white space begins with something to see. -/
theorem not_blank_of_trim {c : Char} {s : List Char} (h : trim (c :: s) = c :: s) :
    isBlank c = false := by
  cases hc : isBlank c with
  | false => rfl
  | true =>
    have hskip : trim (c :: s) = trim s := by simp [trim, trimLeft, hc]
    have hshort := (trim_sublist s).length_le
    rw [← hskip, h, List.length_cons] at hshort
    omega

end Banter.Text
