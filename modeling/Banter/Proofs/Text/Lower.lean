import Banter.Text.Lower
import Mathlib.Data.List.Infix

/-!
What becomes of a text inside of a longer one. The same characters stay the same, but for a capital
sigma whose form is open at one of the ends.
-/
namespace Banter.Text

/-- Did a cased character come before, now that this was read? -/
def casedBehind : Bool → List Char → Bool
  | behind, [] => behind
  | behind, c :: rest => casedBehind (if isCaseIgnorable c then behind else isCased c) rest

def sigma (behind ahead : Bool) : Char :=
  if behind && !ahead then 'ς' else 'σ'

/-- Lowercase a part of a text that goes on. -/
def lowerWithin (after : List Char) : Bool → List Char → List Char
  | _, [] => []
  | behind, c :: rest =>
    (if c = 'Σ' then [sigma behind (casedAhead (rest ++ after))] else lowerChar c) ++
      lowerWithin after (if isCaseIgnorable c then behind else isCased c) rest

theorem lowerFrom_append (behind : Bool) (s after : List Char) :
    lowerFrom behind (s ++ after) =
      lowerWithin after behind s ++ lowerFrom (casedBehind behind s) after := by
  induction s generalizing behind with
  | nil => rfl
  | cons c rest ih =>
    simp only [List.cons_append, lowerFrom, lowerWithin, casedBehind, sigma, ih, List.append_assoc]

theorem lowerWithin_nil (behind : Bool) (s : List Char) :
    lowerWithin [] behind s = lowerFrom behind s := by
  have h := lowerFrom_append behind s []
  rw [List.append_nil] at h
  rw [h, lowerFrom, List.append_nil]

theorem lowerWithin_append (after : List Char) (behind : Bool) (s t : List Char) :
    lowerWithin after behind (s ++ t) =
      lowerWithin (t ++ after) behind s ++ lowerWithin after (casedBehind behind s) t := by
  induction s generalizing behind with
  | nil => rfl
  | cons c rest ih =>
    simp only [List.cons_append, lowerWithin, casedBehind, ih, List.append_assoc]

theorem length_lowerFrom (behind : Bool) (s : List Char) :
    (lowerFrom behind s).length = (s.flatMap fun c => lower [c]).length := by
  induction s generalizing behind with
  | nil => rfl
  | cons c rest ih =>
    rw [lowerFrom, List.length_append, ih, List.flatMap_cons, List.length_append]
    congr 1
    unfold lower lowerFrom
    rw [lowerFrom, List.append_nil]
    split_ifs <;> rfl

theorem length_lower_append (s t : List Char) :
    (lower (s ++ t)).length = (lower s).length + (lower t).length := by
  unfold lower
  rw [length_lowerFrom, length_lowerFrom, length_lowerFrom, List.flatMap_append,
    List.length_append]

theorem length_lower_le {s t : List Char} (h : s.Sublist t) :
    (lower s).length ≤ (lower t).length := by
  induction h with
  | slnil => exact Nat.le_refl _
  | cons c _ ih =>
    rename_i t _
    have hlong := length_lower_append [c] t
    rw [List.singleton_append] at hlong
    omega
  | cons_cons c _ ih =>
    rename_i s t _
    have hshort := length_lower_append [c] s
    have hlong := length_lower_append [c] t
    rw [List.singleton_append] at hshort hlong
    omega

section Neighbours

variable {behind : Bool} {s t : List Char}

theorem casedBehind_append :
    casedBehind behind (s ++ t) = casedBehind (casedBehind behind s) t := by
  induction s generalizing behind with
  | nil => rfl
  | cons c rest ih => exact ih

theorem casedBehind_of_ignorable (h : ∀ c ∈ s, isCaseIgnorable c = true) :
    casedBehind behind s = behind := by
  induction s with
  | nil => rfl
  | cons c rest ih =>
    rw [casedBehind, if_pos (h c List.mem_cons_self)]
    exact ih fun d hd => h d (List.mem_cons_of_mem c hd)

theorem casedBehind_of_not_ignorable (h : ∃ c ∈ s, isCaseIgnorable c = false) :
    casedBehind behind s = casedBehind false s := by
  induction s generalizing behind with
  | nil => simp at h
  | cons c rest ih =>
    cases hc : isCaseIgnorable c with
    | true =>
      obtain ⟨d, hd, hkeen⟩ := h
      obtain rfl | hrest := List.mem_cons.mp hd
      · simp [hkeen] at hc
      · simpa [casedBehind, hc] using ih ⟨d, hrest, hkeen⟩
    | false => simp [casedBehind, hc]

theorem casedAhead_of_ignorable (h : ∀ c ∈ s, isCaseIgnorable c = true) :
    casedAhead (s ++ t) = casedAhead t := by
  rw [casedAhead, List.dropWhile_append_of_pos h]
  rfl

theorem casedAhead_of_not_ignorable (h : ∃ c ∈ s, isCaseIgnorable c = false) :
    casedAhead (s ++ t) = casedAhead s := by
  induction s with
  | nil => simp at h
  | cons c rest ih =>
    unfold casedAhead at ih ⊢
    cases hc : isCaseIgnorable c with
    | true =>
      obtain ⟨d, hd, hkeen⟩ := h
      obtain rfl | hrest := List.mem_cons.mp hd
      · simp [hkeen] at hc
      · simpa [hc] using ih ⟨d, hrest, hkeen⟩
    | false => simp [hc]

end Neighbours

section Comparison

variable {after after' : List Char} {behind behind' : Bool} {s : List Char}

theorem lowerWithin_congr
    (h : ∀ l r, s = l ++ 'Σ' :: r →
      sigma (casedBehind behind l) (casedAhead (r ++ after)) =
        sigma (casedBehind behind' l) (casedAhead (r ++ after'))) :
    lowerWithin after behind s = lowerWithin after' behind' s := by
  induction s generalizing behind behind' with
  | nil => rfl
  | cons c rest ih =>
    have hrest := ih fun l r hs => h (c :: l) r (by rw [hs]; rfl)
    rw [lowerWithin, lowerWithin, hrest]
    by_cases hc : c = 'Σ'
    · have hsame : sigma behind (casedAhead (rest ++ after)) =
          sigma behind' (casedAhead (rest ++ after')) := h [] rest (by rw [hc]; rfl)
      rw [hsame]
    · rw [if_neg hc, if_neg hc]

theorem count_lowerWithin_le {x : Char}
    (h : ∀ l r, s = l ++ 'Σ' :: r →
      [sigma (casedBehind behind l) (casedAhead (r ++ after))].count x ≤
        [sigma (casedBehind behind' l) (casedAhead (r ++ after'))].count x) :
    (lowerWithin after behind s).count x ≤ (lowerWithin after' behind' s).count x := by
  induction s generalizing behind behind' with
  | nil => exact Nat.le_refl 0
  | cons c rest ih =>
    have hrest := ih fun l r hs => h (c :: l) r (by rw [hs]; rfl)
    rw [lowerWithin, lowerWithin, List.count_append, List.count_append]
    refine Nat.add_le_add ?_ hrest
    split_ifs with hc
    · exact h [] rest (by rw [hc]; rfl)
    · exact Nat.le_refl _

theorem count_lowerWithin_lt {x : Char}
    (h : ∀ l r, s = l ++ 'Σ' :: r →
      [sigma (casedBehind behind l) (casedAhead (r ++ after))].count x ≤
        [sigma (casedBehind behind' l) (casedAhead (r ++ after'))].count x)
    {l r : List Char} (hs : s = l ++ 'Σ' :: r)
    (hlt : [sigma (casedBehind behind l) (casedAhead (r ++ after))].count x <
      [sigma (casedBehind behind' l) (casedAhead (r ++ after'))].count x) :
    (lowerWithin after behind s).count x < (lowerWithin after' behind' s).count x := by
  subst hs
  have hleft : (lowerWithin ('Σ' :: r ++ after) behind l).count x ≤
      (lowerWithin ('Σ' :: r ++ after') behind' l).count x := by
    refine count_lowerWithin_le fun u v hl => ?_
    have huv := h u (v ++ 'Σ' :: r) (by simp [hl])
    simpa only [List.append_assoc] using huv
  have hright : (lowerWithin after (casedBehind behind (l ++ ['Σ'])) r).count x ≤
      (lowerWithin after' (casedBehind behind' (l ++ ['Σ'])) r).count x := by
    refine count_lowerWithin_le fun u v hr => ?_
    have huv := h (l ++ 'Σ' :: u) v (by simp [hr])
    simpa only [casedBehind_append, casedBehind] using huv
  rw [casedBehind_append, casedBehind_append] at hright
  change (lowerWithin after (if isCaseIgnorable 'Σ' then casedBehind behind l else isCased 'Σ')
    r).count x ≤ (lowerWithin after' (if isCaseIgnorable 'Σ' then casedBehind behind' l
      else isCased 'Σ') r).count x at hright
  rw [lowerWithin_append, lowerWithin_append, List.count_append, List.count_append, lowerWithin,
    lowerWithin, if_pos rfl, if_pos rfl, List.count_append, List.count_append]
  omega

end Comparison

/-- The form of each capital sigma is settled within the text: whether it is final is seen from the
neighbours it has there. -/
def Settled (s : List Char) : Prop :=
  ∀ l r, s = l ++ 'Σ' :: r →
    ((∀ c ∈ l, isCaseIgnorable c = true) → casedAhead r = true) ∧
      (casedBehind false l = true → ∃ c ∈ r, isCaseIgnorable c = false)

theorem settled_of_not_mem {s : List Char} (h : 'Σ' ∉ s) : Settled s := by
  rintro l r rfl
  simp at h

theorem Settled.lowerWithin {s : List Char} (h : Settled s) (after : List Char) (behind : Bool) :
    lowerWithin after behind s = lower s := by
  rw [lower, ← lowerWithin_nil]
  refine lowerWithin_congr fun l r hs => ?_
  obtain ⟨hfirst, hlast⟩ := h l r hs
  rw [List.append_nil]
  by_cases hl : ∃ c ∈ l, isCaseIgnorable c = false
  · rw [casedBehind_of_not_ignorable hl]
    cases hbehind : casedBehind false l with
    | false => rfl
    | true => rw [casedAhead_of_not_ignorable (hlast hbehind)]
  · -- Only a cased letter right behind it keeps the form open at the front.
    have hahead : casedAhead r = true := hfirst (by simpa using hl)
    have hkeen : ∃ c ∈ r, isCaseIgnorable c = false := by
      by_contra hnone
      have hblind : casedAhead (r ++ []) = casedAhead [] :=
        casedAhead_of_ignorable (by simpa using hnone)
      rw [List.append_nil, hahead] at hblind
      cases hblind
    rw [casedAhead_of_not_ignorable hkeen, hahead]
    simp [sigma]

theorem casedBehind_of_cased {u : List Char} (h : casedBehind false u = true) :
    casedBehind true u = true := by
  by_cases hkeen : ∃ c ∈ u, isCaseIgnorable c = false
  · rwa [casedBehind_of_not_ignorable hkeen]
  · exact casedBehind_of_ignorable (by simpa using hkeen)

theorem casedAhead_append_cased {v : List Char} (h : casedAhead v = true) :
    casedAhead (v ++ ['a']) = true := by
  by_cases hkeen : ∃ c ∈ v, isCaseIgnorable c = false
  · rwa [casedAhead_of_not_ignorable hkeen]
  · rw [casedAhead_of_ignorable (by simpa using hkeen)]
    decide

/-- Behind a letter, an open sigma at the front turns final, and there are fewer that are not. -/
theorem settled_front {l r : List Char}
    (h : lower (l ++ 'Σ' :: r) <:+: lower ('a' :: (l ++ 'Σ' :: r)))
    (hl : ∀ c ∈ l, isCaseIgnorable c = true) : casedAhead r = true := by
  by_contra hahead
  have hcount := h.sublist.count_le 'σ'
  have hplain : lower (l ++ 'Σ' :: r) = lowerWithin [] false (l ++ 'Σ' :: r) :=
    (lowerWithin_nil false _).symm
  have hlong : lower ('a' :: (l ++ 'Σ' :: r)) = 'a' :: lowerWithin [] true (l ++ 'Σ' :: r) := by
    rw [lowerWithin_nil]
    rfl
  rw [hplain, hlong, List.count_cons_of_ne (by decide)] at hcount
  refine absurd hcount (Nat.not_le.mpr (count_lowerWithin_lt (fun u v _ => ?_) rfl ?_))
  · have hmono := casedBehind_of_cased (u := u)
    revert hmono
    cases casedBehind false u <;> cases casedBehind true u <;>
      cases casedAhead (v ++ []) <;> decide
  · rw [casedBehind_of_ignorable hl, casedBehind_of_ignorable hl, List.append_nil,
      Bool.eq_false_iff.mpr hahead]
    decide

/-- Before a letter, an open sigma at the end is not final any more, and there are fewer that
are. -/
theorem settled_end {l r : List Char}
    (h : lower (l ++ 'Σ' :: r) <:+: lower (l ++ 'Σ' :: r ++ ['a']))
    (hl : casedBehind false l = true) : ∃ c ∈ r, isCaseIgnorable c = false := by
  by_contra hkeen
  have hpassed : ∀ c ∈ r, isCaseIgnorable c = true := by simpa using hkeen
  have hcount := h.sublist.count_le 'ς'
  have hplain : lower (l ++ 'Σ' :: r) = lowerWithin [] false (l ++ 'Σ' :: r) :=
    (lowerWithin_nil false _).symm
  have hlong : lower (l ++ 'Σ' :: r ++ ['a']) =
      lowerWithin ['a'] false (l ++ 'Σ' :: r) ++ ['a'] := by
    rw [lower, lowerFrom_append]
    rfl
  rw [hplain, hlong, List.count_append, show ['a'].count 'ς' = 0 by decide,
    Nat.add_zero] at hcount
  refine absurd hcount (Nat.not_le.mpr (count_lowerWithin_lt (fun u v _ => ?_) rfl ?_))
  · have hmono := casedAhead_append_cased (v := v)
    rw [List.append_nil]
    revert hmono
    cases casedBehind false u <;> cases casedAhead v <;>
      cases casedAhead (v ++ ['a']) <;> decide
  · rw [hl, casedAhead_of_ignorable hpassed, casedAhead_of_ignorable hpassed]
    decide

/-- A settled text is found in lowercase wherever it stands, and only a settled text is. -/
theorem lower_infix_iff_settled {b : List Char} :
    (∀ p s, lower b <:+: lower (p ++ b ++ s)) ↔ Settled b := by
  constructor
  · rintro h l r rfl
    constructor
    · exact settled_front (by simpa using h ['a'] [])
    · exact settled_end (by simpa using h [] ['a'])
  · intro h p s
    refine ⟨Text.lowerWithin (b ++ s) false p,
      lowerFrom (casedBehind (casedBehind false p) b) s, ?_⟩
    calc lowerWithin (b ++ s) false p ++ lower b ++
          lowerFrom (casedBehind (casedBehind false p) b) s
        = lowerWithin (b ++ s) false p ++ lowerFrom (casedBehind false p) (b ++ s) := by
          rw [lowerFrom_append, h.lowerWithin, List.append_assoc]
      _ = lower (p ++ b ++ s) := by rw [← lowerFrom_append, List.append_assoc, lower]

end Banter.Text
