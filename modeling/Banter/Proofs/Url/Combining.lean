import Banter.Proofs.Text.Span
import Banter.Url.Character.Permitted
import Banter.Url.Composition

/-! What the table of pairs and the syllables of Hangul have in common, and what follows for taking
characters apart and putting them together. -/
namespace Banter.Url

open Text (bits spanBits)

section Table

/-! ### The tables as sets -/

def wholeBits : Nat :=
  bits (pairs.map fun r => r.1)

def syllableBits : Nat :=
  spanBits [(firstSyllable, firstSyllable + leads * vowels * tails - 1)]

def letterBits : Nat :=
  spanBits [(firstLead, firstLead + leads - 1), (firstVowel, firstVowel + vowels - 1),
    (noTail + 1, noTail + tails - 1)]

/-- What is made of others. -/
def madeBits : Nat :=
  wholeBits ||| syllableBits

/-- What comes first in something. -/
def firstBits : Nat :=
  bits (pairs.map fun r => r.2.1) ||| letterBits ||| syllableBits

/-- What comes second in something. -/
def secondBits : Nat :=
  bits (pairs.map fun r => r.2.2) ||| letterBits

def placedBits : Nat :=
  spanBits (placeRows.map fun r => (r.1, r.2.1))

def permittedBits : Nat :=
  spanBits permittedSpans

/-- What the tables have in common, and what they have not. -/
structure Arranged : Prop where
  pairs_ascending : pairs.IsChain fun r s => r.1 < s.1
  syllable_whole : syllableBits &&& wholeBits = 0
  letter_made : letterBits &&& madeBits = 0
  second_made : secondBits &&& madeBits = 0
  first_placed : firstBits &&& placedBits = 0
  pairs_syllable : bits (pairs.map fun r => r.2.1) &&& syllableBits = 0
  /-- Nothing of the kind is in ASCII, but for what comes first. The stop between labels does
  not. -/
  ascii_combining : spanBits [(0, 0x7f)] &&& (madeBits ||| secondBits ||| placedBits) = 0
  stop_first : firstBits.testBit 0x2e = false
  permitted_ascending : Text.Ascending permittedSpans
  hangul_permitted : letterBits ||| syllableBits ||| permittedBits = permittedBits
  /-- What is made of permitted characters is permitted, and of no others. -/
  pairs_permitted : (pairs.all fun r => permittedBits.testBit r.1 ==
    (permittedBits.testBit r.2.1 && permittedBits.testBit r.2.2)) = true
  /-- What a permitted character is, is a character. -/
  permitted_valid : permittedBits &&& spanBits [(0xd800, 0xdfff)] = 0 ∧
    permittedBits >>> 0x110000 = 0

theorem arranged : Arranged := by
  constructor <;> decide +kernel

theorem testBit_syllable {n : Nat} :
    syllableBits.testBit n = true ↔
      firstSyllable ≤ n ∧ n < firstSyllable + leads * vowels * tails := by
  unfold syllableBits
  rw [Text.testBit_spanBits]
  simp [firstSyllable, leads, vowels, tails]
  omega

end Table

/-- Two characters make one. -/
inductive Makes : Nat → Nat → Nat → Prop where
  | pair {w a b : Nat} (row : (w, a, b) ∈ pairs) : Makes a b w
  | syllable {l v : Nat} (hl : l < leads) (hv : v < vowels) :
      Makes (firstLead + l) (firstVowel + v) (firstSyllable + (l * vowels + v) * tails)
  | closing {s t : Nat} (hs : s < leads * vowels) (ht : 0 < t) (htails : t < tails) :
      Makes (firstSyllable + s * tails) (noTail + t) (firstSyllable + s * tails + t)

theorem findSome_pairs {n : Nat} {ab : Nat × Nat} :
    (pairs.findSome? fun (whole, a, b) => if whole = n then some (a, b) else none) = some ab ↔
      (n, ab) ∈ pairs := by
  have hone : pairs.Pairwise fun r s => r.1 < s.1 :=
    List.isChain_iff_pairwise.mp arranged.pairs_ascending
  generalize pairs = rows at hone ⊢
  induction rows with
  | nil => simp
  | cons row rest ih =>
    obtain ⟨whole, a, b⟩ := row
    obtain ⟨hfirst, hrest⟩ := List.pairwise_cons.mp hone
    rw [List.findSome?_cons, List.mem_cons]
    by_cases hwhole : whole = n
    · subst hwhole
      have hlater : (whole, ab) ∉ rest := fun hmem => Nat.lt_irrefl whole (hfirst _ hmem)
      simp [hlater, eq_comm]
    · have hnot : (n, ab) ≠ (whole, a, b) := fun heq => hwhole (congrArg Prod.fst heq).symm
      simp only [if_neg hwhole, hnot, false_or]
      exact ih hrest

section Syllables

/-- The place of a syllable among all syllables tells its lead, its vowel and its tail. -/
theorem place_of_syllable {i : Nat} (h : i < leads * vowels * tails) :
    i / tails / vowels < leads ∧ i / tails % vowels < vowels ∧ i / tails < leads * vowels ∧
      i / tails / vowels * vowels + i / tails % vowels = i / tails ∧
      i / tails * tails + i % tails = i ∧ i % tails < tails := by
  simp only [leads, vowels, tails] at *
  omega

theorem syllable_of_place {l v : Nat} (hl : l < leads) (hv : v < vowels) :
    (l * vowels + v) * tails < leads * vowels * tails ∧
      (l * vowels + v) * tails % tails = 0 ∧ (l * vowels + v) * tails / tails / vowels = l ∧
      (l * vowels + v) * tails / tails % vowels = v := by
  simp only [leads, vowels, tails] at *
  omega

theorem syllable_count {l v : Nat} (hl : l < leads) (hv : v < vowels) :
    l * vowels + v < leads * vowels := by
  simp only [leads, vowels] at *
  omega

theorem syllable_of_tail {s t : Nat} (hs : s < leads * vowels) (ht : 0 < t) (htails : t < tails) :
    s * tails + t < leads * vowels * tails ∧ (s * tails + t) % tails = t := by
  simp only [leads, vowels, tails] at *
  omega

end Syllables

theorem not_pair_of_syllable {a b w : Nat} (hw : syllableBits.testBit w = true) :
    (w, a, b) ∉ pairs := by
  intro row
  have hwhole : wholeBits.testBit w = true :=
    Text.testBit_bits.mpr (List.mem_map.mpr ⟨_, row, rfl⟩)
  rw [Text.testBit_of_land arranged.syllable_whole hw] at hwhole
  cases hwhole

theorem halves_iff {w a b : Nat} : halves? w = some (a, b) ↔ Makes a b w := by
  unfold halves?
  dsimp only
  constructor
  · intro h
    split_ifs at h with hrange hopen
    · rw [Bool.and_eq_true, decide_eq_true_eq, decide_eq_true_eq] at hrange
      obtain ⟨hl, hv, -, hsyllable, hplace, -⟩ :=
        place_of_syllable (by omega : w - firstSyllable < _)
      have hw : w = firstSyllable + ((w - firstSyllable) / tails / vowels * vowels +
          (w - firstSyllable) / tails % vowels) * tails := by
        rw [hsyllable]
        omega
      obtain ⟨rfl, rfl⟩ := Prod.mk.inj (Option.some.inj h)
      have hmakes := Makes.syllable hl hv
      rwa [← hw] at hmakes
    · rw [Bool.and_eq_true, decide_eq_true_eq, decide_eq_true_eq] at hrange
      obtain ⟨-, -, hs, -, hplace, htails⟩ := place_of_syllable (by omega : w - firstSyllable < _)
      have hw : w = firstSyllable + (w - firstSyllable) / tails * tails +
          (w - firstSyllable) % tails := by omega
      have ha : w - (w - firstSyllable) % tails =
          firstSyllable + (w - firstSyllable) / tails * tails := by omega
      obtain ⟨rfl, rfl⟩ := Prod.mk.inj (Option.some.inj h)
      have hmakes := Makes.closing hs (Nat.pos_of_ne_zero hopen) htails
      rwa [← hw, ← ha] at hmakes
    · exact .pair (findSome_pairs.mp h)
  · rintro (row | ⟨hl, hv⟩ | ⟨hs, ht, htails⟩)
    · have hrange : ¬ (decide (firstSyllable ≤ w) &&
          decide (w < firstSyllable + leads * vowels * tails)) = true := by
        rw [Bool.and_eq_true, decide_eq_true_eq, decide_eq_true_eq, ← testBit_syllable]
        exact fun hsyllable => not_pair_of_syllable hsyllable row
      rw [if_neg hrange]
      exact findSome_pairs.mpr row
    · obtain ⟨hrange, hopen, hlead, hvowel⟩ := syllable_of_place hl hv
      rw [if_pos (by simp [hrange]), Nat.add_sub_cancel_left, if_pos hopen, hlead, hvowel]
    · obtain ⟨hrange, htail⟩ := syllable_of_tail hs ht htails
      rw [Nat.add_assoc, if_pos (by simp [hrange]), Nat.add_sub_cancel_left, htail,
        if_neg (Nat.ne_of_gt ht), ← Nat.add_assoc, Nat.add_sub_cancel]

theorem makes_of_whole {w a b : Nat} (h : whole? a b = some w) : Makes a b w := by
  unfold whole? at h
  split_ifs at h with hopen hclosing
  · simp only [Bool.and_eq_true, decide_eq_true_eq] at hopen
    obtain ⟨l, rfl⟩ := Nat.exists_eq_add_of_le hopen.1.1.1
    obtain ⟨v, rfl⟩ := Nat.exists_eq_add_of_le hopen.1.2
    rw [Nat.add_sub_cancel_left, Nat.add_sub_cancel_left] at h
    obtain rfl := Option.some.inj h
    exact .syllable (by omega) (by omega)
  · simp only [Bool.and_eq_true, decide_eq_true_eq, beq_iff_eq] at hclosing
    obtain ⟨⟨⟨⟨hfirst, hlast⟩, hopen⟩, htail⟩, htails⟩ := hclosing
    obtain ⟨-, -, hs, -, hplace, -⟩ := place_of_syllable (by omega : a - firstSyllable < _)
    have ha : a = firstSyllable + (a - firstSyllable) / tails * tails := by omega
    obtain ⟨t, rfl⟩ := Nat.exists_eq_add_of_le (Nat.le_of_lt htail)
    have hmakes := Makes.closing hs (by omega : 0 < t) (by omega)
    rw [Nat.add_sub_cancel_left] at h
    obtain rfl := Option.some.inj h
    rwa [← ha] at hmakes
  · obtain ⟨⟨whole, x, y⟩, hmem, hrow⟩ := List.exists_of_findSome?_eq_some h
    dsimp only at hrow
    split_ifs at hrow with hxy
    obtain ⟨rfl, rfl⟩ : x = a ∧ y = b := by simpa using hxy
    obtain rfl := Option.some.inj hrow
    exact .pair hmem

section Letters

theorem testBit_lead {l : Nat} (h : l < leads) : letterBits.testBit (firstLead + l) = true :=
  Text.testBit_spanBits.mpr ⟨_, List.mem_cons_self, Nat.le_add_right _ _, by
    simp only [firstLead, leads] at *
    omega⟩

theorem testBit_vowel {v : Nat} (h : v < vowels) : letterBits.testBit (firstVowel + v) = true :=
  Text.testBit_spanBits.mpr ⟨_, .tail _ (.head _), Nat.le_add_right _ _, by
    simp only [firstVowel, vowels] at *
    omega⟩

theorem testBit_tail {t : Nat} (ht : 0 < t) (h : t < tails) :
    letterBits.testBit (noTail + t) = true :=
  Text.testBit_spanBits.mpr ⟨_, .tail _ (.tail _ (.head _)), by omega, by
    simp only [noTail, tails] at *
    omega⟩

theorem testBit_open {s : Nat} (hs : s < leads * vowels) :
    syllableBits.testBit (firstSyllable + s * tails) = true := by
  rw [testBit_syllable]
  simp only [firstSyllable, leads, vowels, tails] at *
  omega

theorem testBit_closed {s t : Nat} (hs : s < leads * vowels) (ht : 0 < t) (htails : t < tails) :
    syllableBits.testBit (firstSyllable + s * tails + t) = true := by
  rw [testBit_syllable]
  simp only [firstSyllable, leads, vowels, tails] at *
  omega

end Letters

namespace Makes

variable {a b w : Nat}

theorem made (h : Makes a b w) : madeBits.testBit w = true := by
  unfold madeBits
  rw [Nat.testBit_or, Bool.or_eq_true]
  cases h with
  | pair row => exact .inl (Text.testBit_bits.mpr (List.mem_map.mpr ⟨_, row, rfl⟩))
  | syllable hl hv =>
    exact .inr (testBit_open (syllable_count hl hv))
  | closing hs ht htails => exact .inr (testBit_closed hs ht htails)

theorem first (h : Makes a b w) : firstBits.testBit a = true := by
  unfold firstBits
  rw [Nat.testBit_or, Nat.testBit_or, Bool.or_eq_true, Bool.or_eq_true]
  cases h with
  | pair row => exact .inl (.inl (Text.testBit_bits.mpr (List.mem_map.mpr ⟨_, row, rfl⟩)))
  | syllable hl hv => exact .inl (.inr (testBit_lead hl))
  | closing hs ht htails => exact .inr (testBit_open hs)

theorem second (h : Makes a b w) : secondBits.testBit b = true := by
  unfold secondBits
  rw [Nat.testBit_or, Bool.or_eq_true]
  cases h with
  | pair row => exact .inl (Text.testBit_bits.mpr (List.mem_map.mpr ⟨_, row, rfl⟩))
  | syllable hl hv => exact .inr (testBit_vowel hv)
  | closing hs ht htails => exact .inr (testBit_tail ht htails)

end Makes

/-- A character that is not made of others. -/
def Simple (n : Nat) : Prop :=
  halves? n = none

theorem simple_or_made (n : Nat) : Simple n ∨ ∃ a b, Makes a b n := by
  cases hn : halves? n with
  | none => exact .inl hn
  | some ab => exact .inr ⟨ab.1, ab.2, halves_iff.mp hn⟩

theorem simple_of_not_made {n : Nat} (h : madeBits.testBit n = false) : Simple n := by
  rcases simple_or_made n with hn | ⟨a, b, hn⟩
  · exact hn
  · rw [hn.made] at h
    cases h

theorem Makes.simple_second {a b w : Nat} (h : Makes a b w) : Simple b :=
  simple_of_not_made (Text.testBit_of_land arranged.second_made h.second)

theorem testBit_placed {n : Nat} (h : place n ≠ 0) : placedBits.testBit n = true := by
  unfold place at h
  cases hrow : placeRows.findSome? (fun (first, last, k) =>
      if first ≤ n && n ≤ last then some k else none) with
  | none =>
    rw [hrow] at h
    exact absurd rfl h
  | some k =>
    obtain ⟨⟨first, last, k⟩, hmem, hin⟩ := List.exists_of_findSome?_eq_some hrow
    dsimp only at hin
    split_ifs at hin with hspan
    rw [Bool.and_eq_true, decide_eq_true_eq, decide_eq_true_eq] at hspan
    exact Text.testBit_spanBits.mpr ⟨_, List.mem_map.mpr ⟨_, hmem, rfl⟩, hspan⟩

theorem whole_of_placed {n : Nat} (h : place n ≠ 0) (b : Nat) : whole? n b = none := by
  cases hb : whole? n b with
  | none => rfl
  | some w =>
    have hplaced := Text.testBit_of_land arranged.first_placed (makes_of_whole hb).first
    rw [testBit_placed h] at hplaced
    cases hplaced

/-- A property that a character has if and only if both its halves have it. -/
def Shared (Q : Nat → Prop) : Prop :=
  ∀ {a b w : Nat}, Makes a b w → (Q w ↔ Q a ∧ Q b)

theorem shared_permitted : Shared fun n => permittedBits.testBit n = true := by
  have hletter : ∀ n, letterBits.testBit n = true → permittedBits.testBit n = true := by
    intro n hn
    refine Text.testBit_of_lor arranged.hangul_permitted ?_
    rw [Nat.testBit_or, hn, Bool.true_or]
  have hsyllable : ∀ n, syllableBits.testBit n = true → permittedBits.testBit n = true := by
    intro n hn
    refine Text.testBit_of_lor arranged.hangul_permitted ?_
    rw [Nat.testBit_or, hn, Bool.or_true]
  rintro a b w (row | ⟨hl, hv⟩ | ⟨hs, ht, htails⟩)
  · have hrow := List.all_eq_true.mp arranged.pairs_permitted _ row
    rw [beq_iff_eq] at hrow
    rw [← Bool.and_eq_true, ← hrow]
  · have hs : _ < leads * vowels := syllable_count hl hv
    exact iff_of_true (hsyllable _ (testBit_open hs))
      ⟨hletter _ (testBit_lead hl), hletter _ (testBit_vowel hv)⟩
  · exact iff_of_true (hsyllable _ (testBit_closed hs ht htails))
      ⟨hsyllable _ (testBit_open hs), hletter _ (testBit_tail ht htails)⟩

section Ascii

variable {n : Nat}

theorem not_combining_of_ascii (h : n ≤ 0x7f) :
    madeBits.testBit n = false ∧ secondBits.testBit n = false ∧ placedBits.testBit n = false := by
  have hascii : (spanBits [(0, 0x7f)]).testBit n = true :=
    Text.testBit_spanBits.mpr ⟨_, List.mem_cons_self, Nat.zero_le n, h⟩
  have hnone := Text.testBit_of_land arranged.ascii_combining hascii
  rw [Nat.testBit_or, Nat.testBit_or, Bool.or_eq_false_iff, Bool.or_eq_false_iff] at hnone
  exact ⟨hnone.1.1, hnone.1.2, hnone.2⟩

theorem simple_of_ascii (h : n ≤ 0x7f) : Simple n :=
  simple_of_not_made (not_combining_of_ascii h).1

theorem whole_of_ascii (h : n ≤ 0x7f) (a : Nat) : whole? a n = none := by
  cases hw : whole? a n with
  | none => rfl
  | some w =>
    have hsecond := (makes_of_whole hw).second
    rw [(not_combining_of_ascii h).2.1] at hsecond
    cases hsecond

theorem place_of_ascii (h : n ≤ 0x7f) : place n = 0 := by
  by_contra hplace
  have hplaced := testBit_placed hplace
  rw [(not_combining_of_ascii h).2.2] at hplaced
  cases hplaced

end Ascii

section Stop

def stop : Nat := 0x2e

theorem stop_ascii : stop ≤ 0x7f := by decide

theorem whole_stop (b : Nat) : whole? stop b = none := by
  cases hw : whole? stop b with
  | none => rfl
  | some w =>
    have hfirst : firstBits.testBit 0x2e = true := (makes_of_whole hw).first
    rw [arranged.stop_first] at hfirst
    cases hfirst

theorem shared_stop : Shared (· ≠ stop) := by
  intro a b w h
  have hascii := not_combining_of_ascii stop_ascii
  refine iff_of_true ?_ ⟨?_, ?_⟩
  · rintro rfl
    exact absurd h.made (by simp [hascii.1])
  · rintro rfl
    exact absurd h.first (by simp [stop, arranged.stop_first])
  · rintro rfl
    exact absurd h.second (by simp [hascii.2.1])

end Stop

section Layers

/-- A character can be taken apart so many times in a row. -/
def Layered : Nat → Nat → Prop
  | 0, _ => True
  | k + 1, n => ∃ a b, Makes a b n ∧ Layered k a

def madeFrom (ns : List Nat) : List Nat :=
  (pairs.filter fun r => (bits ns).testBit r.2.1).map fun r => r.1

theorem pairs_layers : madeFrom (madeFrom (madeFrom (pairs.map fun r => r.1))) = [] := by
  decide +kernel

theorem Layered.fewer {k n : Nat} (h : Layered (k + 1) n) : Layered k n := by
  induction k generalizing n with
  | zero => trivial
  | succ k ih =>
    obtain ⟨a, b, hmakes, ha⟩ := h
    exact ⟨a, b, hmakes, ih ha⟩

theorem Layered.of_le {k m n : Nat} (h : Layered k n) (hm : m ≤ k) : Layered m n := by
  induction hm with
  | refl => exact h
  | step _ ih => exact ih h.fewer

theorem Layered.mem_madeFrom {k : Nat} {ns : List Nat}
    (hns : ∀ n, syllableBits.testBit n = false → Layered k n → n ∈ ns) {n : Nat}
    (hn : syllableBits.testBit n = false) (h : Layered (k + 1) n) : n ∈ madeFrom ns := by
  obtain ⟨a, b, hmakes, ha⟩ := h
  cases hmakes with
  | pair row =>
    have hfirst : syllableBits.testBit a = false :=
      Text.testBit_of_land arranged.pairs_syllable
        (Text.testBit_bits.mpr (List.mem_map.mpr ⟨_, row, rfl⟩))
    have hbit : (bits ns).testBit a = true := Text.testBit_bits.mpr (hns a hfirst ha)
    exact List.mem_map.mpr ⟨_, List.mem_filter.mpr ⟨row, hbit⟩, rfl⟩
  | syllable hl hv =>
    rw [testBit_open (syllable_count hl hv)] at hn
    cases hn
  | closing hs ht htails =>
    rw [testBit_closed hs ht htails] at hn
    cases hn

theorem not_layered_lead {l : Nat} (hl : l < leads) : ¬ Layered 1 (firstLead + l) := by
  rintro ⟨a, b, hmakes, -⟩
  have hmade := hmakes.made
  rw [Text.testBit_of_land arranged.letter_made (testBit_lead hl)] at hmade
  cases hmade

theorem not_layered_open {s : Nat} (hs : s < leads * vowels) :
    ¬ Layered 2 (firstSyllable + s * tails) := by
  rintro ⟨a, b, hmakes, ha⟩
  have hsyllable := testBit_open hs
  generalize hw : firstSyllable + s * tails = w at hmakes hsyllable
  cases hmakes with
  | pair row => exact not_pair_of_syllable hsyllable row
  | syllable hl hv => exact not_layered_lead hl ha
  | closing hs' ht htails =>
    simp only [tails] at *
    omega

/-- No character has more than three layers. -/
theorem not_layered (n : Nat) : ¬ Layered 4 n := by
  cases hn : syllableBits.testBit n with
  | false =>
    intro h
    have hnone : n ∈ madeFrom (madeFrom (madeFrom (pairs.map fun r => r.1))) := by
      refine Layered.mem_madeFrom (fun m hm hlayers => ?_) hn h
      refine Layered.mem_madeFrom (fun m hm hlayers => ?_) hm hlayers
      refine Layered.mem_madeFrom (fun m hm hlayers => ?_) hm hlayers
      obtain ⟨a, b, hmakes, -⟩ := hlayers
      cases hmakes with
      | pair row => exact List.mem_map.mpr ⟨_, row, rfl⟩
      | syllable hl hv =>
        rw [testBit_open (syllable_count hl hv)] at hm
        cases hm
      | closing hs ht htails =>
        rw [testBit_closed hs ht htails] at hm
        cases hm
    rw [pairs_layers] at hnone
    cases hnone
  | true =>
    rintro ⟨a, b, hmakes, ha⟩
    cases hmakes with
    | pair row => exact not_pair_of_syllable hn row
    | syllable hl hv => exact not_layered_lead hl (ha.of_le (by decide))
    | closing hs ht htails => exact not_layered_open hs (ha.of_le (by decide))

theorem takeApart_simple {k n : Nat} (h : Simple n) : takeApart k n = [n] := by
  cases k with
  | zero => rfl
  | succ k => rw [takeApart, h]

theorem takeApart_of_makes {k a b w : Nat} (h : Makes a b w) :
    takeApart (k + 1) w = takeApart k a ++ [b] := by
  rw [takeApart, halves_iff.mpr h]

theorem takeApart_succ {k n : Nat} (h : ¬ Layered (k + 1) n) :
    takeApart (k + 1) n = takeApart k n := by
  induction k generalizing n with
  | zero =>
    rcases simple_or_made n with hn | ⟨a, b, hn⟩
    · rw [takeApart_simple hn, takeApart_simple hn]
    · exact absurd ⟨a, b, hn, trivial⟩ h
  | succ k ih =>
    rcases simple_or_made n with hn | ⟨a, b, hn⟩
    · rw [takeApart_simple hn, takeApart_simple hn]
    · have ha : ¬ Layered (k + 1) a := fun ha => h ⟨a, b, hn, ha⟩
      rw [takeApart_of_makes hn, takeApart_of_makes hn, ih ha]

theorem takeApart_made {a b w : Nat} (h : Makes a b w) :
    takeApart mostLayers w = takeApart mostLayers a ++ [b] := by
  have ha : ¬ Layered 8 a := fun ha => not_layered a (ha.of_le (by decide))
  rw [mostLayers, takeApart_of_makes h, takeApart_succ ha]

theorem simple_of_mem_takeApart {k n : Nat} (hn : ¬ Layered (k + 1) n) :
    ∀ m ∈ takeApart k n, Simple m := by
  intro m hm
  induction k generalizing n with
  | zero =>
    obtain rfl := List.mem_singleton.mp hm
    rcases simple_or_made m with hsimple | ⟨a, b, hmakes⟩
    · exact hsimple
    · exact absurd ⟨a, b, hmakes, trivial⟩ hn
  | succ k ih =>
    rcases simple_or_made n with hsimple | ⟨a, b, hmakes⟩
    · rw [takeApart_simple hsimple] at hm
      exact List.mem_singleton.mp hm ▸ hsimple
    · rw [takeApart_of_makes hmakes] at hm
      rcases List.mem_append.mp hm with hm | hm
      · exact ih (fun ha => hn ⟨a, b, hmakes, ha⟩) hm
      · exact List.mem_singleton.mp hm ▸ hmakes.simple_second

theorem Shared.takeApart {Q : Nat → Prop} (hQ : Shared Q) {k n : Nat} (hn : Q n) :
    ∀ m ∈ takeApart k n, Q m := by
  intro m hm
  induction k generalizing n with
  | zero => exact List.mem_singleton.mp hm ▸ hn
  | succ k ih =>
    rcases simple_or_made n with hsimple | ⟨a, b, hmakes⟩
    · rw [takeApart_simple hsimple] at hm
      exact List.mem_singleton.mp hm ▸ hn
    · obtain ⟨ha, hb⟩ := (hQ hmakes).mp hn
      rw [takeApart_of_makes hmakes] at hm
      rcases List.mem_append.mp hm with hm | hm
      · exact ih ha hm
      · exact List.mem_singleton.mp hm ▸ hb

end Layers

end Banter.Url
