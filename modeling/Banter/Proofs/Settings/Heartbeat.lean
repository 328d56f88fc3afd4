import Banter.Proofs.Number.NoNumber
import Banter.Proofs.Settings.Acceptance
import Mathlib.Tactic.Tauto

/-!
The time between two ticks is above zero, unless it is given as what is no number: the check refuses
what is zero or below, and what is no number is neither.
-/
namespace Banter

namespace Validation

open Decimal (NamesNoNumber)

theorem eq_or_eq_of_toLower {c small : Char} (capital : Char) (h : c.toLower = small)
    (hcase : capital.toNat + 32 = small.toNat) : c = small ∨ c = capital := by
  unfold Char.toLower at h
  split_ifs at h with hupper
  · right
    have hbound : c.val.toNat ≤ 90 := UInt32.le_iff_toNat_le.mp hupper.2
    have hval : (c.val.toNat + 32) % 2 ^ 32 = capital.val.toNat + 32 := by
      rw [← h] at hcase
      exact hcase.symm
    exact Char.ext (UInt32.toNat_inj.mp (by omega))
  · exact .inl h

/-- The characters of the word for what is no number, of a sign and an underscore. -/
def nameChars : List Char := ['n', 'N', 'a', 'A', '+', '-', '_']

theorem mem_nameChars_of_toLower {c : Char} (h : c.toLower ∈ ['n', 'a', 'n']) : c ∈ nameChars := by
  have hcases : c.toLower = 'n' ∨ c.toLower = 'a' := by
    simp only [List.mem_cons, List.not_mem_nil, or_false] at h
    tauto
  rcases hcases with h | h
  · obtain rfl | rfl := eq_or_eq_of_toLower 'N' h rfl
    · decide
    · decide
  · obtain rfl | rfl := eq_or_eq_of_toLower 'A' h rfl
    · decide
    · decide

theorem mem_nameChars {s : List Char} (h : NamesNoNumber s) : ∀ c ∈ s, c ∈ nameChars := by
  intro c hc
  obtain ⟨sign, hs, hsign⟩ := Decimal.exists_sign s
  rw [hs] at hc
  obtain hc | hc := List.mem_append.mp hc
  · obtain rfl | rfl := hsign c hc
    · decide
    · decide
  · refine mem_nameChars_of_toLower ?_
    rw [← h]
    exact List.mem_map_of_mem hc

theorem trimSpacing_eq_self {s : List Char} (h : ∀ c ∈ s, isSpacing c = false) :
    trimSpacing s = s := by
  have hnone : ∀ t : List Char, (∀ c ∈ t, isSpacing c = false) → t.dropWhile isSpacing = t := by
    intro t ht
    cases t with
    | nil => rfl
    | cons c t => rw [List.dropWhile_cons, ht c List.mem_cons_self, if_neg Bool.false_ne_true]
  rw [trimSpacing, hnone s h, hnone s.reverse fun c hc => h c (List.mem_reverse.mp hc),
    List.reverse_reverse]

theorem namesNoNumber_of_filter {s : List Char} {x : Float}
    (hread : Decimal.parse? (trimSpacing s) = some x) (h : NamesNoNumber (s.filter (· ≠ '_'))) :
    NamesNoNumber (trimSpacing s) := by
  have hchars : ∀ c ∈ s, c ∈ nameChars := by
    intro c hc
    by_cases hscore : c = '_'
    · rw [hscore]
      decide
    · exact mem_nameChars h c (List.mem_filter.mpr ⟨hc, by simpa using hscore⟩)
  have hspacing : ∀ c ∈ nameChars, isSpacing c = false := by
    simp [nameChars, isSpacing, Text.isBlank]
  have hstart : ∀ c ∈ nameChars, ¬ (c.isDigit = true ∨ c = '.') ∧ c.toLower ≠ 'i' := by
    simp [nameChars]
  rw [trimSpacing_eq_self fun c hc => hspacing c (hchars c hc)] at hread ⊢
  obtain ⟨negative, hparse⟩ := Decimal.exists_parse?_eq s
  rw [hparse] at hread
  have hunsigned : ∀ c ∈ (Decimal.unsigned s).head?, c ∈ nameChars := by
    intro c hc
    obtain ⟨sign, hs, -⟩ := Decimal.exists_sign s
    refine hchars c ?_
    rw [hs]
    exact List.mem_append_right _ (List.mem_of_mem_head? hc)
  rcases Decimal.ofUnsigned_cases hread with hword | ⟨-, ⟨c, hc, hnumeral⟩, -⟩
  · rcases Decimal.ofWord_cases hword with ⟨hnan, -⟩ | ⟨hhead, -⟩
    · exact hnan
    · rw [List.head?_map] at hhead
      obtain ⟨c, hc, hletter⟩ := Option.map_eq_some_iff.mp hhead
      exact absurd hletter (hstart c (hunsigned c hc)).2
  · exact absurd hnumeral (hstart c (hunsigned c hc)).1

theorem dropUnderscores_eq_some {s plain : List Char} (h : dropUnderscores s = some plain) :
    plain = s.filter (· ≠ '_') := by
  unfold dropUnderscores at h
  split_ifs at h
  exact (Option.some.inj h).symm

/-- The word for what is no number, less the spacing around it or single underscores inside. -/
def TellsNoNumber (s : List Char) : Prop :=
  NamesNoNumber (trimSpacing s) ∨ ∃ plain, dropUnderscores s = some plain ∧ NamesNoNumber plain

theorem floatOfText_isNaN_iff {s : List Char} {x : Float} (h : floatOfText s = .ok x) :
    x.isNaN = true ↔ TellsNoNumber s := by
  unfold floatOfText at h
  unfold TellsNoNumber
  cases htrimmed : Decimal.parse? (trimSpacing s) with
  | some y =>
    rw [htrimmed] at h
    obtain rfl := Except.ok.inj h
    rw [Decimal.parse?_isNaN_iff htrimmed]
    refine ⟨.inl, ?_⟩
    rintro (hnamed | ⟨plain, hplain, hnamed⟩)
    · exact hnamed
    · rw [dropUnderscores_eq_some hplain] at hnamed
      exact namesNoNumber_of_filter htrimmed hnamed
  | none =>
    rw [htrimmed] at h
    have hunnamed : ¬ NamesNoNumber (trimSpacing s) := by
      intro hnamed
      rw [Decimal.parse?_of_namesNoNumber hnamed] at htrimmed
      cases htrimmed
    cases hplain : dropUnderscores s with
    | none => rw [hplain] at h; cases h
    | some plain =>
      rw [hplain, Option.bind_some] at h
      cases hread : Decimal.parse? plain with
      | none => rw [hread] at h; cases h
      | some y =>
        rw [hread] at h
        obtain rfl := Except.ok.inj h
        rw [Decimal.parse?_isNaN_iff hread]
        simp [hunnamed]

/-- A value that is read as a double, but as no number. -/
def GivesNoNumber : Json.Value → Prop
  | .float x => x.isNaN = true
  | .str s => ∃ cs, Text.CodePoint.chars? s = some cs ∧ TellsNoNumber cs
  | _ => False

theorem asFloat_isNaN_iff {v : Json.Value} {x : Float} (h : asFloat v = .ok x) :
    x.isNaN = true ↔ GivesNoNumber v := by
  cases v with
  | null => cases h
  | arr items => cases h
  | obj fields => cases h
  | bool b =>
    obtain rfl := Except.ok.inj h
    cases b <;> exact iff_of_false (by decide) id
  | int n =>
    unfold asFloat at h
    dsimp only at h
    split_ifs at h with hfinite
    · obtain rfl := Except.ok.inj h
      exact iff_of_false (Bool.eq_false_iff.mp (Decimal.isNaN_nearest _ _ _)) id
    · cases h
  | float y =>
    obtain rfl := Except.ok.inj h
    rfl
  | str s =>
    have hread : readable s >>= floatOfText = .ok x := h
    unfold readable at hread
    cases hchars : Text.CodePoint.chars? s with
    | none =>
      rw [hchars] at hread
      cases hread
    | some cs =>
      rw [hchars] at hread
      have hvalue : floatOfText cs = .ok x := hread
      rw [floatOfText_isNaN_iff hvalue]
      show _ ↔ ∃ cs', Text.CodePoint.chars? s = some cs' ∧ TellsNoNumber cs'
      rw [hchars]
      simp

end Validation

namespace Settings

theorem asHeartbeat_eq_ok_iff {v : Json.Value} {x : Float} :
    asHeartbeat v = .ok x ↔ Validation.asFloat v = .ok x ∧ ¬ x ≤ 0.0 := by
  unfold asHeartbeat
  cases Validation.asFloat v with
  | error issues => simp
  | ok y =>
    dsimp only
    split_ifs with hbelow
    · refine iff_of_false (fun h => by cases h) ?_
      rintro ⟨heq, habove⟩
      obtain rfl := Except.ok.inj heq
      exact habove hbelow
    · refine ⟨fun h => ?_, fun h => h.1⟩
      obtain rfl := Except.ok.inj h
      exact ⟨rfl, hbelow⟩

/-- What the check leaves is above zero, or no number. -/
theorem heartbeat_pos_iff {src : Sources} {s : Settings} (h : ofSources src = .ok s) :
    0.0 < s.heartbeat ↔ ¬ Validation.GivesNoNumber (src.value .heartbeat (.float 0.6)) := by
  obtain ⟨hread, habove⟩ := asHeartbeat_eq_ok_iff.mp (ofSources_eq_ok_iff.mp h).heartbeat
  have hzero : (0.0 : Float).isNaN = false := rfl
  rw [← Validation.asFloat_isNaN_iff hread, Bool.not_eq_true]
  refine ⟨fun hpos => (Binary64.isNaN_of_lt hpos).2, fun hnumber => ?_⟩
  exact (Binary64.not_le_iff hnumber hzero).mp habove

end Settings
end Banter
