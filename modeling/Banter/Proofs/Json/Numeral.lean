import Banter.Json.Reader
import Mathlib.Data.List.TakeWhile
import Mathlib.Tactic.SplitIfs

/-! How numbers are spelled in JSON, and that the reader takes just these spellings. -/
namespace Banter.Json

open Banter.Decimal (takeDigits takeExponent? digitsValue Numeral)

def signed (negative : Bool) (n : Nat) : Int :=
  if negative then -n else n

def Digits (ds : List Char) : Prop :=
  ds ≠ [] ∧ ∀ c ∈ ds, c.isDigit = true

/-- Digits without superfluous zeros in front. -/
def Whole (ds : List Char) : Prop :=
  Digits ds ∧ (ds.head? = some '0' → ds = ['0'])

/-- The digits behind a point, or nothing at all. -/
inductive Fraction : List Char → List Char → Prop
  | absent : Fraction [] []
  | point {ds : List Char} (hd : Digits ds) : Fraction ds ('.' :: ds)

inductive Exponent : Int → List Char → Prop
  | absent : Exponent 0 []
  | bare {mark : Char} {ds : List Char} (hm : mark = 'e' ∨ mark = 'E') (hd : Digits ds) :
    Exponent (signed false (digitsValue ds)) (mark :: ds)
  | plus {mark : Char} {ds : List Char} (hm : mark = 'e' ∨ mark = 'E') (hd : Digits ds) :
    Exponent (signed false (digitsValue ds)) (mark :: '+' :: ds)
  | minus {mark : Char} {ds : List Char} (hm : mark = 'e' ∨ mark = 'E') (hd : Digits ds) :
    Exponent (signed true (digitsValue ds)) (mark :: '-' :: ds)

inductive Unsigned (negative : Bool) : Value → List Char → Prop
  | int {ds : List Char} (hw : Whole ds) (hl : ds.length ≤ digitLimit) :
    Unsigned negative (.int (signed negative (digitsValue ds))) ds
  | float {ds fs ft et : List Char} {e : Int} (hw : Whole ds) (hf : Fraction fs ft)
    (he : Exponent e et) (hne : ft ++ et ≠ []) :
    Unsigned negative (.float (Numeral.value ⟨negative, ds, fs, e⟩)) (ds ++ (ft ++ et))

def NoDigit (s : List Char) : Prop :=
  ∀ c rest, s = c :: rest → c.isDigit = false

def NoFraction (s : List Char) : Prop :=
  ∀ fs ft rest, Fraction fs ft → s = ft ++ rest → ft = []

def NoExponent (s : List Char) : Prop :=
  ∀ e et rest, Exponent e et → s = et ++ rest → et = []

/-- Nothing that would go on with a number follows. -/
structure Terse (s : List Char) : Prop where
  digit : NoDigit s
  fraction : NoFraction s
  exponent : NoExponent s

theorem takeDigits_append {ds rest : List Char} (hd : ∀ c ∈ ds, c.isDigit = true)
    (hn : NoDigit rest) : takeDigits (ds ++ rest) = (ds, rest) := by
  have hstop : rest.takeWhile Char.isDigit = [] ∧ rest.dropWhile Char.isDigit = rest := by
    cases rest with
    | nil => exact ⟨rfl, rfl⟩
    | cons c more =>
      have hc : c.isDigit = false := hn c more rfl
      simp [hc]
  rw [takeDigits, List.takeWhile_append_of_pos hd, List.dropWhile_append_of_pos hd, hstop.1,
    hstop.2, List.append_nil]

theorem takeDigits_sound {s ds rest : List Char} (h : takeDigits s = (ds, rest)) :
    s = ds ++ rest ∧ (∀ c ∈ ds, c.isDigit = true) ∧ NoDigit rest := by
  cases h
  refine ⟨(List.takeWhile_append_dropWhile).symm, fun c hc => List.mem_takeWhile_imp hc, ?_⟩
  intro c more hrest
  have hhead := List.head?_dropWhile_not Char.isDigit s
  rw [hrest] at hhead
  simpa using hhead

theorem Fraction.noDigit {fs ft rest : List Char} (h : Fraction fs ft) (hn : NoDigit rest) :
    NoDigit (ft ++ rest) := by
  cases h with
  | absent => exact hn
  | point hd =>
    intro c more hc
    cases hc
    rfl

theorem Exponent.noDigit {e : Int} {et rest : List Char} (h : Exponent e et) (hn : NoDigit rest) :
    NoDigit (et ++ rest) := by
  cases h with
  | absent => exact hn
  | bare hm | plus hm | minus hm =>
    intro c more hc
    cases hc
    obtain rfl | rfl := hm <;> rfl

theorem scanWhole_append {ds rest : List Char} (hw : Whole ds) (hn : NoDigit rest) :
    scanWhole (ds ++ rest) = some (ds, rest) := by
  obtain ⟨⟨hne, hd⟩, hzero⟩ := hw
  cases ds with
  | nil => exact absurd rfl hne
  | cons d ds =>
    by_cases h0 : d = '0'
    · subst d
      obtain rfl : ds = [] := by simpa using hzero rfl
      rfl
    · have htake := takeDigits_append hd hn
      rw [List.cons_append] at htake ⊢
      unfold scanWhole
      split
      · next heq =>
        cases heq
        exact absurd rfl h0
      · rw [htake]

theorem scanWhole_sound {s ds rest : List Char} (h : scanWhole s = some (ds, rest)) :
    s = ds ++ rest ∧ Whole ds ∧ (ds = ['0'] ∨ NoDigit rest) := by
  unfold scanWhole at h
  split at h
  · cases h
    refine ⟨rfl, ⟨⟨by simp, ?_⟩, fun _ => rfl⟩, .inl rfl⟩
    simp only [List.mem_singleton]
    rintro c rfl
    rfl
  · next hzero =>
    split at h
    · cases h
    · next digits after hne htake =>
      cases h
      obtain ⟨hs, hd, hn⟩ := takeDigits_sound htake
      refine ⟨hs, ⟨⟨fun hnil => hne (by simp [hnil]), hd⟩, ?_⟩, .inr hn⟩
      intro hhead
      cases ds with
      | nil => cases hhead
      | cons d ds =>
        obtain rfl : d = '0' := Option.some.inj hhead
        exact absurd hs (hzero _)

theorem Digits.append {ds more : List Char} (hd : Digits ds) (hm : ∀ c ∈ more, c.isDigit = true) :
    Digits (ds ++ more) := by
  refine ⟨fun h => hd.1 (List.append_eq_nil_iff.mp h).1, ?_⟩
  intro c hc
  obtain hc | hc := List.mem_append.mp hc
  · exact hd.2 c hc
  · exact hm c hc

theorem takeDigits_of_digits {ds rest : List Char} (hd : Digits ds) (hn : NoDigit rest) :
    ∃ d more, ds = d :: more ∧ takeDigits (ds ++ rest) = (d :: more, rest) := by
  obtain ⟨d, more, rfl⟩ := List.exists_cons_of_ne_nil hd.1
  exact ⟨d, more, rfl, takeDigits_append hd.2 hn⟩

theorem scanFraction_point {ds rest : List Char} (hd : Digits ds) (hn : NoDigit rest) :
    scanFraction ('.' :: (ds ++ rest)) = (ds, rest) := by
  obtain ⟨d, more, rfl, htake⟩ := takeDigits_of_digits hd hn
  simp only [scanFraction, htake]

theorem scanFraction_sound {s fs rest : List Char} (h : scanFraction s = (fs, rest)) :
    ∃ ft, s = ft ++ rest ∧ Fraction fs ft ∧ (ft ≠ [] → NoDigit rest) := by
  unfold scanFraction at h
  split at h
  · next after =>
    split at h
    · cases h
      exact ⟨[], rfl, .absent, fun hne => absurd rfl hne⟩
    · next digits more hne htake =>
      cases h
      obtain ⟨hs, hd, hn⟩ := takeDigits_sound htake
      refine ⟨'.' :: fs, by rw [hs]; rfl, .point ⟨fun hnil => hne (by simp [hnil]), hd⟩, ?_⟩
      exact fun _ => hn
  · cases h
    exact ⟨[], rfl, .absent, fun hne => absurd rfl hne⟩

theorem exists_digits (s : List Char) :
    ∃ ds rest, s = ds ++ rest ∧ (∀ c ∈ ds, c.isDigit = true) ∧ NoDigit rest :=
  ⟨_, _, takeDigits_sound (s := s) rfl⟩

theorem scanFraction_eq_nil_iff {s : List Char} : scanFraction s = ([], s) ↔ NoFraction s := by
  constructor
  · intro h fs ft rest hf hs
    cases hf with
    | absent => rfl
    | point hd =>
      obtain ⟨ds, more, rfl, hds, hn⟩ := exists_digits rest
      have hall := scanFraction_point (hd.append hds) hn
      rw [List.append_assoc, ← List.cons_append, ← hs, h] at hall
      exact absurd (congrArg Prod.fst hall).symm (hd.append hds).1
  · intro hn
    cases h : scanFraction s with
    | mk fs rest =>
      obtain ⟨ft, hs, hf, -⟩ := scanFraction_sound h
      obtain rfl := hn fs ft rest hf hs
      cases hf
      rw [hs, List.nil_append]

/-- The digits of an exponent behind its mark and sign. -/
def exponentDigits? (negative : Bool) (s : List Char) : Option (Int × List Char) :=
  match takeDigits s with
  | ([], _) => none
  | (digits, rest) => some (signed negative (digitsValue digits), rest)

theorem takeExponent_cons (mark : Char) (s : List Char) :
    takeExponent? (mark :: s) =
      if mark = 'e' ∨ mark = 'E' then
        match s with
        | '-' :: more => exponentDigits? true more
        | '+' :: more => exponentDigits? false more
        | _ => exponentDigits? false s
      else none := rfl

theorem exponentDigits_append {ds rest : List Char} (negative : Bool) (hd : Digits ds)
    (hn : NoDigit rest) : exponentDigits? negative (ds ++ rest) =
      some (signed negative (digitsValue ds), rest) := by
  obtain ⟨d, more, rfl, htake⟩ := takeDigits_of_digits hd hn
  simp only [exponentDigits?, htake]

theorem exponentDigits_sound {s rest : List Char} {negative : Bool} {e : Int}
    (h : exponentDigits? negative s = some (e, rest)) :
    ∃ ds, s = ds ++ rest ∧ Digits ds ∧
      e = signed negative (digitsValue ds) := by
  unfold exponentDigits? at h
  split at h
  · cases h
  · next digits more hne htake =>
    cases h
    obtain ⟨hs, hd, -⟩ := takeDigits_sound htake
    exact ⟨digits, hs, ⟨fun hnil => hne (by simp [hnil]), hd⟩, rfl⟩

theorem takeExponent_append {e : Int} {et rest : List Char} (he : Exponent e et)
    (hne : et ≠ []) (hn : NoDigit rest) : takeExponent? (et ++ rest) = some (e, rest) := by
  cases he with
  | absent => exact absurd rfl hne
  | bare hm hd =>
    rw [List.cons_append, takeExponent_cons, if_pos hm]
    obtain ⟨d, more, rfl⟩ := List.exists_cons_of_ne_nil hd.1
    have hdigit : d.isDigit = true := hd.2 d List.mem_cons_self
    split
    · next heq =>
      cases heq
      cases hdigit
    · next heq =>
      cases heq
      cases hdigit
    · exact exponentDigits_append false hd hn
  | plus hm hd =>
    rw [List.cons_append, takeExponent_cons, if_pos hm]
    exact exponentDigits_append false hd hn
  | minus hm hd =>
    rw [List.cons_append, takeExponent_cons, if_pos hm]
    exact exponentDigits_append true hd hn

theorem takeExponent_sound {s rest : List Char} {e : Int} (h : takeExponent? s = some (e, rest)) :
    ∃ et, s = et ++ rest ∧ et ≠ [] ∧ Exponent e et := by
  cases s with
  | nil => cases h
  | cons mark s =>
    rw [takeExponent_cons] at h
    split_ifs at h with hm
    split at h
    · obtain ⟨ds, rfl, hd, rfl⟩ := exponentDigits_sound h
      exact ⟨_ :: '-' :: ds, rfl, by simp, .minus hm hd⟩
    · obtain ⟨ds, rfl, hd, rfl⟩ := exponentDigits_sound h
      exact ⟨_ :: '+' :: ds, rfl, by simp, .plus hm hd⟩
    · obtain ⟨ds, rfl, hd, rfl⟩ := exponentDigits_sound h
      exact ⟨_ :: ds, rfl, by simp, .bare hm hd⟩

theorem Exponent.append {e : Int} {et more : List Char} (he : Exponent e et) (hne : et ≠ [])
    (hm : ∀ c ∈ more, c.isDigit = true) : ∃ e', Exponent e' (et ++ more) := by
  cases he with
  | absent => exact absurd rfl hne
  | bare hmark hd => exact ⟨_, .bare hmark (hd.append hm)⟩
  | plus hmark hd => exact ⟨_, .plus hmark (hd.append hm)⟩
  | minus hmark hd => exact ⟨_, .minus hmark (hd.append hm)⟩

theorem takeExponent_eq_none_iff {s : List Char} : takeExponent? s = none ↔ NoExponent s := by
  constructor
  · intro h e et rest he hs
    by_contra hne
    obtain ⟨ds, more, rfl, hds, hn⟩ := exists_digits rest
    obtain ⟨e', he'⟩ := he.append hne hds
    have hall := takeExponent_append he' (by simp [hne]) hn
    rw [List.append_assoc, ← hs, h] at hall
    cases hall
  · intro hn
    cases h : takeExponent? s with
    | none => rfl
    | some found =>
      obtain ⟨et, hs, hne, he⟩ := takeExponent_sound h
      exact absurd (hn _ _ _ he hs) hne

theorem scanFraction_append {fs ft et rest : List Char} {e : Int} (hf : Fraction fs ft)
    (he : Exponent e et) (hne : ft ++ et ≠ []) (hn : NoDigit rest) :
    scanFraction (ft ++ (et ++ rest)) = (fs, et ++ rest) := by
  cases hf with
  | point hd => exact scanFraction_point hd (he.noDigit hn)
  | absent =>
    cases he with
    | absent => exact absurd rfl hne
    | bare hm | plus hm | minus hm => obtain rfl | rfl := hm <;> rfl

theorem scanUnsigned_append {t rest : List Char} {negative : Bool} {v : Value} (start : List Char)
    (hv : Unsigned negative v t) (ht : Terse rest) :
    scanUnsigned start negative (t ++ rest) = .ok (v, rest) := by
  have hnone := takeExponent_eq_none_iff.mpr ht.exponent
  unfold scanUnsigned
  cases hv with
  | int hw hl =>
    have hfrac := scanFraction_eq_nil_iff.mpr ht.fraction
    rw [scanWhole_append hw ht.digit]
    simp only [hfrac, hnone, integer, if_neg (Nat.not_lt.mpr hl)]
    rfl
  | @float _ _ _ et _ hw hf he hne =>
    have hdigit := hf.noDigit (he.noDigit ht.digit)
    rw [List.append_assoc, List.append_assoc, scanWhole_append hw hdigit]
    simp only [scanFraction_append hf he hne ht.digit]
    by_cases het : et = []
    · subst et
      cases he
      cases hf with
      | absent => exact absurd rfl hne
      | point hd =>
        obtain ⟨_, _, rfl⟩ := List.exists_cons_of_ne_nil hd.1
        simp only [List.nil_append, hnone, Option.getD_none]
    · simp only [takeExponent_append he het ht.digit, Option.getD_some]

/-- How a scan of a number ends, apart from texts that are no numbers. -/
theorem scanUnsigned_cases (start : List Char) (negative : Bool) (s : List Char) :
    (∃ flaw left, scanUnsigned start negative s = .error (.malformed flaw left)) ∨
      (∃ t rest v, s = t ++ rest ∧ Unsigned negative v t ∧
        scanUnsigned start negative s = .ok (v, rest)) ∨
      ∃ ds rest, s = ds ++ rest ∧ Whole ds ∧ digitLimit < ds.length ∧ Terse rest ∧
        scanUnsigned start negative s = .error (.digits ds.length) := by
  unfold scanUnsigned
  cases hwhole : scanWhole s with
  | none => exact .inl ⟨_, _, rfl⟩
  | some found =>
    obtain ⟨ds, afterWhole⟩ := found
    obtain ⟨rfl, hw, hstop⟩ := scanWhole_sound hwhole
    cases hfrac : scanFraction afterWhole with
    | mk fs afterFraction =>
      obtain ⟨ft, rfl, hf, -⟩ := scanFraction_sound hfrac
      right
      cases hexp : takeExponent? afterFraction with
      | some found =>
        obtain ⟨e, rest⟩ := found
        obtain ⟨et, rfl, hne, he⟩ := takeExponent_sound hexp
        refine .inl ⟨ds ++ (ft ++ et), rest, _, by simp, .float hw hf he (by simp [hne]), ?_⟩
        simp only [hfrac, hexp]
        cases fs <;> rfl
      | none =>
        cases hf with
        | point hd =>
          refine .inl ⟨ds ++ ('.' :: fs ++ []), afterFraction, _, by simp,
            .float hw (.point hd) .absent (by simp), ?_⟩
          obtain ⟨_, _, rfl⟩ := List.exists_cons_of_ne_nil hd.1
          simp only [hfrac, hexp]
          rfl
        | absent =>
          rw [List.nil_append] at hfrac hstop ⊢
          by_cases hlong : digitLimit < ds.length
          · have hdigit : NoDigit afterFraction := by
              obtain rfl | hn := hstop
              · exact absurd hlong (by decide)
              · exact hn
            refine .inr ⟨ds, afterFraction, rfl, hw, hlong, ⟨hdigit, ?_, ?_⟩, ?_⟩
            · exact scanFraction_eq_nil_iff.mp hfrac
            · exact takeExponent_eq_none_iff.mp hexp
            · simp only [hfrac, hexp, integer, if_pos hlong]
              rfl
          · refine .inl ⟨ds, afterFraction, _, rfl, .int hw (Nat.not_lt.mp hlong), ?_⟩
            simp only [hfrac, hexp, integer, if_neg hlong]
            rfl

theorem scanUnsigned_overlong {ds rest : List Char} (start : List Char) (negative : Bool)
    (hw : Whole ds) (hl : digitLimit < ds.length) (ht : Terse rest) :
    scanUnsigned start negative (ds ++ rest) = .error (.digits ds.length) := by
  have hnone := takeExponent_eq_none_iff.mpr ht.exponent
  have hfrac := scanFraction_eq_nil_iff.mpr ht.fraction
  unfold scanUnsigned
  rw [scanWhole_append hw ht.digit]
  simp only [hfrac, hnone, integer, if_pos hl]
  rfl

end Banter.Json
