import Banter.Number.Decimal
import Banter.Proofs.Number.Quotient

/-!
What is read from a text is a number, unless the text is the word for what is none: no numeral is
too long, too great or too small to denote a double that compares.
-/
namespace Banter

namespace Binary64
open Float.Model Float.Model.UnpackedFloat

theorem isNaN_ite {p : Prop} [Decidable p] {u v : UnpackedFloat} (hu : u.isNaN = false)
    (hv : v.isNaN = false) : (if p then u else v).isNaN = false := by
  by_cases h : p
  · rw [if_pos h, hu]
  · rw [if_neg h, hv]

theorem isNaN_dite {p : Prop} [Decidable p] {u : p → UnpackedFloat} {v : ¬ p → UnpackedFloat}
    (hu : ∀ h, (u h).isNaN = false) (hv : ∀ h, (v h).isNaN = false) :
    (if h : p then u h else v h).isNaN = false := by
  by_cases h : p
  · rw [dif_pos h, hu h]
  · rw [dif_neg h, hv h]

/-- An exponent field that is not full belongs to a number. -/
theorem isNaN_unpack {b : BitVec Format.binary64.numBits} (hmax : ¬ unpackExponent b = -1#11) :
    (UnpackedFloat.unpack Format.binary64 b).isNaN = false := by
  unfold UnpackedFloat.unpack
  dsimp only
  rw [if_neg hmax]
  exact isNaN_ite (isNaN_dite (fun _ => rfl) fun _ => rfl) rfl

theorem isNaN_unpack_packComponents (s : Sign) {biased : Nat} (h : biased < 2047) (m : BitVec 52) :
    (UnpackedFloat.unpack Format.binary64
      (packComponents Format.binary64 s (BitVec.ofNat 11 biased) m)).isNaN = false := by
  refine isNaN_unpack ?_
  rw [unpackExponent_packComponents, ← BitVec.toNat_inj, BitVec.toNat_ofNat,
    Nat.mod_eq_of_lt (by omega)]
  show ¬ biased = 2047
  omega

theorem isNaN_pack (u : UnpackedFloat) : (Float.Model.pack u).unpack.isNaN = u.isNaN := by
  cases u with
  | notANumber => rfl
  | infinity s => cases s <;> rfl
  | zero s => cases s <;> rfl
  | finite s m e hm =>
    show (UnpackedFloat.unpack Format.binary64 (UnpackedFloat.pack Format.binary64 _)).isNaN = false
    unfold UnpackedFloat.pack
    dsimp only
    split_ifs with hgreat
    · cases s <;> rfl
    · exact isNaN_unpack_packComponents s (by omega) _
    · exact isNaN_unpack_packComponents s (by decide) _

theorem isNaN_neg (x : Float) : (-x).isNaN = x.isNaN := by
  have hsign : ∀ u : UnpackedFloat, u.neg.isNaN = u.isNaN := by
    intro u
    cases u <;> rfl
  exact (isNaN_pack _).trans (hsign x.toModel.unpack)

theorem isNaN_roundWithAccuracy (s : Sign) (m : Nat) (e : Int) (a : Accuracy) :
    (roundWithAccuracy Format.binary64 s m e a).isNaN = false := by
  unfold roundWithAccuracy
  exact isNaN_dite (fun _ => rfl) fun _ => rfl

/-- A finite number other than zero leaves no product and no quotient undefined. -/
theorem isNaN_finite_mul (s : Sign) (m : Nat) (e : Int) (hm : 0 < m) (u : UnpackedFloat) :
    (UnpackedFloat.mul Format.binary64 (.finite s m e hm) u).isNaN = u.isNaN := by
  cases u with
  | finite s' m' e' hm' => exact isNaN_roundWithAccuracy _ _ _ _
  | _ => rfl

theorem isNaN_finite_div (s : Sign) (m : Nat) (e : Int) (hm : 0 < m) (u : UnpackedFloat) :
    (UnpackedFloat.div Format.binary64 (.finite s m e hm) u).isNaN = u.isNaN := by
  cases u with
  | finite s' m' e' hm' => exact isNaN_roundWithAccuracy _ _ _ _
  | _ => rfl

theorem isNaN_powerOfTen : ∀ i : Fin 23, (Float.exactlyRepresentablePowersOfTen[i]).isNaN = false := by
  decide

theorem isNaN_unpacked_ofScientific (m : Nat) (e : Int) :
    (UnpackedFloat.ofScientific Format.binary64 m e).isNaN = false := by
  unfold UnpackedFloat.ofScientific
  refine isNaN_dite (fun _ => rfl) fun hm => ?_
  refine isNaN_ite rfl (isNaN_ite rfl (isNaN_ite ?_ ?_))
  · exact isNaN_finite_mul _ _ _ _ _
  · exact isNaN_finite_div _ _ _ _ _

/-- Few digits are scaled by a power of ten that is a double, all others are rounded at once. -/
theorem isNaN_ofScientific {m : Nat} (hm : 0 < m) (negative : Bool) (e : Nat) :
    (Float.ofScientific m negative e).isNaN = false := by
  unfold Float.ofScientific
  by_cases hfew : m < 2 ^ 53 ∧ e ≤ 22
  · have hpower := isNaN_powerOfTen ⟨e, Nat.lt_succ_of_le hfew.2⟩
    obtain ⟨hpos, hreads⟩ := (denotes_toFloat hm hfew.1).reads
    rw [dif_pos hfew]
    cases negative with
    | false =>
      refine (isNaN_pack _).trans ?_
      rw [hreads, isNaN_finite_mul]
      exact hpower
    | true =>
      refine (isNaN_pack _).trans ?_
      rw [hreads, isNaN_finite_div]
      exact hpower
  · rw [dif_neg hfew]
    exact (isNaN_pack _).trans (isNaN_unpacked_ofScientific m _)

end Binary64

namespace Decimal

theorem isNaN_nearest (negative : Bool) (m : Nat) (e : Int) :
    (nearest negative m e).isNaN = false := by
  unfold nearest
  dsimp only
  generalize ((Nat.toDigits 10 m).length : Int) + e = size
  have hmagnitude : (if m = 0 ∨ size < -330 then 0.0 else if 310 < size then infinity
      else if 0 ≤ e then Float.ofScientific m false e.toNat
      else Float.ofScientific m true (-e).toNat).isNaN = false := by
    split_ifs with hzero
    · rfl
    · rfl
    · exact Binary64.isNaN_ofScientific (by omega) false _
    · exact Binary64.isNaN_ofScientific (by omega) true _
  cases negative with
  | false => exact hmagnitude
  | true => exact (Binary64.isNaN_neg _).trans hmagnitude

def unsigned : List Char → List Char
  | '-' :: rest => rest
  | '+' :: rest => rest
  | s => s

/-- The word for what is no number, in any case, behind a sign or none. -/
def NamesNoNumber (s : List Char) : Prop :=
  (unsigned s).map Char.toLower = ['n', 'a', 'n']

theorem exists_sign (s : List Char) :
    ∃ sign, s = sign ++ unsigned s ∧ ∀ c ∈ sign, c = '+' ∨ c = '-' := by
  unfold unsigned
  split
  · exact ⟨['-'], rfl, by simp⟩
  · exact ⟨['+'], rfl, by simp⟩
  · exact ⟨[], rfl, by simp⟩

theorem exists_parse?_eq (s : List Char) : ∃ negative, parse? s = ofUnsigned negative (unsigned s) := by
  unfold parse?
  split
  · exact ⟨true, rfl⟩
  · exact ⟨false, rfl⟩
  · next hminus hplus =>
    have hnone : unsigned s = s := by
      unfold unsigned
      split
      · exact absurd rfl (hminus _)
      · exact absurd rfl (hplus _)
      · rfl
    exact ⟨false, by rw [hnone]⟩

theorem ofWord_of_nan (negative : Bool) {s : List Char} (h : s.map Char.toLower = ['n', 'a', 'n']) :
    ofWord negative s = some notANumber := by
  unfold ofWord
  rw [h]
  rfl

theorem ofWord_cases {negative : Bool} {s : List Char} {x : Float}
    (h : ofWord negative s = some x) :
    (s.map Char.toLower = ['n', 'a', 'n'] ∧ x.isNaN = true) ∨
      (s.map Char.toLower).head? = some 'i' ∧ x.isNaN = false := by
  unfold ofWord at h
  dsimp only at h
  by_cases hinf : s.map Char.toLower = "inf".toList ∨ s.map Char.toLower = "infinity".toList
  · rw [if_pos hinf] at h
    obtain rfl := Option.some.inj h
    refine .inr ⟨?_, ?_⟩
    · rcases hinf with hinf | hinf
      · rw [hinf]
        rfl
      · rw [hinf]
        rfl
    · cases negative <;> rfl
  · rw [if_neg hinf] at h
    split_ifs at h with hnan
    obtain rfl := Option.some.inj h
    exact .inl ⟨hnan, by rfl⟩

/-- A text is read as one of the words, or as a numeral that begins with a digit or a point. -/
theorem ofUnsigned_cases {negative : Bool} {s : List Char} {x : Float}
    (h : ofUnsigned negative s = some x) :
    ofWord negative s = some x ∨
      ofWord negative s = none ∧ (∃ c ∈ s.head?, c.isDigit = true ∨ c = '.') ∧
        ∃ n : Numeral, n.value = x := by
  unfold ofUnsigned at h
  cases hword : ofWord negative s with
  | some y =>
    rw [hword] at h
    exact .inl h
  | none =>
    rw [hword] at h
    refine .inr ⟨rfl, ?_, ?_⟩
    · cases s with
      | nil => cases h
      | cons c rest =>
        refine ⟨c, rfl, ?_⟩
        by_contra hother
        rw [not_or] at hother
        simp [takeDigits, hother.1, hother.2] at h
    · dsimp only at h
      split_ifs at h
      split at h
      · exact ⟨_, Option.some.inj h⟩
      · cases h

theorem parse?_isNaN_iff {s : List Char} {x : Float} (h : parse? s = some x) :
    x.isNaN = true ↔ NamesNoNumber s := by
  obtain ⟨negative, hparse⟩ := exists_parse?_eq s
  rw [hparse] at h
  rcases ofUnsigned_cases h with hword | ⟨hnone, -, n, rfl⟩
  · rcases ofWord_cases hword with ⟨hnan, hx⟩ | ⟨hhead, hx⟩
    · exact iff_of_true hx hnan
    · refine iff_of_false (Bool.eq_false_iff.mp hx) fun hnan => ?_
      rw [NamesNoNumber] at hnan
      rw [hnan] at hhead
      cases hhead
  · refine iff_of_false (Bool.eq_false_iff.mp (isNaN_nearest _ _ _)) fun hnan => ?_
    rw [ofWord_of_nan negative hnan] at hnone
    cases hnone

theorem parse?_of_namesNoNumber {s : List Char} (h : NamesNoNumber s) :
    parse? s = some notANumber := by
  obtain ⟨negative, hparse⟩ := exists_parse?_eq s
  rw [hparse, ofUnsigned, ofWord_of_nan negative h]

end Decimal
end Banter
