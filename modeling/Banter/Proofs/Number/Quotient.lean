import Banter.Draws
import Banter.Proofs.Number.Order
import Mathlib.Algebra.Ring.Nat
import Mathlib.Data.Nat.Log

/-!
Numbers with a significand of full width, as doubles. Scaling one of them by a power of two loses no
bit.
-/
namespace Banter.Binary64
open Float.Model Float.Model.UnpackedFloat

theorem log2_mul_two_pow {m : Nat} (hpos : 0 < m) (j : Nat) : (m * 2 ^ j).log2 = m.log2 + j := by
  induction j with
  | zero => rw [Nat.pow_zero, Nat.mul_one, Nat.add_zero]
  | succ j ih =>
    have hne : m * 2 ^ j ≠ 0 := Nat.mul_ne_zero (Nat.ne_of_gt hpos) (Nat.ne_of_gt (Nat.two_pow_pos j))
    rw [Nat.pow_succ, ← Nat.mul_assoc, Nat.log2_eq_log_two, Nat.log_mul_base (by decide) hne,
      ← Nat.log2_eq_log_two, ih, Nat.add_assoc]

theorem shiftRight_exact (m j : Nat) :
    (⟨m * 2 ^ j, false, false⟩ : ExtendedMantissa) >>> j = ⟨m, false, false⟩ := by
  show j.repeat ExtendedMantissa.shiftRightOne ⟨m * 2 ^ j, false, false⟩ = _
  induction j generalizing m with
  | zero => rw [Nat.pow_zero, Nat.mul_one]; rfl
  | succ j ih =>
    have hdouble : m * 2 ^ (j + 1) = m * 2 * 2 ^ j := by
      rw [Nat.pow_succ']
      exact (Nat.mul_assoc _ _ _).symm
    rw [Nat.repeat, hdouble, ih]
    simp [ExtendedMantissa.shiftRightOne]

theorem targetExponent_eq (e : Int) : Format.binary64.targetExponent e = max (e - 53) (-1074) := rfl

theorem shiftToTargetExponent_exact {m : Nat} {e : Int} (j : Nat) (hm : m.log2 = 52) (hpos : 0 < m)
    (he : -1074 ≤ e) :
    shiftToTargetExponent Format.binary64 (m * 2 ^ j) (e - j) .exact = (⟨m, false, false⟩, e) := by
  have hlog : (m * 2 ^ j).log2 = 52 + j := by rw [log2_mul_two_pow hpos, hm]
  have htarget : Format.binary64.targetExponent (totalExponent (m * 2 ^ j) (e - j)) = e := by
    rw [targetExponent_eq, totalExponent, hlog]
    omega
  have hshift : (e - (e - j)).toNat = j := by omega
  rw [shiftToTargetExponent, htarget, shiftToExponent, hshift]
  exact Prod.ext (shiftRight_exact m j) (Int.sub_add_cancel e j)

/-- A significand of full width with zeros behind it is rounded to itself. -/
theorem roundWithAccuracy_exact {m : Nat} {e : Int} (j : Nat) (hm : m.log2 = 52) (hpos : 0 < m)
    (he : -1074 ≤ e) :
    roundWithAccuracy Format.binary64 .positive (m * 2 ^ j) (e - j) .exact =
      .finite .positive m e hpos := by
  have hstay := shiftToTargetExponent_exact 0 hm hpos he
  rw [Nat.pow_zero, Nat.mul_one, Int.natCast_zero, Int.sub_zero] at hstay
  have hrounded : ExtendedMantissa.roundedMantissa ⟨m, false, false⟩ = m := rfl
  unfold roundWithAccuracy
  rw [shiftToTargetExponent_exact j hm hpos he]
  dsimp only
  rw [hrounded, hstay]
  exact dif_neg (Nat.ne_of_gt hpos)

theorem toNat_append_one (m : BitVec 52) : (1#1 ++ m).toNat = 2 ^ 52 + m.toNat := by
  rw [BitVec.toNat_append, ← Nat.shiftLeft_add_eq_or_of_lt m.isLt]
  rfl

theorem pack_eq_packComponents {m biased : Nat} (hm : m.log2 = 52) (hpos : 0 < m)
    (hbiased : biased < 2047) :
    UnpackedFloat.pack Format.binary64 (.finite .positive m ((biased : Int) - 1075) hpos) =
      packComponents Format.binary64 .positive (BitVec.ofNat 11 biased) (BitVec.ofNat 52 m) := by
  have hbias : ((biased : Int) - 1075 + Format.binary64.exponentBias +
      Format.binary64.mantissaBitsWithoutImplicit).toNat = biased := by
    show ((biased : Int) - 1075 + 1023 + 52).toNat = biased
    omega
  have hfits : ¬ 2 ^ Format.binary64.exponentBits ≤ biased + 1 := by
    show ¬ 2 ^ 11 ≤ biased + 1
    omega
  unfold UnpackedFloat.pack
  rw [hbias, if_neg hfits, if_pos (by rw [hm]; rfl)]

theorem unpackSign_positive {spec : Float.Model.Format} (exponent : BitVec spec.exponentBits)
    (mantissa : BitVec spec.mantissaBitsWithoutImplicit) :
    unpackSign (packComponents spec .positive exponent mantissa) = 0#1 := by
  have hsign : Sign.positive.toBitVec = 0#1 := rfl
  ext i hi
  obtain rfl : i = 0 := by omega
  unfold unpackSign
  simp +arith [packComponents, BitVec.extractLsb, BitVec.getElem_append, hsign]

/-- The exponent field of a number of full width is neither empty nor full. -/
theorem unpack_normal {b : BitVec Format.binary64.numBits} {s : Sign} {m : Nat} {e : Int}
    (hmax : ¬ unpackExponent b = -1#11) (hmin : ¬ unpackExponent b = 0#11)
    (hs : Sign.ofBitVec (unpackSign b) = s) (hm : (1#1 ++ unpackMantissa b).toNat = m)
    (he : ((unpackExponent b).toNat : Int) - 1075 = e) (hpos : 0 < m) :
    UnpackedFloat.unpack Format.binary64 b = .finite s m e hpos := by
  subst hs hm he
  unfold UnpackedFloat.unpack
  exact (if_neg hmax).trans (if_neg hmin)

theorem unpack_packComponents {m biased : Nat} (hm : m.log2 = 52) (hpos : 0 < m) (hbiased : 0 < biased)
    (hbiased' : biased < 2047) :
    UnpackedFloat.unpack Format.binary64 (packComponents Format.binary64 .positive
      (BitVec.ofNat 11 biased) (BitVec.ofNat 52 m)) =
      .finite .positive m ((biased : Int) - 1075) hpos := by
  obtain ⟨hlo, hhi⟩ := (Nat.log2_eq_iff (Nat.ne_of_gt hpos)).mp hm
  have hexp : (BitVec.ofNat 11 biased).toNat = biased := by
    rw [BitVec.toNat_ofNat, Nat.mod_eq_of_lt (by omega)]
  have hmant : (1#1 ++ BitVec.ofNat 52 m).toNat = m := by
    rw [toNat_append_one, BitVec.toNat_ofNat]
    omega
  refine unpack_normal ?_ ?_ ?_ ?_ ?_ hpos
  · rw [unpackExponent_packComponents, ← BitVec.toNat_inj, hexp]
    show ¬ biased = 2047
    omega
  · rw [unpackExponent_packComponents, ← BitVec.toNat_inj, hexp]
    show ¬ biased = 0
    omega
  · rw [unpackSign_positive]
    rfl
  · rw [unpackMantissa_packComponents, hmant]
  · rw [unpackExponent_packComponents, hexp]

theorem unpack_pack {m : Nat} {e : Int} (hm : m.log2 = 52) (hpos : 0 < m) (he : -1074 ≤ e)
    (he' : e ≤ 971) :
    (Float.Model.pack (.finite .positive m e hpos)).unpack = .finite .positive m e hpos := by
  obtain ⟨biased, rfl⟩ : ∃ biased : Nat, e = (biased : Int) - 1075 := ⟨(e + 1075).toNat, by omega⟩
  show UnpackedFloat.unpack Format.binary64 (UnpackedFloat.pack Format.binary64 _) = _
  rw [pack_eq_packComponents hm hpos (by omega), unpack_packComponents hm hpos (by omega) (by omega)]

/-- A positive double of full width, `m * 2 ^ e`. -/
structure Denotes (x : Float) (m : Nat) (e : Int) : Prop where
  width : m.log2 = 52
  reads : ∃ h, x.toModel.unpack = .finite .positive m e h

theorem denotes_pack {m : Nat} {e : Int} (hm : m.log2 = 52) (hpos : 0 < m) (he : -1074 ≤ e)
    (he' : e ≤ 971) : Denotes (.ofModel (.pack (.finite .positive m e hpos))) m e :=
  ⟨hm, hpos, unpack_pack hm hpos he he'⟩

theorem denotes_one : Denotes 1 (2 ^ 52) (-52) := ⟨by decide +kernel, by decide, rfl⟩

theorem denotes_units : Denotes (Float.ofNat Draws.units) (2 ^ 52) 1 :=
  ⟨by decide +kernel, by decide, rfl⟩

theorem denotes_toFloat {k : Nat} (hpos : 0 < k) (hk : k < 2 ^ 53) :
    Denotes k.toUInt64.toFloat (k * 2 ^ (52 - k.log2)) ((k.log2 : Int) - 52) := by
  have hlog : k.log2 < 53 := (Nat.log2_lt (Nat.ne_of_gt hpos)).mpr hk
  have hfullpos : 0 < k * 2 ^ (52 - k.log2) := Nat.mul_pos hpos (Nat.two_pow_pos _)
  have hfull : (k * 2 ^ (52 - k.log2)).log2 = 52 := by
    rw [log2_mul_two_pow hpos]
    omega
  have htarget : Format.binary64.targetExponent (totalExponent k 0) = (k.log2 : Int) - 52 := by
    rw [targetExponent_eq, totalExponent]
    omega
  have hshift : (0 - ((k.log2 : Int) - 52)).toNat = 52 - k.log2 := by omega
  have hexp : (0 : Int) - ((52 - k.log2 : Nat) : Int) = (k.log2 : Int) - 52 := by omega
  have hexact := roundWithAccuracy_exact 0 hfull hfullpos (e := (k.log2 : Int) - 52) (by omega)
  rw [Nat.pow_zero, Nat.mul_one, Int.natCast_zero, Int.sub_zero] at hexact
  have hround : UnpackedFloat.round Format.binary64 .positive k 0 =
      .finite .positive (k * 2 ^ (52 - k.log2)) ((k.log2 : Int) - 52) hfullpos := by
    rw [UnpackedFloat.round, htarget, decreaseExponent, hshift, Nat.shiftLeft_eq, hexp]
    exact hexact
  have hword : k.toUInt64.toNat = k := by
    show k % 2 ^ 64 = k
    omega
  have hmodel : UnpackedFloat.ofUInt64 Format.binary64 k.toUInt64 =
      .finite .positive (k * 2 ^ (52 - k.log2)) ((k.log2 : Int) - 52) hfullpos := by
    rw [UnpackedFloat.ofUInt64, hword, UnpackedFloat.ofNat, UnpackedFloat.ofInt,
      UnpackedFloat.normalize, Int.compare_eq_gt.mpr (by omega)]
    exact hround
  have hpacked := denotes_pack hfull hfullpos (e := (k.log2 : Int) - 52) (by omega) (by omega)
  rw [← hmodel] at hpacked
  exact hpacked

theorem Denotes.mul_one {x : Float} {m : Nat} {e : Int} (h : Denotes x m e) (he : -1074 ≤ e)
    (he' : e ≤ 971) : Denotes (x * 1) m e := by
  obtain ⟨hpos, hreads⟩ := h.reads
  obtain ⟨hone, hreads'⟩ := denotes_one.reads
  have hproduct : UnpackedFloat.mul Format.binary64 x.toModel.unpack (1 : Float).toModel.unpack =
      .finite .positive m e hpos := by
    rw [hreads, hreads']
    exact roundWithAccuracy_exact 52 h.width hpos he
  have hpacked := denotes_pack h.width hpos he he'
  rw [← hproduct] at hpacked
  exact hpacked

theorem denotes_ofNat {k : Nat} (hpos : 0 < k) (hk : k < 2 ^ 53) :
    Denotes (Float.ofNat k) (k * 2 ^ (52 - k.log2)) ((k.log2 : Int) - 52) := by
  have hlog : k.log2 < 53 := (Nat.log2_lt (Nat.ne_of_gt hpos)).mpr hk
  have hproduct : Float.ofNat k = k.toUInt64.toFloat * 1 := by
    show Float.ofScientific k false 0 = _
    rw [Float.ofScientific, dif_pos ⟨hk, Nat.zero_le 22⟩]
    rfl
  rw [hproduct]
  exact (denotes_toFloat hpos hk).mul_one (by omega) (by omega)

theorem Denotes.div_units {x : Float} {m : Nat} {e : Int} (h : Denotes x m e) (he : -1020 ≤ e)
    (he' : e ≤ 971) : Denotes (x / Float.ofNat Draws.units) m (e - 53) := by
  obtain ⟨hpos, hreads⟩ := h.reads
  obtain ⟨hone, hreads'⟩ := denotes_units.reads
  have hcore : divCore Format.binary64 m e (2 ^ 52) 1 = (m * 2 ^ 1, e - 53 - (1 : Nat), .exact) := by
    have htarget : Format.binary64.targetExponent (totalExponent m e - totalExponent (2 ^ 52) 1) =
        e - 54 := by
      have hwidth : (2 ^ 52).log2 = 52 := by decide +kernel
      rw [targetExponent_eq, totalExponent, totalExponent, h.width, hwidth]
      omega
    have hleast : min (e - 1) (e - 54) = e - 54 := by omega
    have hshift : (e - 1 - (e - 54)).toNat = 53 := by omega
    have hquotient : m * 2 ^ 53 / 2 ^ 52 = m * 2 ^ 1 := by omega
    have hrest : m * 2 ^ 53 % 2 ^ 52 = 0 := by omega
    rw [divCore, htarget, hleast, hshift, Nat.shiftLeft_eq, hquotient, hrest]
    refine Prod.ext rfl (Prod.ext ?_ rfl)
    show e - 54 = e - 53 - (1 : Nat)
    omega
  have hdivided : UnpackedFloat.div Format.binary64 x.toModel.unpack
      (Float.ofNat Draws.units).toModel.unpack = .finite .positive m (e - 53) hpos := by
    rw [hreads, hreads']
    unfold UnpackedFloat.div
    dsimp only
    rw [hcore]
    exact roundWithAccuracy_exact 1 h.width hpos (by omega)
  have hpacked := denotes_pack h.width hpos (e := e - 53) (by omega) (by omega)
  rw [← hdivided] at hpacked
  exact hpacked

theorem toNat_unpackMantissa (b : BitVec Format.binary64.numBits) :
    (unpackMantissa b).toNat = b.toNat % Nat.pow 2 52 := by
  simp [unpackMantissa, BitVec.extractLsb, BitVec.extractLsb', Nat.shiftRight_eq_div_pow]

theorem toNat_unpackExponent (b : BitVec Format.binary64.numBits) :
    (unpackExponent b).toNat = b.toNat / Nat.pow 2 52 % Nat.pow 2 11 := by
  simp [unpackExponent, BitVec.extractLsb, BitVec.extractLsb', Nat.shiftRight_eq_div_pow]

theorem toNat_unpackSign (b : BitVec Format.binary64.numBits) :
    (unpackSign b).toNat = b.toNat / Nat.pow 2 63 := by
  have hbound : b.toNat < 2 ^ 64 := b.isLt
  unfold unpackSign
  simp [BitVec.extractLsb, BitVec.extractLsb', Nat.shiftRight_eq_div_pow]
  omega

/-- What is unpacked with full width is not read from an empty or a full exponent field. -/
theorem exponent_of_unpack {b : BitVec Format.binary64.numBits} {s : Sign} {m : Nat} {e : Int}
    {hpos : 0 < m} (hm : m.log2 = 52)
    (h : UnpackedFloat.unpack Format.binary64 b = .finite s m e hpos) :
    ¬ unpackExponent b = -1#11 ∧ ¬ unpackExponent b = 0#11 := by
  obtain ⟨hlo, -⟩ := (Nat.log2_eq_iff (Nat.ne_of_gt hpos)).mp hm
  unfold UnpackedFloat.unpack at h
  dsimp only at h
  have hmax : ¬ unpackExponent b = -1#11 := by
    intro hmax
    rw [if_pos hmax] at h
    by_cases hnull : unpackMantissa b = 0#52
    · rw [if_pos hnull] at h
      cases h
    · rw [if_neg hnull] at h
      cases h
  have hmin : ¬ unpackExponent b = 0#11 := by
    intro hmin
    rw [if_neg hmax, if_pos hmin] at h
    by_cases hnull : unpackMantissa b = 0#52
    · rw [dif_pos hnull] at h
      cases h
    · -- A subnormal significand is not of full width.
      rw [dif_neg hnull] at h
      injection h with _ hm
      have hnarrow : (unpackMantissa b).toNat < 2 ^ 52 := (unpackMantissa b).isLt
      omega
  exact ⟨hmax, hmin⟩

theorem fields_of_unpack {b : BitVec Format.binary64.numBits} {m : Nat} {e : Int} {hpos : 0 < m}
    (hm : m.log2 = 52) (h : UnpackedFloat.unpack Format.binary64 b = .finite .positive m e hpos) :
    b.toNat / Nat.pow 2 63 = 0 ∧ b.toNat / Nat.pow 2 52 % Nat.pow 2 11 ≠ 0 ∧
      m = 2 ^ 52 + b.toNat % Nat.pow 2 52 ∧
      e = ((b.toNat / Nat.pow 2 52 % Nat.pow 2 11 : Nat) : Int) - 1075 := by
  obtain ⟨hmax, hmin⟩ := exponent_of_unpack hm h
  have hfull : 0 < (1#1 ++ unpackMantissa b).toNat := by
    rw [toNat_append_one]
    omega
  rw [unpack_normal hmax hmin rfl rfl rfl hfull] at h
  injection h with hs hm he
  have hpositive : unpackSign b = 0#1 := by
    by_contra hne
    rw [Sign.ofBitVec, if_neg hne] at hs
    cases hs
  rw [toNat_append_one, toNat_unpackMantissa] at hm
  rw [← toNat_unpackSign, ← toNat_unpackExponent, hpositive]
  exact ⟨rfl, fun h0 => hmin (BitVec.eq_of_toNat_eq h0), hm.symm, he.symm⟩

theorem Denotes.magnitude {x : Float} {m : Nat} {e : Int} (h : Denotes x m e) :
    negative x = false ∧ (magnitude x).significand = m ∧ (magnitude x).exponent = e := by
  obtain ⟨hpos, hreads⟩ := h.reads
  obtain ⟨hsign, hbiased, hm, he⟩ := fields_of_unpack h.width hreads
  change fieldBits x / Nat.pow 2 63 = 0 at hsign
  change fieldBits x / Nat.pow 2 52 % Nat.pow 2 11 ≠ 0 at hbiased
  refine ⟨?_, ?_, ?_⟩
  · rw [negative, decide_eq_false_iff_not, Nat.not_le]
    exact Nat.lt_of_div_eq_zero (by decide) hsign
  · rw [Binary64.magnitude, if_neg hbiased]
    exact hm.symm
  · rw [Binary64.magnitude, if_neg hbiased]
    exact he.symm

end Banter.Binary64
