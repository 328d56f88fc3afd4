import Banter.Url.Percent
import Mathlib.Data.Bool.AllAny
import Mathlib.Data.List.Basic

/-! Percent encoding leaves nothing to encode, and what is encoded stays as it is. -/
namespace Banter.Url

def Encoded (set : Nat → Bool) (s : List Char) : Prop :=
  ∀ c ∈ s, set c.toNat = false

instance (set : Nat → Bool) (s : List Char) : Decidable (Encoded set s) :=
  List.decidableBAll _ s

/-- The characters of escapes are not in the set themselves. -/
def Escapes (set : Nat → Bool) : Prop :=
  Encoded set "%0123456789ABCDEF".toList

theorem escapes_userinfoSet : Escapes userinfoSet := by unfold Escapes; decide

theorem escapes_pathSet : Escapes pathSet := by unfold Escapes; decide

theorem escapes_querySet : Escapes querySet := by unfold Escapes; decide

theorem escapes_fragmentSet : Escapes fragmentSet := by unfold Escapes; decide

section

variable {set : Nat → Bool} {s t : List Char}

theorem encoded_append : Encoded set (s ++ t) ↔ Encoded set s ∧ Encoded set t :=
  List.forall_mem_append

theorem Encoded.sublist (h : Encoded set t) (hs : s.Sublist t) : Encoded set s :=
  fun c hc => h c (hs.subset hc)

theorem percentEncode_of_encoded (h : Encoded set s) : percentEncode set s = s := by
  induction s with
  | nil => rfl
  | cons c rest ih =>
    have hc : encodeChar set c = [c] := by
      rw [encodeChar, h c List.mem_cons_self]
      rfl
    rw [percentEncode, List.flatMap_cons, hc]
    exact congrArg (c :: ·) (ih fun d hd => h d (List.mem_cons_of_mem c hd))

theorem lt_of_mem_utf8 {c : Char} {b : Nat} (h : b ∈ Text.Utf8.encodeChar c) : b < 256 := by
  have hlast : c.toNat < 0x110000 := by
    have hvalid : c.toNat.isValidChar := c.valid
    unfold Nat.isValidChar at hvalid
    omega
  unfold Text.Utf8.encodeChar at h
  dsimp only at h
  split_ifs at h
  all_goals
    simp only [List.mem_cons, List.not_mem_nil, or_false] at h
    omega

theorem hexDigitUpper_mem : ∀ n < 16, Text.hexDigitUpper n ∈ "0123456789ABCDEF".toList := by
  decide

theorem mem_percentEncode {d : Char} (h : d ∈ percentEncode set s) :
    d ∈ "%0123456789ABCDEF".toList ∨ d ∈ s ∧ set d.toNat = false := by
  obtain ⟨c, hc, hd⟩ := List.mem_flatMap.mp h
  unfold encodeChar at hd
  split_ifs at hd with hin
  · obtain ⟨b, hb, hescape⟩ := List.mem_flatMap.mp hd
    have hlt := lt_of_mem_utf8 hb
    have hhigh := hexDigitUpper_mem (b / 16) (by omega)
    have hlow := hexDigitUpper_mem (b % 16) (by omega)
    simp only [encodeByte, List.mem_cons, List.not_mem_nil, or_false] at hescape
    obtain rfl | rfl | rfl := hescape
    · exact .inl List.mem_cons_self
    · exact .inl (List.mem_cons_of_mem '%' hhigh)
    · exact .inl (List.mem_cons_of_mem '%' hlow)
  · obtain rfl := List.mem_singleton.mp hd
    exact .inr ⟨hc, Bool.eq_false_iff.mpr hin⟩

theorem encoded_percentEncode (hset : Escapes set) (s : List Char) :
    Encoded set (percentEncode set s) := by
  intro d hd
  rcases mem_percentEncode hd with hescape | ⟨-, hkept⟩
  · exact hset d hescape
  · exact hkept

end
end Banter.Url
