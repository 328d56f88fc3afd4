import Banter.Json.Writer
import Banter.Proofs.Json.Lone
import Banter.Proofs.Json.Member
import Banter.Proofs.Json.Overlong
import Mathlib.Data.List.Nodup

/-! What is written spells the data it was written from, so that the reader gives it back. -/
namespace Banter

open Banter.Text (CodePoint hexDigits hexValue4)

theorem Text.CodePoint.joinHalves_scalar (cs : List Char) :
    joinHalves (cs.map scalar) = cs.map scalar := by
  induction cs with
  | nil => rfl
  | cons c cs ih =>
    rw [List.map_cons, joinHalves, ih]
    simp

theorem Text.CodePoint.ofString_injective : Function.Injective ofString :=
  Function.LeftInverse.injective Json.toString_ofString

namespace Json

section Strings

theorem hexDigits_control : ∀ n < 0x20,
    hexDigits 4 n = ['0', '0', Nat.digitChar (n / 16), Nat.digitChar (n % 16)] := by
  decide

theorem hexValue4_control : ∀ n < 0x20,
    hexValue4 '0' '0' (Nat.digitChar (n / 16)) (Nat.digitChar (n % 16)) = some n := by
  decide

theorem ofUnit_control : ∀ n < 0x20, CodePoint.ofUnit n = .scalar (Char.ofNat n) := by
  decide

theorem Quoted.writeChar {cs : List CodePoint} {t : List Char} (c : Char) (h : Quoted cs t) :
    Quoted (.scalar c :: cs) (writeChar c ++ t) := by
  unfold Json.writeChar
  split
  case h_8 hquote hslash _ _ _ _ _ =>
    split_ifs with hcontrol
    · have hunit := ofUnit_control c.toNat hcontrol
      rw [Char.ofNat_toNat] at hunit
      rw [escapeUnit, hexDigits_control c.toNat hcontrol, ← hunit]
      exact .unit (hexValue4_control c.toNat hcontrol) h
    · exact .plain hquote hslash (Nat.not_lt.mp hcontrol) h
  all_goals exact .escape rfl h

theorem quoted_ofString (s : String) :
    Quoted (CodePoint.ofString s) ((CodePoint.ofString s).flatMap writeCodePoint ++ ['\x22']) := by
  unfold CodePoint.ofString
  induction s.toList with
  | nil => exact .close
  | cons c cs ih =>
    rw [List.map_cons, List.flatMap_cons, List.append_assoc]
    exact ih.writeChar c

theorem joinHalves_ofString (s : String) :
    CodePoint.joinHalves (CodePoint.ofString s) = CodePoint.ofString s :=
  CodePoint.joinHalves_scalar s.toList

theorem spells_text (s : String) : Spells (.value (.text s)) (write (.text s)) := by
  have h := Spells.string (quoted_ofString s)
  rw [joinHalves_ofString] at h
  exact h

end Strings

section Integers

open Banter.Decimal (digitsValue)

/-- An integer with no more digits than the reader takes. -/
def Brief (n : Int) : Prop :=
  (Nat.toDigits 10 n.natAbs).length ≤ digitLimit

instance (n : Int) : Decidable (Brief n) :=
  inferInstanceAs (Decidable (_ ≤ _))

theorem digitsValue_toDigits (n : Nat) : digitsValue (Nat.toDigits 10 n) = n :=
  Nat.ofDigitChars_ten_toDigits

theorem eq_zero_of_head_toDigits (n : Nat) (h : (Nat.toDigits 10 n).head? = some '0') : n = 0 := by
  induction n using Nat.strongRecOn with
  | ind n ih =>
    obtain hlt | hle := Nat.lt_or_ge n 10
    · rw [Nat.toDigits_of_lt_base hlt] at h
      have hdigit : ∀ m < 10, Nat.digitChar m = '0' → m = 0 := by decide
      exact hdigit n hlt (Option.some.inj h)
    · obtain ⟨d, ds, hds⟩ := List.exists_cons_of_ne_nil (Nat.toDigits_ne_nil (n := n / 10) (b := 10))
      rw [Nat.toDigits_of_base_le (by decide) hle, hds] at h
      have hzero := ih (n / 10) (by omega) (by rw [hds]; exact h)
      omega

theorem whole_toDigits (n : Nat) : Whole (Nat.toDigits 10 n) := by
  refine ⟨⟨Nat.toDigits_ne_nil, fun c hc => ?_⟩, fun hhead => ?_⟩
  · exact Nat.isDigit_of_mem_toDigits (by decide) (by decide) hc
  · rw [eq_zero_of_head_toDigits n hhead]
    rfl

theorem writeInt_eq (n : Int) :
    writeInt n = if n < 0 then '-' :: Nat.toDigits 10 n.natAbs else Nat.toDigits 10 n.natAbs := by
  cases n with
  | ofNat n => exact Nat.toList_repr
  | negSucc n =>
    have htext : toString (Int.negSucc n) = "-" ++ (n + 1).repr := rfl
    rw [writeInt, htext, String.toList_append, Nat.toList_repr, if_pos (Int.negSucc_lt_zero n)]
    rfl

theorem Brief.unsigned {n : Int} (h : Brief n) :
    Unsigned (decide (n < 0)) (.int n) (Nat.toDigits 10 n.natAbs) := by
  have hvalue : signed (decide (n < 0)) (digitsValue (Nat.toDigits 10 n.natAbs)) = n := by
    rw [digitsValue_toDigits, signed]
    by_cases hn : n < 0
    · simp only [hn, decide_true, if_true]
      omega
    · simp only [hn, decide_false, Bool.false_eq_true, if_false]
      omega
  have hint : Unsigned (decide (n < 0)) _ (Nat.toDigits 10 n.natAbs) :=
    .int (whole_toDigits n.natAbs) h
  rw [hvalue] at hint
  exact hint

theorem Brief.spells {n : Int} (h : Brief n) : Spells (.value (.int n)) (write (.int n)) := by
  have hint := h.unsigned
  rw [write, writeInt_eq]
  by_cases hn : n < 0
  · rw [decide_eq_true hn] at hint
    rw [if_pos hn]
    exact .negative hint
  · rw [decide_eq_false hn] at hint
    rw [if_neg hn]
    exact .unsigned hint

end Integers

section Trees

/-- Data that survives being written: all integers are brief, all strings are texts, no number is a
double and no key is repeated. -/
inductive Plain : Value → Prop
  | null : Plain .null
  | bool (b : Bool) : Plain (.bool b)
  | int {n : Int} (hn : Brief n) : Plain (.int n)
  | text (s : String) : Plain (.text s)
  | array {vs : List Value} (h : ∀ v ∈ vs, Plain v) : Plain (.arr vs)
  | record {fields : List (String × Value)} (hk : (fields.map Prod.fst).Nodup)
    (h : ∀ f ∈ fields, Plain f.2) : Plain (.record fields)

theorem Spells.bare {v : Value} {t : List Char} (h : Spells (.value v) t) : Spells (.item v) t := by
  have hitem := Spells.item blank_nil h blank_nil
  rw [List.nil_append, List.append_nil] at hitem
  exact hitem

theorem spells_writeItems (v : Value) (vs : List Value)
    (h : ∀ w ∈ v :: vs, Spells (.value w) (write w)) :
    Spells (.items (v :: vs)) (writeItems (v :: vs)) := by
  induction vs generalizing v with
  | nil => exact .lastItem (h v List.mem_cons_self).bare
  | cons w vs ih =>
    have hrest := ih w fun x hx => h x (List.mem_cons_of_mem v hx)
    exact .moreItems (h v List.mem_cons_self).bare hrest

theorem spells_writeField {key : String} {v : Value} (h : Spells (.value v) (write v)) :
    Spells (.field (CodePoint.ofString key, v))
      (writeString (CodePoint.ofString key) ++ ':' :: write v) := by
  have hfield := Spells.field blank_nil (quoted_ofString key) blank_nil h.bare
  rw [joinHalves_ofString] at hfield
  rw [writeString, List.cons_append]
  exact hfield

def keyed (fields : List (String × Value)) : List (List CodePoint × Value) :=
  fields.map fun (key, v) => (CodePoint.ofString key, v)

theorem nodup_keyed {fields : List (String × Value)} (hk : (fields.map Prod.fst).Nodup) :
    ((keyed fields).map Prod.fst).Nodup := by
  have hkeys : (keyed fields).map Prod.fst = (fields.map Prod.fst).map CodePoint.ofString := by
    simp [keyed]
  rw [hkeys]
  exact (List.nodup_map_iff CodePoint.ofString_injective).mpr hk

theorem spells_writeFields (f : String × Value) (fs : List (String × Value))
    (h : ∀ g ∈ f :: fs, Spells (.value g.2) (write g.2)) :
    Spells (.fields (keyed (f :: fs))) (writeFields (keyed (f :: fs))) := by
  induction fs generalizing f with
  | nil => exact .lastField (spells_writeField (h f List.mem_cons_self))
  | cons g fs ih =>
    have hfirst : Spells (.field (CodePoint.ofString f.1, f.2)) _ :=
      spells_writeField (h f List.mem_cons_self)
    have hrest := ih g fun x hx => h x (List.mem_cons_of_mem f hx)
    exact .moreFields hfirst hrest

theorem Plain.spells {v : Value} (h : Plain v) : Spells (.value v) (write v) := by
  induction h with
  | null => exact .word (w := "null") (by simp [literals])
  | bool b =>
    cases b with
    | false => exact .word (w := "false") (by simp [literals])
    | true => exact .word (w := "true") (by simp [literals])
  | int hn => exact hn.spells
  | text s => exact spells_text s
  | @array vs _ ih =>
    cases vs with
    | nil => exact .noItems blank_nil
    | cons v vs => exact .array (spells_writeItems v vs ih)
  | @record fields hk _ ih =>
    cases fields with
    | nil => exact .noFields blank_nil
    | cons f fs =>
      have hobj := Spells.object (spells_writeFields f fs ih)
      rw [assignAll_of_nodup (nodup_keyed hk)] at hobj
      exact hobj

/-- Plain data is read back from its text as it was. -/
theorem Plain.read_write {v : Value} (h : Plain v) : read (write v) = .ok v :=
  read_eq_ok_iff.mpr h.spells.bare

end Trees

end Json
end Banter
