import Banter.Proofs.Text.Layout
import Banter.Text.Mention
import Mathlib.Data.List.TakeWhile

/-! A text with something to see on it stays one on its way into lines, and gives at least one. -/
namespace Banter.Text

/-- Something other than white space is there. -/
def Visible (s : List Char) : Prop :=
  ∃ c ∈ s, isBlank c = false

theorem not_visible_iff {s : List Char} : ¬ Visible s ↔ ∀ c ∈ s, isBlank c = true := by
  simp [Visible]

theorem Visible.ne_nil {s : List Char} (h : Visible s) : s ≠ [] := by
  obtain ⟨c, hc, -⟩ := h
  exact List.ne_nil_of_mem hc

theorem visible_cons {c : Char} {s : List Char} :
    Visible (c :: s) ↔ isBlank c = false ∨ Visible s := by
  simp [Visible]

theorem visible_append {s t : List Char} : Visible (s ++ t) ↔ Visible s ∨ Visible t := by
  simp only [Visible, List.mem_append, or_and_right, exists_or]

theorem words_ne_nil_iff {s : List Char} : words s ≠ [] ↔ Visible s := by
  rw [Ne, words_eq_nil_iff, ← not_visible_iff, not_not]

theorem visible_trim {s : List Char} : Visible (trim s) ↔ Visible s := by
  rw [← words_ne_nil_iff, words_trim, words_ne_nil_iff]

theorem trim_eq_nil_iff {s : List Char} : trim s = [] ↔ ∀ c ∈ s, isBlank c = true := by
  rw [← not_visible_iff, ← visible_trim]
  constructor
  · intro h
    rw [h]
    simp [Visible]
  · intro h
    rw [visible_trim, not_visible_iff] at h
    have hleft : trimLeft s = [] := List.dropWhile_eq_nil_iff.mpr h
    rw [trim, hleft]
    rfl

theorem visible_replaceFrom {old new s : List Char} (hnew : Visible new) (hs : Visible s) :
    Visible (replaceFrom old new 0 s) := by
  induction s with
  | nil => exact hs
  | cons c rest ih =>
    unfold replaceFrom
    split_ifs
    · exact visible_append.mpr (.inl hnew)
    · obtain hc | hrest := visible_cons.mp hs
      · exact visible_cons.mpr (.inl hc)
      · exact visible_cons.mpr (.inr (ih hrest))

/-- The colon of an address can be seen, whatever the name. -/
theorem visible_addressMention {s : List Char} (name : List Char) (hs : Visible s) :
    Visible (addressMention name s) :=
  visible_replaceFrom (visible_append.mpr (.inr ⟨':', by simp, rfl⟩)) hs

theorem visible_addressInOrder {s : List Char} (names : List (List Char)) (hs : Visible s) :
    Visible (addressInOrder names s) := by
  induction names generalizing s with
  | nil => exact hs
  | cons name rest ih =>
    unfold addressInOrder
    split_ifs
    · exact ih hs
    · exact ih (visible_addressMention name hs)

theorem addressInOrder_nil (names : List (List Char)) : addressInOrder names [] = [] := by
  induction names with
  | nil => rfl
  | cons name rest ih =>
    unfold addressInOrder
    split_ifs
    · exact ih
    · exact ih

theorem segment_ne_nil {text : String} {limit : Int} (h : Visible text.toList) :
    segment (some text) limit ≠ [] := by
  intro hnil
  exact not_visible_iff.mpr (segment_eq_nil_iff.mp hnil) h

end Banter.Text
