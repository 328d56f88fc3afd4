import Banter.Console.Console
import Banter.Proofs.Text.Visible

/-! What is read as said by whom: the first colon of a line parts the name from the text. -/
namespace Banter

theorem Text.isEmpty_trim_eq_false_iff {s : List Char} :
    (trim s).isEmpty = false ↔ Visible s := by
  rw [List.isEmpty_eq_false_iff, Ne, trim_eq_nil_iff, ← not_visible_iff, not_not]

namespace Console

/-- What is said in a line with the given name and text around its first colon. -/
def saying (name text : List Char) : ChatEvent :=
  ⟨String.ofList (Text.trim name), String.ofList (Text.trim text), .publicChat⟩

theorem parse?_of_unmarked {raw : String} (h : ':' ∉ raw.toList) : parse? raw = none := by
  have hall : raw.toList.dropWhile (· ≠ ':') = [] := by
    rw [List.dropWhile_eq_nil_iff]
    intro c hc
    exact decide_eq_true (ne_of_mem_of_not_mem hc h)
  unfold parse?
  simp only [hall]

theorem cut_at_colon {name : List Char} (hname : ':' ∉ name) (text : List Char) :
    (name ++ ':' :: text).takeWhile (· ≠ ':') = name ∧
      (name ++ ':' :: text).dropWhile (· ≠ ':') = ':' :: text := by
  have hall : ∀ c ∈ name, decide (c ≠ ':') = true := by
    intro c hc
    exact decide_eq_true (ne_of_mem_of_not_mem hc hname)
  rw [List.takeWhile_append_of_pos hall, List.takeWhile_cons_of_neg (by simp), List.append_nil,
    List.dropWhile_append_of_pos hall, List.dropWhile_cons_of_neg (by simp)]
  exact ⟨rfl, rfl⟩

theorem eq_of_marked {name other text more : List Char} (hname : ':' ∉ name) (hother : ':' ∉ other)
    (h : name ++ ':' :: text = other ++ ':' :: more) : name = other ∧ text = more := by
  obtain ⟨hbefore, hafter⟩ := cut_at_colon hname text
  obtain ⟨hbefore', hafter'⟩ := cut_at_colon hother more
  rw [h] at hbefore hafter
  exact ⟨hbefore.symm.trans hbefore', (List.cons.inj (hafter.symm.trans hafter')).2⟩

theorem parse?_of_marked {raw : String} {name text : List Char}
    (hraw : raw.toList = name ++ ':' :: text) (hname : ':' ∉ name) :
    parse? raw =
      if (Text.trim name).isEmpty || (Text.trim text).isEmpty then none
      else some (saying name text) := by
  obtain ⟨hbefore, hafter⟩ := cut_at_colon hname text
  unfold parse?
  simp only [hraw, hbefore, hafter]
  rfl

/-- A line is accepted just if there is something to see on either side of its first colon. -/
theorem parse?_eq_some_iff {raw : String} {e : ChatEvent} :
    parse? raw = some e ↔
      ∃ name text, raw.toList = name ++ ':' :: text ∧ ':' ∉ name ∧ Text.Visible name ∧
        Text.Visible text ∧ e = saying name text := by
  constructor
  · intro h
    by_cases hmarked : ':' ∈ raw.toList
    · obtain ⟨name, text, hraw, hname⟩ := List.eq_append_cons_of_mem hmarked
      rw [parse?_of_marked hraw hname] at h
      split_ifs at h with hblank
      rw [Bool.or_eq_true, not_or, Bool.not_eq_true, Bool.not_eq_true,
        Text.isEmpty_trim_eq_false_iff, Text.isEmpty_trim_eq_false_iff] at hblank
      exact ⟨name, text, hraw, hname, hblank.1, hblank.2, (Option.some.inj h).symm⟩
    · rw [parse?_of_unmarked hmarked] at h
      cases h
  · rintro ⟨name, text, hraw, hname, hseen, hsaid, rfl⟩
    rw [parse?_of_marked hraw hname, Text.isEmpty_trim_eq_false_iff.mpr hseen,
      Text.isEmpty_trim_eq_false_iff.mpr hsaid]
    rfl

end Console
end Banter
