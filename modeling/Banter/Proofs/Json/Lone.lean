import Banter.Json.Value

/-! Data may hold halves of surrogate pairs. Where they do not, their strings are texts. -/
namespace Banter

open Banter.Text (CodePoint)

/-- Half of a surrogate pair with nothing to pair with. -/
def Text.CodePoint.isLone : CodePoint → Bool
  | scalar _ => false
  | surrogate _ => true

namespace Json

mutual

/-- Is half of a surrogate pair left anywhere in the data? -/
def Value.lone : Value → Bool
  | .str s => s.any CodePoint.isLone
  | .arr items => loneItem items
  | .obj fields => loneField fields
  | _ => false

def loneItem : List Value → Bool
  | [] => false
  | v :: rest => v.lone || loneItem rest

def loneField : List (List CodePoint × Value) → Bool
  | [] => false
  | (key, v) :: rest => key.any CodePoint.isLone || v.lone || loneField rest

end

theorem lone_of_mem {fields : List (List CodePoint × Value)} {f : List CodePoint × Value}
    (h : f ∈ fields) (hf : loneField fields = false) : f.2.lone = false := by
  induction fields with
  | nil => exact absurd h List.not_mem_nil
  | cons first rest ih =>
    obtain ⟨key, v⟩ := first
    simp only [loneField, Bool.or_eq_false_iff] at hf
    obtain rfl | hrest := List.mem_cons.mp h
    · exact hf.1.2
    · exact ih hrest hf.2

theorem toString_ofString (t : String) : CodePoint.toString (CodePoint.ofString t) = t := by
  unfold CodePoint.toString CodePoint.ofString
  rw [List.map_map]
  have hid : CodePoint.toChar ∘ CodePoint.scalar = id := rfl
  rw [hid, List.map_id, String.ofList_toList]

theorem exists_text_of_not_lone {s : List CodePoint} (h : (Value.str s).lone = false) :
    ∃ t, Value.str s = .text t := by
  have hscalar : ∀ p ∈ s, (CodePoint.scalar ∘ CodePoint.toChar) p = id p := by
    intro p hp
    cases p with
    | scalar c => rfl
    | surrogate n => exact absurd rfl (List.any_eq_false.mp h _ hp)
  have hsame : s.map (CodePoint.scalar ∘ CodePoint.toChar) = s :=
    (List.map_congr_left hscalar).trans (List.map_id s)
  refine ⟨CodePoint.toString s, ?_⟩
  unfold Value.text CodePoint.ofString CodePoint.toString
  rw [String.toList_ofList, List.map_map, hsame]

end Json

end Banter
