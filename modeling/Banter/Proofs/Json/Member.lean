import Banter.Proofs.History
import Banter.Proofs.Json.Spelling
import Mathlib.Data.List.Induction

/-! Members of objects: which value counts for a key, and the members of an array's first item. -/
namespace Banter.Json

open Banter.Text (CodePoint)

section Assigning

variable {α β : Type}

/-- The last value that is given to a key. -/
def LastGiven (pairs : List (α × β)) (key : α) (value : β) : Prop :=
  ∃ before after, pairs = before ++ (key, value) :: after ∧ ∀ p ∈ after, p.1 ≠ key

def NeverGiven (pairs : List (α × β)) (key : α) : Prop :=
  ∀ p ∈ pairs, p.1 ≠ key

theorem lastGiven_snoc {pairs : List (α × β)} {key k : α} {value v : β} :
    LastGiven (pairs ++ [(k, v)]) key value ↔
      (k = key ∧ v = value) ∨ (k ≠ key ∧ LastGiven pairs key value) := by
  constructor
  · rintro ⟨before, after, hsplit, hafter⟩
    rcases snoc_eq_append_cons_iff.mp hsplit with ⟨-, hlast, -⟩ | ⟨between, rfl, hinit⟩
    · obtain ⟨rfl, rfl⟩ := Prod.mk.inj hlast
      exact .inl ⟨rfl, rfl⟩
    · exact .inr ⟨hafter (k, v) (by simp),
        before, between, hinit, fun q hq => hafter q (List.mem_append_left _ hq)⟩
  · rintro (⟨rfl, rfl⟩ | ⟨hk, before, after, rfl, hafter⟩)
    · exact ⟨pairs, [], rfl, by simp⟩
    · refine ⟨before, after ++ [(k, v)], by simp, ?_⟩
      intro p hp
      obtain hp | hp := List.mem_append.mp hp
      · exact hafter p hp
      · obtain rfl := List.mem_singleton.mp hp
        exact hk

theorem neverGiven_snoc {pairs : List (α × β)} {key k : α} {v : β} :
    NeverGiven (pairs ++ [(k, v)]) key ↔ k ≠ key ∧ NeverGiven pairs key := by
  simp only [NeverGiven, List.mem_append, List.mem_singleton, or_imp, forall_and, forall_eq]
  exact And.comm

theorem mem_of_lookup [BEq α] [LawfulBEq α] {pairs : List (α × β)} {key : α} {value : β}
    (h : pairs.lookup key = some value) : (key, value) ∈ pairs := by
  obtain ⟨before, after, rfl, -⟩ := List.lookup_eq_some_iff.mp h
  simp

variable [DecidableEq α]

theorem assignAll_snoc (pairs : List (α × β)) (k : α) (v : β) :
    assignAll (pairs ++ [(k, v)]) = assign (assignAll pairs) k v := by
  simp [assignAll]

theorem assignAll_of_nodup {pairs : List (α × β)} (h : (pairs.map Prod.fst).Nodup) :
    assignAll pairs = pairs := by
  induction pairs using List.reverseRecOn with
  | nil => rfl
  | append_singleton rest p ih =>
    obtain ⟨k, v⟩ := p
    rw [List.map_append, List.nodup_append] at h
    have hfresh : ¬ rest.any (·.1 = k) = true := by
      rw [List.any_eq_true]
      rintro ⟨p, hp, hk⟩
      exact h.2.2 p.1 (List.mem_map_of_mem hp) k (by simp) (of_decide_eq_true hk)
    rw [assignAll_snoc, ih h.1, assign, if_neg hfresh]

variable [BEq α] [LawfulBEq α]

theorem lookup_cons (p : α × β) (rest : List (α × β)) (key : α) :
    (p :: rest).lookup key = if p.1 = key then some p.2 else rest.lookup key := by
  obtain ⟨k, v⟩ := p
  rw [List.lookup_cons]
  by_cases hk : k = key
  · simp [hk]
  · rw [if_neg hk, beq_false_of_ne (Ne.symm hk)]

theorem lookup_replace_of_ne {k key : α} (hk : k ≠ key) (v : β) (pairs : List (α × β)) :
    (pairs.map fun p => if p.1 = k then (k, v) else p).lookup key = pairs.lookup key := by
  induction pairs with
  | nil => rfl
  | cons p rest ih =>
    rw [List.map_cons, lookup_cons, lookup_cons, ih]
    by_cases hp : p.1 = k
    · rw [if_pos hp, if_neg hk, if_neg (hp ▸ hk)]
    · rw [if_neg hp]

theorem lookup_replace {k : α} (v : β) {pairs : List (α × β)} (h : ∃ p ∈ pairs, p.1 = k) :
    (pairs.map fun p => if p.1 = k then (k, v) else p).lookup k = some v := by
  induction pairs with
  | nil => simp at h
  | cons p rest ih =>
    rw [List.map_cons, lookup_cons]
    by_cases hp : p.1 = k
    · rw [if_pos hp, if_pos rfl]
    · rw [if_neg hp, if_neg hp]
      exact ih (by simpa [hp] using h)

theorem lookup_assign (pairs : List (α × β)) (k key : α) (v : β) :
    (assign pairs k v).lookup key = if k = key then some v else pairs.lookup key := by
  unfold assign
  by_cases hthere : pairs.any (·.1 = k) = true
  · rw [if_pos hthere]
    by_cases hk : k = key
    · subst hk
      rw [if_pos rfl, lookup_replace v (by simpa using hthere)]
    · rw [if_neg hk, lookup_replace_of_ne hk]
  · rw [if_neg hthere, List.lookup_append, lookup_cons]
    by_cases hk : k = key
    · subst hk
      have hnone : pairs.lookup k = none := by
        rw [List.lookup_eq_none_iff]
        intro p hp
        simp only [Bool.not_eq_true, List.any_eq_false, decide_eq_true_eq] at hthere
        simpa using Ne.symm (hthere p hp)
      rw [if_pos rfl, if_pos rfl, hnone, Option.none_or]
    · rw [if_neg hk, if_neg hk, List.lookup_nil, Option.or_none]

/-- A lookup finds the value given last. -/
theorem lookup_assignAll_eq_some_iff {pairs : List (α × β)} {key : α} {value : β} :
    (assignAll pairs).lookup key = some value ↔ LastGiven pairs key value := by
  induction pairs using List.reverseRecOn with
  | nil => simp [assignAll, LastGiven]
  | append_singleton rest p ih =>
    obtain ⟨k, v⟩ := p
    rw [assignAll_snoc, lookup_assign, lastGiven_snoc, ← ih]
    split_ifs with hk
    · simp [hk]
    · simp [hk]

theorem lookup_assignAll_eq_none_iff {pairs : List (α × β)} {key : α} :
    (assignAll pairs).lookup key = none ↔ NeverGiven pairs key := by
  induction pairs using List.reverseRecOn with
  | nil => simp [assignAll, NeverGiven]
  | append_singleton rest p ih =>
    obtain ⟨k, v⟩ := p
    rw [assignAll_snoc, lookup_assign, neverGiven_snoc, ← ih]
    split_ifs with hk
    · simp [hk]
    · simp [hk]

end Assigning

/-- An object with these members, in their order and with repetitions. -/
inductive Members : List (List CodePoint × Value) → List Char → Prop
  | none {s : List Char} (hs : Blank s) : Members [] ('\x7b' :: (s ++ ['\x7d']))
  | some {fs : List (List CodePoint × Value)} {t : List Char} (h : Spells (.fields fs) t) :
    Members fs ('\x7b' :: (t ++ ['\x7d']))

/-- An array, with blanks around it, whose first item is an object with these members. -/
inductive FirstMembers (fs : List (List CodePoint × Value)) : List Char → Prop
  | alone {a b t c d : List Char} (ha : Blank a) (hb : Blank b) (h : Members fs t) (hc : Blank c)
    (hd : Blank d) : FirstMembers fs (a ++ ('[' :: (b ++ (t ++ c) ++ [']']) ++ d))
  | followed {a b t c u d : List Char} {vs : List Value} (ha : Blank a) (hb : Blank b)
    (h : Members fs t) (hc : Blank c) (hs : Spells (.items vs) u) (hd : Blank d) :
    FirstMembers fs (a ++ ('[' :: (b ++ (t ++ c) ++ ',' :: u ++ [']']) ++ d))

theorem Members.spells {fs : List (List CodePoint × Value)} {t : List Char} (h : Members fs t) :
    Spells (.value (.obj (assignAll fs))) t := by
  cases h with
  | none hs => exact .noFields hs
  | some h => exact .object h

theorem exists_members {fields : List (List CodePoint × Value)} {t : List Char}
    (h : Spells (.value (.obj fields)) t) : ∃ fs, fields = assignAll fs ∧ Members fs t := by
  cases h with
  | word h => simp [literals] at h
  | unsigned h => cases h
  | negative h => cases h
  | noFields hs => exact ⟨[], rfl, .none hs⟩
  | object h => exact ⟨_, rfl, .some h⟩

theorem FirstMembers.spells {fs : List (List CodePoint × Value)} {s : List Char}
    (h : FirstMembers fs s) :
    ∃ vs, Spells (.item (.arr (.obj (assignAll fs) :: vs))) s := by
  cases h with
  | alone ha hb h hc hd =>
    have hitem := Spells.item hb h.spells hc
    exact ⟨[], .item ha (.array (.lastItem hitem)) hd⟩
  | @followed _ _ _ _ _ _ vs ha hb h hc hs hd =>
    have hitem := Spells.item hb h.spells hc
    exact ⟨vs, .item ha (.array (.moreItems hitem hs)) hd⟩

theorem exists_firstMembers {fields : List (List CodePoint × Value)} {vs : List Value}
    {s : List Char} (h : Spells (.item (.arr (.obj fields :: vs))) s) :
    ∃ fs, fields = assignAll fs ∧ FirstMembers fs s := by
  cases h with
  | item ha h hd =>
    cases h with
    | word h => simp [literals] at h
    | unsigned h => cases h
    | negative h => cases h
    | array h =>
      cases h with
      | lastItem h =>
        cases h with
        | item hb h hc =>
          obtain ⟨fs, rfl, hm⟩ := exists_members h
          exact ⟨fs, rfl, .alone ha hb hm hc hd⟩
      | moreItems h hs =>
        cases h with
        | item hb h hc =>
          obtain ⟨fs, rfl, hm⟩ := exists_members h
          exact ⟨fs, rfl, .followed ha hb hm hc hs hd⟩

end Banter.Json
