import Banter.Proofs.Text.Trim
import Banter.Text.Words
import Mathlib.Data.List.Chain
import Mathlib.Data.List.TakeWhile
import Mathlib.Tactic.SplitIfs

/-! Words are what is left of a text that is cut at each white space, and a text that is put together
from words has just these words. -/
namespace Banter.Text

/-- Something, and no white space in it. -/
def IsWord (w : List Char) : Prop :=
  w ≠ [] ∧ ∀ c ∈ w, isBlank c = false

theorem words_eq_splitOnP (s : List Char) :
    words s = (s.splitOnP isBlank).filter fun w => !w.isEmpty := by
  induction s using words.induct with
  | case1 => rfl
  | case2 c hc => simp [words, List.splitOnP_cons_eq_if_modifyHead, hc]
  | case3 c hc => simp [words, List.splitOnP_cons_eq_if_modifyHead, hc]
  | case4 c d rest hc ih =>
    rw [words, if_pos hc, ih, List.splitOnP_cons_eq_if_modifyHead c, if_pos hc]
    rfl
  | case5 c d rest hc hd ih =>
    rw [words, if_neg hc, if_pos hd, ih]
    simp [List.splitOnP_cons_eq_if_modifyHead, hc, hd]
  | case6 c d rest hc hd ih =>
    -- The first piece goes on with both characters.
    obtain ⟨first, more, hsplit⟩ :=
      List.exists_cons_of_ne_nil (List.splitOnP_ne_nil isBlank rest)
    rw [words, if_neg hc, if_neg hd, ih]
    simp [List.splitOnP_cons_eq_if_modifyHead, hc, hd, hsplit, extendWord]

theorem words_nil : words [] = [] := rfl

theorem words_append_cons {b : Char} (hb : isBlank b = true) (s t : List Char) :
    words (s ++ b :: t) = words s ++ words t := by
  simp only [words_eq_splitOnP, List.splitOnP_append_cons s t hb, List.filter_append]

theorem words_cons {b : Char} (hb : isBlank b = true) (s : List Char) :
    words (b :: s) = words s :=
  words_append_cons hb [] s

theorem words_blank_append {a : List Char} (ha : ∀ c ∈ a, isBlank c = true) (s : List Char) :
    words (a ++ s) = words s := by
  induction a with
  | nil => rfl
  | cons c a ih =>
    rw [List.cons_append, words_cons (ha c List.mem_cons_self)]
    exact ih fun d hd => ha d (List.mem_cons_of_mem _ hd)

theorem words_append_blank {a : List Char} (ha : ∀ c ∈ a, isBlank c = true) (s : List Char) :
    words (s ++ a) = words s := by
  cases a with
  | nil => rw [List.append_nil]
  | cons c a =>
    have hrest := words_blank_append (fun d hd => ha d (List.mem_cons_of_mem c hd)) []
    rw [words_append_cons (ha c List.mem_cons_self), ← List.append_nil a, hrest, words_nil,
      List.append_nil]

theorem words_trim (s : List Char) : words (trim s) = words s := by
  obtain ⟨a, ha, hright⟩ := exists_trimRight (trimLeft s)
  have hleft : ∀ c ∈ s.takeWhile isBlank, isBlank c = true := fun c => List.mem_takeWhile_imp
  calc words (trim s) = words (trim s ++ a) := (words_append_blank ha _).symm
    _ = words (trimLeft s) := congrArg words hright.symm
    _ = words (s.takeWhile isBlank ++ trimLeft s) := (words_blank_append hleft _).symm
    _ = words s := congrArg words List.takeWhile_append_dropWhile

theorem IsWord.words {w : List Char} (hw : IsWord w) : words w = [w] := by
  rw [words_eq_splitOnP, List.splitOnP_eq_singleton hw.2]
  simp [hw.1]

theorem flatten_extendWord (c : Char) (ws : List (List Char)) :
    (extendWord c ws).flatten = c :: ws.flatten := by
  cases ws <;> rfl

/-- The words of a text hold all of it that can be seen, in its order. -/
theorem flatten_words (s : List Char) : (words s).flatten = s.filter fun c => !isBlank c := by
  induction s using words.induct with
  | case1 => rfl
  | case2 c hc => simp [words, hc]
  | case3 c hc => simp [words, hc]
  | case4 c d rest hc ih =>
    rw [words, if_pos hc, ih, List.filter_cons (x := c), if_neg (by simpa using hc)]
  | case5 c d rest hc hd ih =>
    rw [words, if_neg hc, if_pos hd, List.flatten_cons, ih, List.filter_cons (x := c),
      if_pos (by simpa using hc)]
    rfl
  | case6 c d rest hc hd ih =>
    rw [words, if_neg hc, if_neg hd, flatten_extendWord, ih, List.filter_cons (x := c),
      if_pos (by simpa using hc)]

theorem isWord_of_mem_words {s w : List Char} (h : w ∈ words s) : IsWord w := by
  constructor
  · rw [words_eq_splitOnP, List.mem_filter] at h
    simpa using h.2
  · intro c hc
    have hseen : c ∈ (words s).flatten := List.mem_flatten_of_mem h hc
    rw [flatten_words, List.mem_filter] at hseen
    simpa using hseen.2

theorem words_eq_nil_iff {s : List Char} : words s = [] ↔ ∀ c ∈ s, isBlank c = true := by
  constructor
  · intro h
    have hnone := flatten_words s
    rw [h] at hnone
    simpa using List.filter_eq_nil_iff.mp hnone.symm
  · intro h
    rw [← List.append_nil s, words_blank_append h, words_nil]

theorem unwords_cons_cons (w v : List Char) (ws : List (List Char)) :
    unwords (w :: v :: ws) = w ++ ' ' :: unwords (v :: ws) := by
  simp [unwords]

theorem unwords_singleton (w : List Char) : unwords [w] = w :=
  List.intercalate_singleton

theorem unwords_append {us vs : List (List Char)} (hu : us ≠ []) (hv : vs ≠ []) :
    unwords (us ++ vs) = unwords us ++ ' ' :: unwords vs := by
  induction us with
  | nil => exact absurd rfl hu
  | cons u us ih =>
    cases us with
    | nil =>
      obtain ⟨v, rest, rfl⟩ := List.exists_cons_of_ne_nil hv
      rw [unwords_singleton]
      exact unwords_cons_cons u v rest
    | cons w us =>
      rw [List.cons_append, List.cons_append, unwords_cons_cons, unwords_cons_cons,
        ← List.cons_append, ih (List.cons_ne_nil w us), List.append_assoc, List.cons_append]

theorem words_unwords {ws : List (List Char)} (h : ∀ w ∈ ws, IsWord w) :
    words (unwords ws) = ws := by
  induction ws with
  | nil => rfl
  | cons w ws ih =>
    have hw : IsWord w := h w List.mem_cons_self
    have hws := ih fun v hv => h v (List.mem_cons_of_mem _ hv)
    cases ws with
    | nil => rw [unwords_singleton, hw.words]
    | cons v ws =>
      rw [unwords_cons_cons, words_append_cons (by rfl), hw.words, hws]
      rfl

/-- Single spaces between words, and no other white space. -/
structure Tidy (s : List Char) : Prop where
  ne_nil : s ≠ []
  head : ∀ c ∈ s.head?, isBlank c = false
  last : ∀ c ∈ s.getLast?, isBlank c = false
  space : ∀ c ∈ s, isBlank c = true → c = ' '
  single : s.IsChain fun c d => isBlank c = false ∨ isBlank d = false

theorem IsWord.tidy {w : List Char} (hw : IsWord w) : Tidy w where
  ne_nil := hw.1
  head c hc := hw.2 c (List.mem_of_mem_head? hc)
  last c hc := hw.2 c (List.mem_of_mem_getLast? hc)
  space c hc hb := by simp [hw.2 c hc] at hb
  single := List.isChain_iff_forall_rel_of_append_cons_cons.mpr fun c d before after h =>
    .inl (hw.2 c (by simp [h]))

theorem Tidy.append {s t : List Char} (hs : Tidy s) (ht : Tidy t) : Tidy (s ++ ' ' :: t) where
  ne_nil := by simp
  head c hc := by
    rw [List.head?_append_of_ne_nil _ hs.ne_nil] at hc
    exact hs.head c hc
  last c hc := by
    rw [List.getLast?_append_of_ne_nil _ (List.cons_ne_nil _ _),
      List.getLast?_cons_of_ne_nil ht.ne_nil] at hc
    exact ht.last c hc
  space c hc hb := by
    obtain hc | hc := List.mem_append.mp hc
    · exact hs.space c hc hb
    · obtain rfl | hc := List.mem_cons.mp hc
      · rfl
      · exact ht.space c hc hb
  single := by
    refine List.isChain_append.mpr ⟨hs.single, ?_, fun c hc d _ => .inl (hs.last c hc)⟩
    exact List.isChain_cons.mpr ⟨fun d hd => .inr (ht.head d hd), ht.single⟩

theorem tidy_unwords {ws : List (List Char)} (h : ∀ w ∈ ws, IsWord w) (hne : ws ≠ []) :
    Tidy (unwords ws) := by
  induction ws with
  | nil => exact absurd rfl hne
  | cons w ws ih =>
    have hw : IsWord w := h w List.mem_cons_self
    cases ws with
    | nil =>
      rw [unwords_singleton]
      exact hw.tidy
    | cons v ws =>
      rw [unwords_cons_cons]
      exact hw.tidy.append (ih (fun u hu => h u (List.mem_cons_of_mem _ hu)) (List.cons_ne_nil _ _))

end Banter.Text
