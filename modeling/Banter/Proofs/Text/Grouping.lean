import Banter.Proofs.Text.Break

/-!
Sentences are made of words: which white space stands between these, and how much of it, makes no
difference, and a sentence ends behind a word that ends in a mark, and there only.
-/
namespace Banter.Text

theorem isChain_left_iff {α : Type} {p : α → Prop} {l : List α} :
    (l.IsChain fun a _ => p a) ↔ ∀ a ∈ l.dropLast, p a := by
  induction l with
  | nil => simp
  | cons a l ih =>
    cases l with
    | nil => simp
    | cons b l =>
      rw [List.isChain_cons_cons, ih, List.dropLast_cons_cons, List.forall_mem_cons]

theorem not_closes_of_mem_sentenceGroups {ws g : List (List Char)} (h : g ∈ sentenceGroups ws) :
    ∀ w ∈ g.dropLast, closes w = false := by
  rw [sentenceGroups_eq_splitBy] at h
  refine isChain_left_iff.mp ((List.isChain_of_mem_splitBy h).imp fun w _ hw => ?_)
  rwa [Bool.not_eq_true'] at hw

/-- The last of these words ends in a mark. -/
def Closed (g : List (List Char)) : Prop :=
  ∃ w ∈ g.getLast?, closes w = true

theorem closed_of_mem_sentenceGroups (ws : List (List Char)) :
    ∀ g ∈ (sentenceGroups ws).dropLast, Closed g := by
  rw [sentenceGroups_eq_splitBy]
  refine isChain_left_iff.mp ((List.isChain_getLast_head_splitBy _ ws).imp fun g next hends => ?_)
  obtain ⟨hne, -, hlast⟩ := hends
  rw [Bool.not_eq_false'] at hlast
  exact ⟨g.getLast hne, List.getLast?_eq_some_getLast hne, hlast⟩

theorem closes_unwords {g : List (List Char)} (hg : [] ∉ g) (h : Closed g) :
    closes (unwords g) = true := by
  obtain ⟨w, hw, hclosed⟩ := h
  obtain ⟨us, rfl⟩ := List.getLast?_eq_some_iff.mp hw
  have hne : w ≠ [] := fun h => hg (by simp [h])
  cases us with
  | nil => rwa [List.nil_append, unwords_singleton]
  | cons u us =>
    rw [unwords_append (List.cons_ne_nil u us) (List.cons_ne_nil w []), unwords_singleton, closes,
      List.getLast?_append_of_ne_nil _ (List.cons_ne_nil _ _), List.getLast?_cons_of_ne_nil hne]
    exact hclosed

/-- The sentences of a text are its words, parted behind each word that ends in a mark. -/
theorem sentences_by_words (text : Option String) :
    sentences text =
        ((words (given text)).splitBy fun w _ => !closes w).map
          (fun g => String.ofList (unwords g)) ∧
      (∀ t ∈ sentences text, t ≠ "") ∧
      (∀ t ∈ (sentences text).dropLast, closes t.toList = true) ∧
      ∀ t ∈ sentences text, ∀ w ∈ (words t.toList).dropLast, closes w = false := by
  have hgroups : ∀ g ∈ sentenceGroups (words (given text)), g ≠ [] ∧ AllWords g :=
    fun g hg => words_of_mem_sentenceGroups hg
  rw [← sentenceGroups_eq_splitBy, sentences_eq]
  refine ⟨rfl, ?_, ?_, ?_⟩
  · intro t ht
    obtain ⟨g, hg, rfl⟩ := List.mem_map.mp ht
    obtain ⟨hne, hwords⟩ := hgroups g hg
    rw [Ne, String.ofList_eq_empty_iff, unwords_eq_nil_iff hwords.nil_notMem]
    exact hne
  · intro t ht
    rw [← List.map_dropLast] at ht
    obtain ⟨g, hg, rfl⟩ := List.mem_map.mp ht
    obtain ⟨-, hwords⟩ := hgroups g (List.dropLast_subset _ hg)
    rw [String.toList_ofList]
    exact closes_unwords hwords.nil_notMem (closed_of_mem_sentenceGroups _ g hg)
  · intro t ht
    obtain ⟨g, hg, rfl⟩ := List.mem_map.mp ht
    rw [String.toList_ofList, words_unwords (hgroups g hg).2]
    exact not_closes_of_mem_sentenceGroups hg

end Banter.Text
