import Banter.Proofs.Text.Break
import Banter.Proofs.Text.Packing

/-!
Lines depend on the words of a text alone. Put together again they come out as they were, and each of
them by itself is one line.
-/
namespace Banter.Text

variable {limit : Int}

theorem words_unwords_flatMap (lines : List (List Char)) :
    words (unwords lines) = lines.flatMap words := by
  induction lines with
  | nil => rfl
  | cons line lines ih =>
    cases lines with
    | nil => rw [unwords_singleton, List.flatMap_singleton]
    | cons next lines =>
      have hspace : isBlank ' ' = true := rfl
      rw [unwords_cons_cons, words_append_cons hspace, ih]
      rfl

theorem unwords_map_unwords {groups : List (List (List Char))} (h : [] ∉ groups) :
    unwords (groups.map unwords) = unwords groups.flatten := by
  induction groups with
  | nil => rfl
  | cons g groups ih =>
    obtain ⟨hg, hgroups⟩ : g ≠ [] ∧ [] ∉ groups := by simpa [eq_comm] using h
    cases groups with
    | nil =>
      rw [List.map_singleton, unwords_singleton, List.flatten_singleton]
    | cons next groups =>
      have hnext : next ≠ [] := fun hnil => hgroups (hnil ▸ List.mem_cons_self)
      have hrest : (next :: groups).flatten ≠ [] := List.append_ne_nil_of_left_ne_nil hnext _
      have htail := ih hgroups
      rw [List.map_cons] at htail
      calc unwords ((g :: next :: groups).map unwords)
          = unwords g ++ ' ' :: unwords (next :: groups).flatten := by
            rw [List.map_cons, List.map_cons, unwords_cons_cons, htail]
        _ = unwords (g ++ (next :: groups).flatten) := (unwords_append hg hrest).symm

theorem length_unwords_le_flatten {g : List (List Char)} {groups : List (List (List Char))}
    (hg : g ∈ groups) : (unwords g).length ≤ (unwords groups.flatten).length := by
  obtain ⟨before, after, rfl⟩ := List.append_of_mem hg
  have hfront := (length_unwords_le_append g after.flatten).1
  have hback := (length_unwords_le_append before.flatten (g ++ after.flatten)).2
  rw [List.flatten_append, List.flatten_cons]
  exact hfront.trans hback

theorem segmentChars_congr {s t : List Char} (h : words s = words t) :
    segmentChars limit s = segmentChars limit t := by
  rw [segmentChars, segmentChars, sentencesOf_eq, sentencesOf_eq, h]

theorem close_of_ne_nil {line : List Char} (h : line ≠ []) : close line = [line] := by
  simp [close, h]

/-- A word is a line by itself, whether or not it keeps the limit. -/
theorem packSentences_word {w : List Char} (hw : IsWord w) :
    packSentences limit [] [w] = [w] := by
  have hpacked : packWords limit [] (words w) = ([], w) := by
    rw [hw.words]
    rfl
  have hlast : packSentences limit w [] = [w] := close_of_ne_nil hw.1
  by_cases hshort : (w.length : Int) ≤ limit
  · rw [packSentences, if_pos hshort]
    exact hlast
  · rw [packSentences, if_neg hshort, hpacked]
    exact hlast

theorem packSentences_short {groups : List (List (List Char))} (hgroups : [] ∉ groups)
    (hwords : AllWords groups.flatten) (hne : groups.flatten ≠ [])
    (hfit : ((unwords groups.flatten).length : Int) ≤ limit) :
    packSentences limit [] (groups.map unwords) = [unwords groups.flatten] := by
  have hall : ∀ s ∈ groups.map unwords, (s.length : Int) ≤ limit := by
    intro s hs
    obtain ⟨g, hg, rfl⟩ := List.mem_map.mp hs
    have hle := length_unwords_le_flatten hg
    omega
  have hsome : [] ∉ groups.map unwords := by
    intro hnil
    obtain ⟨g, hg, hempty⟩ := List.mem_map.mp hnil
    have hg' : AllWords g := fun w hw => hwords w (List.mem_flatten_of_mem hg hw)
    rw [unwords_eq_nil_iff hg'.nil_notMem] at hempty
    exact hgroups (hempty ▸ hg)
  have hjoined := unwords_map_unwords hgroups
  have hopen : [] ∉ ([] : List (List Char)) := List.not_mem_nil
  have hroom : ((unwords ([] ++ groups.map unwords)).length : Int) ≤ limit := by
    rwa [List.nil_append, hjoined]
  have hone := packUnits_append hopen hsome hroom []
  rw [List.append_nil, List.nil_append, hjoined] at hone
  have hline : unwords groups.flatten ≠ [] := mt (unwords_eq_nil_iff hwords.nil_notMem).mp hne
  calc packSentences limit [] (groups.map unwords)
      = packUnits limit [] (groups.map unwords) := packSentences_eq_packUnits hall []
    _ = packUnits limit (unwords groups.flatten) [] := hone
    _ = [unwords groups.flatten] := close_of_ne_nil hline

theorem segmentChars_unwords {us : List (List Char)} (hne : us ≠ []) (hu : AllWords us)
    (hfit : Fits limit us) : segmentChars limit (unwords us) = [unwords us] := by
  rw [segmentChars, sentencesOf_eq, words_unwords hu]
  obtain hone | hkept := hfit
  · obtain ⟨w, rfl⟩ := List.length_eq_one_iff.mp
      (Nat.le_antisymm hone (List.length_pos_iff.mpr hne))
    have hw : IsWord w := hu w List.mem_cons_self
    have hgroup : (sentenceGroups [w]).map unwords = [w] := by simp [sentenceGroups, unwords]
    rw [hgroup, unwords_singleton]
    exact packSentences_word hw
  · have hflat := flatten_sentenceGroups us
    rw [← hflat] at hne hu hkept
    have hline := packSentences_short (nil_notMem_sentenceGroups us) hu hne hkept
    rwa [hflat] at hline

/-- The lines of a text, with spaces between them, have the lines of the text, and a line of a text
is its own only line. -/
theorem segment_stable (text : Option String) (limit : Int) :
    segment (some (" ".intercalate (segment text limit))) limit = segment text limit ∧
      (∀ line ∈ segment text limit, segment (some line) limit = [line]) ∧
      ∀ other, words (given other) = words (given text) →
        segment other limit = segment text limit := by
  have hwords : ∀ other, words (given other) = words (given text) →
      segment other limit = segment text limit := by
    intro other h
    rw [segment, segmentChars_congr h, segment]
  refine ⟨hwords _ ?_, ?_, hwords⟩
  · have hjoined : given (some (" ".intercalate (segment text limit))) =
        unwords ((segment text limit).map String.toList) := toList_intercalate_space _
    rw [hjoined, words_unwords_flatMap, List.flatMap_map]
    exact flatMap_words_segment text limit
  · intro line hline
    obtain ⟨us, hne, hu, hfit, rfl⟩ := exists_of_mem_segment hline
    have hgiven : given (some (String.ofList (unwords us))) = unwords us := String.toList_ofList
    rw [segment, hgiven, segmentChars_unwords hne hu hfit, List.map_singleton]

/-- The epitaph in other white space. -/
def weathered : String :=
  "Here lies\ta bard who  never\nlearned to stop. He rhymed.\r\nWe wept. Then we dug!\n"

/-- The third line has the end of a long sentence and a whole short one. -/
theorem stable_epitaph :
    words weathered.toList = words epitaph.toList ∧
      segment (some weathered) 20 = segment (some epitaph) 20 ∧
      "stop. He rhymed." ∈ segment (some epitaph) 20 ∧
      segment (some "stop. He rhymed.") 20 = ["stop. He rhymed."] := by
  obtain ⟨-, hlines, hwords⟩ := segment_stable (some epitaph) 20
  have hsame : words weathered.toList = words epitaph.toList := by decide +kernel
  have hline : "stop. He rhymed." ∈ segment (some epitaph) 20 := by decide +kernel
  exact ⟨hsame, hwords (some weathered) hsame, hline, hlines _ hline⟩

end Banter.Text
