import Banter.Proofs.Text.Layout

/-!
Lines are as few as they can be: no way of cutting a row of sentences that each fit on a line, or the
words of one long sentence, does with fewer groups.
-/
namespace Banter.Text

variable {limit : Int}

/-- Fill lines with units of one kind, from an open line on. -/
def packUnits (limit : Int) : List Char → List (List Char) → List (List Char)
  | line, [] => close line
  | line, unit :: rest =>
    if overflows limit line unit then line :: packUnits limit unit rest
    else packUnits limit (glue line unit) rest

theorem packSentences_eq_packUnits {ss : List (List Char)}
    (h : ∀ s ∈ ss, (s.length : Int) ≤ limit) (line : List Char) :
    packSentences limit line ss = packUnits limit line ss := by
  induction ss generalizing line with
  | nil => rfl
  | cons s ss ih =>
    obtain ⟨hs, hss⟩ := List.forall_mem_cons.mp h
    unfold packSentences packUnits
    rw [if_pos hs, ih hss, ih hss]

theorem packWords_eq_packUnits (limit : Int) (line : List Char) (ws : List (List Char)) :
    (packWords limit line ws).1 ++ close (packWords limit line ws).2 =
      packUnits limit line ws := by
  induction ws generalizing line with
  | nil => rfl
  | cons w ws ih =>
    unfold packWords packUnits
    split_ifs
    · exact congrArg (line :: ·) (ih w)
    · exact ih (glue line w)

theorem packUnits_layout {us vs : List (List Char)} (hu : [] ∉ us) (hv : [] ∉ vs)
    (hfit : Fits limit us) : Layout limit (us ++ vs) (packUnits limit (unwords us) vs) := by
  induction vs generalizing us with
  | nil =>
    have hlast : Ruled limit [] (us ++ []) (close (unwords us) ++ []) :=
      .close hu hfit (fun _ => .inl rfl) .nil
    rw [List.append_nil (Text.close _)] at hlast
    exact hlast.layout
  | cons v vs ih =>
    obtain ⟨hnil, hvs⟩ : v ≠ [] ∧ [] ∉ vs := by simpa [eq_comm] using hv
    have hone : [] ∉ [v] := by simpa [eq_comm] using hnil
    have hv : unwords [v] = v := unwords_singleton v
    unfold packUnits
    split_ifs with hover
    · have hline := ih hone hvs (fits_singleton v)
      rw [hv] at hline
      exact .cons (ne_nil_of_overflows_unwords hover) hfit hline
    · have hroom : Fits limit (us ++ [v]) :=
        fits_append hu (List.cons_ne_nil v []) (fits_singleton v) (by rwa [hv])
      have hglued : glue (unwords us) v = unwords (us ++ [v]) := by
        rw [← glue_unwords hu (List.cons_ne_nil v []), hv]
      have hline := ih (by simp [hu, hnil]) hvs hroom
      rwa [List.append_assoc, List.singleton_append, ← hglued] at hline

theorem length_unwords_le_append (us vs : List (List Char)) :
    (unwords us).length ≤ (unwords (us ++ vs)).length ∧
      (unwords vs).length ≤ (unwords (us ++ vs)).length := by
  by_cases hu : us = []
  · subst us
    exact ⟨Nat.zero_le _, Nat.le_refl _⟩
  by_cases hv : vs = []
  · subst vs
    rw [List.append_nil]
    exact ⟨Nat.le_refl _, Nat.zero_le _⟩
  rw [length_unwords_append hu hv]
  omega

theorem packUnits_append {us vs : List (List Char)} (hu : [] ∉ us) (hv : [] ∉ vs)
    (hfit : ((unwords (us ++ vs)).length : Int) ≤ limit) (rest : List (List Char)) :
    packUnits limit (unwords us) (vs ++ rest) = packUnits limit (unwords (us ++ vs)) rest := by
  induction vs generalizing us with
  | nil => rw [List.append_nil, List.nil_append]
  | cons v vs ih =>
    obtain ⟨hnil, hvs⟩ : v ≠ [] ∧ [] ∉ vs := by simpa [eq_comm] using hv
    have hsplit : us ++ v :: vs = (us ++ [v]) ++ vs := by simp
    rw [hsplit] at hfit ⊢
    have hshort := (length_unwords_le_append (us ++ [v]) vs).1
    have hroom : ¬ overflows limit (unwords us) (unwords [v]) = true := by
      rw [overflows_unwords_iff hu (List.cons_ne_nil v [])]
      omega
    have hglued := glue_unwords hu (List.cons_ne_nil v [])
    rw [unwords_singleton] at hroom hglued
    rw [List.cons_append, packUnits, if_neg hroom, hglued]
    exact ih (by simp [hu, hnil]) hvs hfit

theorem length_close_le (line : List Char) : (close line).length ≤ 1 := by
  unfold close
  split_ifs <;> simp

/-- A group that would fit on one line closes the open line at most, and no other. -/
theorem exists_packUnits_append_le {us vs : List (List Char)} (hu : [] ∉ us) (hv : [] ∉ vs)
    (hfit : ((unwords vs).length : Int) ≤ limit) (rest : List (List Char)) :
    ∃ held, [] ∉ held ∧ (packUnits limit (unwords us) (vs ++ rest)).length ≤
      (close (unwords us)).length + (packUnits limit (unwords held) rest).length := by
  -- With nothing on the open line the group has it to itself.
  by_cases hne : us = []
  · subst us
    refine ⟨vs, hv, ?_⟩
    rw [packUnits_append hu hv hfit]
    exact Nat.le_add_left _ _
  have hclose : (close (unwords us)).length = 1 := by
    simp [close, unwords_eq_nil_iff hu, hne]
  rw [hclose]
  induction vs generalizing us with
  | nil => exact ⟨us, hu, Nat.le_add_left _ _⟩
  | cons v vs ih =>
    obtain ⟨hnil, hvs⟩ : v ≠ [] ∧ [] ∉ vs := by simpa [eq_comm] using hv
    have hone : [] ∉ [v] := by simpa [eq_comm] using hnil
    have hglued := glue_unwords hu (List.cons_ne_nil v [])
    have hsingle : unwords [v] = v := unwords_singleton v
    rw [hsingle] at hglued
    rw [List.cons_append, packUnits]
    split_ifs with hover
    · -- The rest of the group follows on the new line.
      refine ⟨v :: vs, hv, ?_⟩
      have hfollow := packUnits_append hone hvs hfit rest
      rw [hsingle] at hfollow
      rw [hfollow, List.length_cons, Nat.add_comm]
      rfl
    · rw [hglued]
      have hshort := (length_unwords_le_append [v] vs).2
      rw [List.singleton_append] at hshort
      have hlonger : [] ∉ us ++ [v] := by simp [hu, hnil]
      have hopen : us ++ [v] ≠ [] := by simp
      refine ih hlonger hvs (by omega) hopen ?_
      simp [close, unwords_eq_nil_iff hlonger]

/-- Filling lines greedily stays ahead of any other way of cutting the units into groups. -/
theorem length_packUnits_le {us : List (List Char)} (hu : [] ∉ us)
    {groups : List (List (List Char))} (hg : [] ∉ groups.flatten)
    (hfit : ∀ g ∈ groups, ((unwords g).length : Int) ≤ limit) :
    (packUnits limit (unwords us) groups.flatten).length ≤
      (close (unwords us)).length + groups.length := by
  induction groups generalizing us with
  | nil => exact Nat.le_refl _
  | cons g groups ih =>
    rw [List.flatten_cons, List.mem_append, not_or] at hg
    obtain ⟨hfirst, hrest⟩ := List.forall_mem_cons.mp hfit
    obtain ⟨held, hheld, hle⟩ := exists_packUnits_append_le hu hg.1 hfirst groups.flatten
    have hahead := ih hheld hg.2 hrest
    have hclose := length_close_le (unwords held)
    rw [List.flatten_cons, List.length_cons]
    omega

theorem Layout.exists_groups {us lines : List (List Char)} (h : Layout limit us lines) :
    ∃ groups : List (List (List Char)), groups.flatten = us ∧ groups.map unwords = lines ∧
      ∀ g ∈ groups, g ≠ [] ∧ Fits limit g := by
  induction h with
  | nil => exact ⟨[], rfl, rfl, by simp⟩
  | cons hne hfit _ ih =>
    obtain ⟨groups, rfl, rfl, hgroups⟩ := ih
    exact ⟨_ :: groups, rfl, rfl, List.forall_mem_cons.mpr ⟨⟨hne, hfit⟩, hgroups⟩⟩

theorem toList_intercalate_space (ss : List String) :
    (" ".intercalate ss).toList = unwords (ss.map String.toList) :=
  String.toList_intercalate

/-- The lines come of a way to cut a row of units into groups, each within the limit with spaces
between its units, and no such way has fewer groups. -/
structure Fewest (limit : Int) (units lines : List String) : Prop where
  cut : ∃ groups : List (List String), groups.flatten = units ∧
    groups.map (fun g => " ".intercalate g) = lines ∧
    ∀ g ∈ groups, g ≠ [] ∧ ((" ".intercalate g).length : Int) ≤ limit
  least (groups : List (List String)) (hunits : groups.flatten = units)
    (hfit : ∀ g ∈ groups, ((" ".intercalate g).length : Int) ≤ limit) :
    lines.length ≤ groups.length

theorem fewest_packUnits {units : List (List Char)} (hne : [] ∉ units)
    (hfit : ∀ u ∈ units, (u.length : Int) ≤ limit) :
    Fewest limit (units.map String.ofList) ((packUnits limit [] units).map String.ofList) := by
  constructor
  case cut =>
    have hopen : [] ∉ ([] : List (List Char)) := List.not_mem_nil
    have hlayout : Layout limit units (packUnits limit [] units) :=
      packUnits_layout hopen hne (.inl (Nat.zero_le 1))
    obtain ⟨groups, hunits, hlines, hgroups⟩ := hlayout.exists_groups
    have hjoined : ∀ g : List (List Char),
        " ".intercalate (g.map String.ofList) = String.ofList (unwords g) := by
      intro g
      rw [← String.toList_inj, toList_intercalate_space, String.toList_ofList, List.map_map]
      simp [Function.comp_def]
    refine ⟨groups.map (List.map String.ofList), ?_, ?_, ?_⟩
    · rw [← List.map_flatten, hunits]
    · rw [← hlines, List.map_map, List.map_map]
      exact List.map_congr_left fun g _ => hjoined g
    · intro line hline
      obtain ⟨g, hg, rfl⟩ := List.mem_map.mp hline
      obtain ⟨hsome, hone | hkept⟩ := hgroups g hg
      · -- A unit by itself keeps the limit like any other.
        obtain ⟨u, rfl⟩ := List.length_eq_one_iff.mp
          (Nat.le_antisymm hone (List.length_pos_iff.mpr hsome))
        have hu : u ∈ units := hunits ▸ List.mem_flatten_of_mem hg List.mem_cons_self
        rw [hjoined, String.length_ofList, unwords_singleton]
        exact ⟨by simp, hfit u hu⟩
      · rw [hjoined, String.length_ofList]
        exact ⟨by simpa using hsome, hkept⟩
  case least =>
    intro groups hunits hgroups
    have hchars : (groups.map (List.map String.toList)).flatten = units := by
      rw [← List.map_flatten, hunits, List.map_map]
      simp [Function.comp_def]
    have hshort : ∀ g ∈ groups.map (List.map String.toList),
        ((unwords g).length : Int) ≤ limit := by
      intro g hg
      obtain ⟨ss, hss, rfl⟩ := List.mem_map.mp hg
      rw [← toList_intercalate_space, String.length_toList]
      exact hgroups ss hss
    have hopen : [] ∉ ([] : List (List Char)) := List.not_mem_nil
    have hahead := length_packUnits_le hopen (hchars ▸ hne) hshort
    rw [hchars, List.length_map] at hahead
    rw [List.length_map]
    exact hahead.trans_eq (Nat.zero_add _)

/-- Where each sentence fits on a line, sentences are put on as few lines as can be, and so are the
words of one sentence that does not fit. -/
theorem segment_fewest (text : Option String) (limit : Int) :
    ((∀ s ∈ sentences text, (s.length : Int) ≤ limit) →
      Fewest limit (sentences text) (segment text limit)) ∧
    ∀ s, sentences text = [s] → limit < s.length →
      (∀ w ∈ words (given text), (w.length : Int) ≤ limit) →
      Fewest limit ((words (given text)).map String.ofList) (segment text limit) := by
  constructor
  · intro hshort
    have hfit : ∀ s ∈ sentencesOf (given text), (s.length : Int) ≤ limit := by
      intro s hs
      have hkept := hshort (String.ofList s) (List.mem_map_of_mem hs)
      rwa [String.length_ofList] at hkept
    have hfewest := fewest_packUnits (nil_notMem_sentencesOf (given text)) hfit
    rwa [← packSentences_eq_packUnits hfit] at hfewest
  · intro s hone hlong hfit
    obtain ⟨cs, hsentence, rfl⟩ := List.map_eq_singleton_iff.mp hone
    rw [String.length_ofList] at hlong
    have hwords : words cs = words (given text) := by
      rw [← flatMap_words_sentencesOf (given text), hsentence, List.flatMap_singleton]
    have hpacked : segmentChars limit (given text) = packUnits limit [] (words (given text)) := by
      rw [segmentChars, hsentence, packSentences, if_neg (Int.not_le.mpr hlong), hwords]
      exact packWords_eq_packUnits limit [] (words (given text))
    have hfewest := fewest_packUnits (AllWords.nil_notMem fun _ => isWord_of_mem_words) hfit
    rwa [← hpacked] at hfewest

def challenge : String :=
  "Who goes there? Speak up! I am old. My ears are full of moss."

/-- The first two sentences fill a line to its last place. The last sentence alone fills three. -/
theorem fewest_for_challenge :
    (Fewest 25 (sentences (some challenge)) (segment (some challenge) 25) ∧
      segment (some challenge) 25 =
        ["Who goes there? Speak up!", "I am old.", "My ears are full of moss."]) ∧
    Fewest 8 ["My", "ears", "are", "full", "of", "moss."]
      (segment (some "My ears are full of moss.") 8) ∧
    segment (some "My ears are full of moss.") 8 = ["My ears", "are full", "of moss."] := by
  have hsentences := (segment_fewest (some challenge) 25).1 (by decide +kernel)
  have hwords := (segment_fewest (some "My ears are full of moss.") 8).2
    "My ears are full of moss." (by decide +kernel) (by decide +kernel) (by decide +kernel)
  rw [show (words (given (some "My ears are full of moss."))).map String.ofList =
    ["My", "ears", "are", "full", "of", "moss."] by decide +kernel] at hwords
  exact ⟨⟨hsentences, by decide +kernel⟩, hwords, by decide +kernel⟩

end Banter.Text
