import Banter.Proofs.Text.Sentence
import Banter.Text.Segment

/-! The lines of a text hold its words, one behind the other. Several words share a line only as far
as the limit allows it. -/
namespace Banter.Text

variable {limit : Int}

/-- These words can stand on one line: there are not several of them, or they keep the limit. -/
def Fits (limit : Int) (ws : List (List Char)) : Prop :=
  ws.length ≤ 1 ∨ ((unwords ws).length : Int) ≤ limit

/-- Words on lines, one or more on each. -/
inductive Layout (limit : Int) : List (List Char) → List (List Char) → Prop
  | nil : Layout limit [] []
  | cons {us ws lines : List (List Char)} (hne : us ≠ []) (hfit : Fits limit us)
    (h : Layout limit ws lines) : Layout limit (us ++ ws) (unwords us :: lines)

def AllWords (ws : List (List Char)) : Prop :=
  ∀ w ∈ ws, IsWord w

theorem allWords_nil : AllWords [] :=
  fun _ h => absurd h List.not_mem_nil

theorem allWords_cons {w : List Char} {ws : List (List Char)} :
    AllWords (w :: ws) ↔ IsWord w ∧ AllWords ws :=
  List.forall_mem_cons

theorem allWords_append {us ws : List (List Char)} :
    AllWords (us ++ ws) ↔ AllWords us ∧ AllWords ws :=
  List.forall_mem_append

theorem AllWords.nil_notMem {ws : List (List Char)} (h : AllWords ws) : [] ∉ ws :=
  fun hnil => (h [] hnil).1 rfl

theorem unwords_eq_nil_iff {us : List (List Char)} (h : [] ∉ us) : unwords us = [] ↔ us = [] := by
  constructor
  · intro hnil
    cases us with
    | nil => rfl
    | cons u us =>
      -- The first unit would have to be empty.
      have hu : u = [] := by
        cases us with
        | nil => rwa [unwords_singleton] at hnil
        | cons v us =>
          rw [unwords_cons_cons, List.append_eq_nil_iff] at hnil
          exact hnil.1
      exact absurd (hu ▸ List.mem_cons_self) h
  · rintro rfl
    rfl

theorem length_unwords_append {us vs : List (List Char)} (hu : us ≠ []) (hv : vs ≠ []) :
    (unwords (us ++ vs)).length = (unwords us).length + (unwords vs).length + 1 := by
  rw [unwords_append hu hv, List.length_append, List.length_cons, Nat.add_assoc]

theorem glue_unwords {us vs : List (List Char)} (hu : [] ∉ us) (hv : vs ≠ []) :
    glue (unwords us) (unwords vs) = unwords (us ++ vs) := by
  unfold glue
  by_cases hne : us = []
  · subst us
    rfl
  · rw [if_neg (by simpa [unwords_eq_nil_iff hu] using hne), unwords_append hne hv]

theorem overflows_unwords_iff {us vs : List (List Char)} (hu : [] ∉ us) (hv : vs ≠ []) :
    overflows limit (unwords us) (unwords vs) = true ↔
      us ≠ [] ∧ limit < (unwords (us ++ vs)).length := by
  by_cases hne : us = []
  · subst us
    simp [overflows, unwords]
  · have hopen : unwords us ≠ [] := mt (unwords_eq_nil_iff hu).mp hne
    rw [length_unwords_append hne hv]
    simp [overflows, hopen, hne]

theorem fits_append {us vs : List (List Char)} (hu : [] ∉ us) (hv : vs ≠ []) (hfit : Fits limit vs)
    (h : ¬ overflows limit (unwords us) (unwords vs) = true) : Fits limit (us ++ vs) := by
  rw [overflows_unwords_iff hu hv, not_and_or, not_not, Int.not_lt] at h
  obtain rfl | hroom := h
  · exact hfit
  · exact .inr hroom

theorem fits_singleton (w : List Char) : Fits limit [w] :=
  .inl (Nat.le_refl 1)

theorem ne_nil_of_overflows_unwords {us : List (List Char)} {unit : List Char}
    (h : overflows limit (unwords us) unit = true) : us ≠ [] := by
  rintro rfl
  simp [overflows, unwords] at h

/-- Why a line with the words `us` ends in front of the rest of the sentences `gs`: the next
sentence has no room on it, or, inside one that fits on no line, the next word. -/
inductive Forced (limit : Int) (gs : List (List (List Char))) (us : List (List Char)) :
    List (List Char) → Prop
  | sentence {g : List (List Char)} {later : List (List (List Char))} (h : g :: later <:+ gs)
    (hfull : limit < (unwords us).length + 1 + (unwords g).length) :
    Forced limit gs us (g :: later).flatten
  | word {begun more : List (List Char)} {w : List Char} {later : List (List (List Char))}
    (h : (begun ++ w :: more) :: later <:+ gs) (hbegun : begun ≠ [])
    (hlong : limit < (unwords (begun ++ w :: more)).length)
    (hfull : limit < (unwords us).length + 1 + w.length) :
    Forced limit gs us (w :: more ++ later.flatten)

/-- Words on lines, one or more on each, where no line ends before it has to. -/
inductive Ruled (limit : Int) (gs : List (List (List Char))) :
    List (List Char) → List (List Char) → Prop
  | nil : Ruled limit gs [] []
  | cons {us ws lines : List (List Char)} (hne : us ≠ []) (hfit : Fits limit us)
    (hend : ws = [] ∨ Forced limit gs us ws) (h : Ruled limit gs ws lines) :
    Ruled limit gs (us ++ ws) (unwords us :: lines)

variable {gs : List (List (List Char))}

theorem Ruled.layout {ws lines : List (List Char)} (h : Ruled limit gs ws lines) :
    Layout limit ws lines := by
  induction h with
  | nil => exact .nil
  | cons hne hfit _ _ ih => exact .cons hne hfit ih

theorem Ruled.close {us ws lines : List (List Char)} (hu : [] ∉ us) (hfit : Fits limit us)
    (hend : us ≠ [] → ws = [] ∨ Forced limit gs us ws) (h : Ruled limit gs ws lines) :
    Ruled limit gs (us ++ ws) (close (unwords us) ++ lines) := by
  unfold Text.close
  by_cases hne : us = []
  · subst us
    exact h
  · rw [if_neg (by simpa [unwords_eq_nil_iff hu] using hne)]
    exact .cons hne hfit (hend hne) h

/-- Of a long sentence the words `begun` are on lines already and `us` on the open line. Of the
others some come on full lines, and the last ones stay open. -/
theorem packWords_ruled {begun us ws : List (List Char)} {later : List (List (List Char))}
    (hsentence : (begun ++ us ++ ws) :: later <:+ gs)
    (hlong : limit < (unwords (begun ++ us ++ ws)).length) (hu : AllWords us) (hw : AllWords ws)
    (hfit : Fits limit us) :
    ∃ full rest, us ++ ws = full ++ rest ∧ (packWords limit (unwords us) ws).2 = unwords rest ∧
      Fits limit rest ∧ ∀ lines, Ruled limit gs (rest ++ later.flatten) lines →
        Ruled limit gs (full ++ (rest ++ later.flatten))
          ((packWords limit (unwords us) ws).1 ++ lines) := by
  induction ws generalizing begun us with
  | nil => exact ⟨[], us, List.append_nil us, rfl, hfit, fun _ h => h⟩
  | cons w ws ih =>
    obtain ⟨hword, hws⟩ := allWords_cons.mp hw
    have hone : AllWords [w] := allWords_cons.mpr ⟨hword, allWords_nil⟩
    have hw : unwords [w] = w := unwords_singleton w
    unfold packWords
    -- The line ends in front of the word, or takes it in.
    split_ifs with hover
    · have hne : us ≠ [] := ne_nil_of_overflows_unwords hover
      have hfull : limit < (unwords us).length + 1 + w.length := by
        rw [overflows, Bool.and_eq_true, decide_eq_true_eq] at hover
        omega
      have hend := Forced.word hsentence (List.append_ne_nil_of_right_ne_nil begun hne) hlong hfull
      have hmoved : begun ++ us ++ w :: ws = begun ++ us ++ [w] ++ ws := by simp
      rw [hmoved] at hsentence hlong
      obtain ⟨full, rest, hsplit, hrest, hlast, hfill⟩ :=
        ih hsentence hlong hone hws (fits_singleton w)
      rw [hw] at hrest hfill
      have hleft : w :: ws ++ later.flatten = full ++ (rest ++ later.flatten) := by
        rw [← List.append_assoc, ← hsplit]
        rfl
      rw [hleft] at hend
      refine ⟨us ++ full, rest, ?_, hrest, hlast, fun lines h => ?_⟩
      · rw [List.append_assoc, ← hsplit]
        rfl
      · rw [List.append_assoc, List.cons_append]
        exact .cons hne hfit (.inr hend) (hfill lines h)
    · have hglued : glue (unwords us) w = unwords (us ++ [w]) := by
        rw [← glue_unwords hu.nil_notMem (List.cons_ne_nil w []), hw]
      have hroom : Fits limit (us ++ [w]) :=
        fits_append hu.nil_notMem (List.cons_ne_nil w []) (fits_singleton w) (by rwa [hw])
      have hmoved : begun ++ us ++ w :: ws = begun ++ (us ++ [w]) ++ ws := by simp
      rw [hmoved] at hsentence hlong
      obtain ⟨full, rest, hsplit, hrest, hlast, hfill⟩ :=
        ih hsentence hlong (allWords_append.mpr ⟨hu, hone⟩) hws hroom
      rw [hglued]
      refine ⟨full, rest, ?_, hrest, hlast, hfill⟩
      rw [← hsplit, List.append_assoc]
      rfl

theorem packSentences_ruled {us : List (List Char)} {rest : List (List (List Char))}
    (hleft : rest <:+ gs) (hu : AllWords us) (hg : ∀ g ∈ rest, g ≠ [] ∧ AllWords g)
    (hfit : Fits limit us) :
    Ruled limit gs (us ++ rest.flatten)
      (packSentences limit (unwords us) (rest.map unwords)) := by
  induction rest generalizing us with
  | nil =>
    have hlast : Ruled limit gs (us ++ []) (close (unwords us) ++ []) :=
      .close hu.nil_notMem hfit (fun _ => .inl rfl) .nil
    rwa [List.append_nil (Text.close _)] at hlast
  | cons g later ih =>
    obtain ⟨⟨hne, hwords⟩, hgs⟩ := List.forall_mem_cons.mp hg
    have hlater : later <:+ gs := (List.suffix_cons g later).trans hleft
    rw [List.map_cons, List.flatten_cons]
    unfold packSentences
    split_ifs with hshort hover
    · have hfull : limit < (unwords us).length + 1 + (unwords g).length := by
        rw [overflows, Bool.and_eq_true, decide_eq_true_eq] at hover
        omega
      exact .cons (ne_nil_of_overflows_unwords hover) hfit (.inr (.sentence hleft hfull))
        (ih hlater hwords hgs (.inr hshort))
    · have hroom := fits_append hu.nil_notMem hne (.inr hshort) hover
      rw [glue_unwords hu.nil_notMem hne, ← List.append_assoc]
      exact ih hlater (allWords_append.mpr ⟨hu, hwords⟩) hgs hroom
    -- What a long sentence leaves open is the open line of the next.
    · have hlong : limit < (unwords ([] ++ [] ++ g)).length := Int.not_le.mp hshort
      have hstart : ([] ++ [] ++ g) :: later <:+ gs := hleft
      obtain ⟨full, rest, hsplit, hrest, hlast, hfill⟩ :=
        packWords_ruled hstart hlong allWords_nil hwords (.inl (Nat.zero_le 1))
      have hparts : AllWords (full ++ rest) := hsplit ▸ hwords
      have hpacked : packWords limit [] (words (unwords g)) = packWords limit (unwords []) g := by
        rw [words_unwords hwords]
        rfl
      have hall : g ++ later.flatten = full ++ (rest ++ later.flatten) := by
        rw [← List.append_assoc, ← hsplit, List.nil_append]
      have hgoing := hfill _ (ih hlater (allWords_append.mp hparts).2 hgs hlast)
      have hend : Forced limit gs us (g ++ later.flatten) := .sentence hleft (by omega)
      rw [hall] at hend
      dsimp only
      rw [hpacked, hrest, hall, List.append_assoc]
      exact .close hu.nil_notMem hfit (fun _ => .inr hend) hgoing

theorem words_of_mem_sentenceGroups {s : List Char} {g : List (List Char)}
    (hg : g ∈ sentenceGroups (words s)) : g ≠ [] ∧ AllWords g := by
  refine ⟨ne_nil_of_mem_sentenceGroups hg, fun w hw => isWord_of_mem_words (s := s) ?_⟩
  rw [← flatten_sentenceGroups (words s)]
  exact List.mem_flatten_of_mem hg hw

theorem nil_notMem_sentencesOf (s : List Char) : [] ∉ sentencesOf s := by
  rw [sentencesOf_eq, List.mem_map]
  rintro ⟨g, hg, hnil⟩
  obtain ⟨hne, hwords⟩ := words_of_mem_sentenceGroups hg
  exact hne ((unwords_eq_nil_iff hwords.nil_notMem).mp hnil)

theorem flatMap_words_sentencesOf (s : List Char) : (sentencesOf s).flatMap words = words s := by
  have hgroups : ∀ g ∈ sentenceGroups (words s), words (unwords g) = g :=
    fun g hg => words_unwords (words_of_mem_sentenceGroups hg).2
  rw [sentencesOf_eq, List.flatMap_map, List.flatMap_congr hgroups, List.flatMap_id',
    flatten_sentenceGroups]

theorem segmentChars_ruled (limit : Int) (s : List Char) :
    Ruled limit (sentenceGroups (words s)) (words s) (segmentChars limit s) := by
  have hopen : Fits limit [] := .inl (Nat.zero_le 1)
  have hlines := packSentences_ruled (List.suffix_refl (sentenceGroups (words s))) allWords_nil
    (fun g hg => words_of_mem_sentenceGroups hg) hopen
  rwa [List.nil_append, flatten_sentenceGroups, ← sentencesOf_eq] at hlines

theorem segmentChars_layout (limit : Int) (s : List Char) :
    Layout limit (words s) (segmentChars limit s) :=
  (segmentChars_ruled limit s).layout

theorem Layout.lines_eq_nil_iff {ws lines : List (List Char)} (h : Layout limit ws lines) :
    lines = [] ↔ ws = [] := by
  cases h with
  | nil => simp
  | cons hne => simp [hne]

theorem Layout.flatMap_words {ws lines : List (List Char)} (h : Layout limit ws lines)
    (hw : AllWords ws) : lines.flatMap words = ws := by
  induction h with
  | nil => rfl
  | cons _ _ _ ih =>
    obtain ⟨hu, hws⟩ := allWords_append.mp hw
    rw [List.flatMap_cons, words_unwords hu, ih hws]

theorem Layout.exists_of_mem {ws lines : List (List Char)} {line : List Char}
    (h : Layout limit ws lines) (hw : AllWords ws) (hline : line ∈ lines) :
    ∃ us, us ≠ [] ∧ AllWords us ∧ Fits limit us ∧ line = unwords us := by
  induction h with
  | nil => exact absurd hline List.not_mem_nil
  | cons hne hfit _ ih =>
    obtain ⟨hu, hws⟩ := allWords_append.mp hw
    obtain rfl | hline := List.mem_cons.mp hline
    · exact ⟨_, hne, hu, hfit, rfl⟩
    · exact ih hws hline

theorem Fits.length_le_or_isWord {us : List (List Char)} (h : Fits limit us) (hne : us ≠ [])
    (hu : AllWords us) : ((unwords us).length : Int) ≤ limit ∨ IsWord (unwords us) := by
  obtain hone | hkept := h
  · obtain ⟨w, rfl⟩ := List.length_eq_one_iff.mp
      (Nat.le_antisymm hone (List.length_pos_iff.mpr hne))
    rw [unwords_singleton]
    exact .inr (hu w List.mem_cons_self)
  · exact .inl hkept

theorem exists_of_mem_segment {text : Option String} {line : String}
    (h : line ∈ segment text limit) :
    ∃ us, us ≠ [] ∧ AllWords us ∧ Fits limit us ∧ line = String.ofList (unwords us) := by
  obtain ⟨cs, hcs, rfl⟩ := List.mem_map.mp h
  obtain ⟨us, hne, hu, hfit, rfl⟩ :=
    (segmentChars_layout limit (given text)).exists_of_mem (fun _ => isWord_of_mem_words) hcs
  exact ⟨us, hne, hu, hfit, rfl⟩

theorem ne_empty_of_mem_segment {text : Option String} {line : String}
    (h : line ∈ segment text limit) : line ≠ "" := by
  obtain ⟨us, hne, hu, -, rfl⟩ := exists_of_mem_segment h
  rw [Ne, String.ofList_eq_empty_iff, unwords_eq_nil_iff hu.nil_notMem]
  exact hne

theorem segment_eq_nil_iff {text : Option String} :
    segment text limit = [] ↔ ∀ c ∈ given text, isBlank c = true := by
  have hnone := (segmentChars_layout limit (given text)).lines_eq_nil_iff
  rw [segment, List.map_eq_nil_iff, hnone, words_eq_nil_iff]

theorem flatMap_words_segment (text : Option String) (limit : Int) :
    (segment text limit).flatMap (fun line => words line.toList) = words (given text) := by
  rw [segment, List.flatMap_map]
  simp only [String.toList_ofList]
  exact (segmentChars_layout limit _).flatMap_words fun _ => isWord_of_mem_words

/-- Line after line, the words are those of the text. There is no line just if there is nothing to
see on the text. -/
theorem words_segment (text : Option String) (limit : Int) :
    (segment text limit).flatMap (fun line => words line.toList) = words (given text) ∧
      (segment text limit = [] ↔ ∀ c ∈ given text, isBlank c = true) :=
  ⟨flatMap_words_segment text limit, segment_eq_nil_iff⟩

/-- A line is tidy, and longer than the limit only where a single word is. -/
theorem tidy_of_mem_segment {text : Option String} {limit : Int} {line : String}
    (h : line ∈ segment text limit) :
    Tidy line.toList ∧ ((line.length : Int) ≤ limit ∨ IsWord line.toList) := by
  obtain ⟨us, hne, hu, hfit, rfl⟩ := exists_of_mem_segment h
  rw [String.toList_ofList, String.length_ofList]
  exact ⟨tidy_unwords hu hne, hfit.length_le_or_isWord hne hu⟩

/-- The long word has a line to itself. -/
theorem tidy_lamentable :
    "lamentable," ∈ segment (some " Most  lamentable,\tBob!\n") 6 ∧
      Tidy "lamentable,".toList ∧
      (("lamentable,".length : Int) ≤ 6 ∨ IsWord "lamentable,".toList) := by
  have hline : "lamentable," ∈ segment (some " Most  lamentable,\tBob!\n") 6 := by decide +kernel
  exact ⟨hline, tidy_of_mem_segment hline⟩

theorem filter_flatten_segmentChars (limit : Int) (s : List Char) :
    ((segmentChars limit s).flatten.filter fun c => !isBlank c) = s.filter fun c => !isBlank c := by
  have hwords := (segmentChars_layout limit s).flatMap_words fun _ => isWord_of_mem_words
  have hlines : ∀ lines : List (List Char),
      (lines.flatMap words).flatten = lines.flatten.filter fun c => !isBlank c := by
    intro lines
    induction lines with
    | nil => rfl
    | cons line lines ih =>
      rw [List.flatMap_cons, List.flatten_append, ih, flatten_words, List.flatten_cons,
        List.filter_append]
  rw [← hlines, hwords, flatten_words]

theorem count_segment {c : Char} (hc : isBlank c = false) (text : Option String) (limit : Int) :
    ((segment text limit).flatMap String.toList).count c = (given text).count c := by
  have hlines : (segment text limit).flatMap String.toList =
      (segmentChars limit (given text)).flatten := by
    rw [segment, List.flatMap_map]
    simp [List.flatMap_id']
  have hseen : ∀ s : List Char, (s.filter fun d => !isBlank d).count c = s.count c :=
    fun s => List.count_filter (by simp [hc])
  rw [hlines, ← hseen, filter_flatten_segmentChars, hseen]

end Banter.Text
