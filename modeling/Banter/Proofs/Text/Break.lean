import Banter.Proofs.Text.Layout

/-!
Where lines break: a line ends only where the sentence that comes next, or the next word of a sentence
that is under way, has no room on it. So a sentence that fits on a line is never torn apart.
-/
namespace Banter.Text

variable {limit : Int} {gs : List (List (List Char))}

theorem length_flatten_le_of_suffix {α : Type*} {xs ys : List (List α)} (h : xs <:+ ys) :
    xs.flatten.length ≤ ys.flatten.length := by
  obtain ⟨front, rfl⟩ := h
  rw [List.flatten_append, List.length_append]
  exact Nat.le_add_left _ _

theorem eq_of_cons_suffix {α : Type*} {x y : List α} {xs ys : List (List α)}
    (h : x :: xs <:+ y :: ys) (hlonger : ys.flatten.length < x.length + xs.flatten.length) :
    x :: xs = y :: ys := by
  refine (List.suffix_cons_iff.mp h).resolve_right fun hwithin => ?_
  have hle := length_flatten_le_of_suffix hwithin
  rw [List.flatten_cons, List.length_append] at hle
  exact Nat.not_le.mpr hlonger hle

/-- What is left of a text tells which sentence it starts in, and how much of it came before. -/
theorem place_unique {α : Type*} (begun begun' : List α) {more more' : List α}
    {later later' gs : List (List α)} (hg : (begun ++ more) :: later <:+ gs)
    (hg' : (begun' ++ more') :: later' <:+ gs)
    (hmore : more ≠ []) (hmore' : more' ≠ [])
    (h : more ++ later.flatten = more' ++ later'.flatten) : begun = begun' ∧ more = more' := by
  have hsize := congrArg List.length h
  rw [List.length_append, List.length_append] at hsize
  have hpos := List.length_pos_iff.mpr hmore
  have hpos' := List.length_pos_iff.mpr hmore'
  have hsame : (begun ++ more) :: later = (begun' ++ more') :: later' := by
    obtain hwithin | hwithin := List.suffix_or_suffix_of_suffix hg hg'
    · exact eq_of_cons_suffix hwithin (by rw [List.length_append]; omega)
    · exact (eq_of_cons_suffix hwithin (by rw [List.length_append]; omega)).symm
  obtain ⟨hsentence, rfl⟩ := List.cons_eq_cons.mp hsame
  obtain rfl := List.append_cancel_right h
  exact ⟨List.append_cancel_right hsentence, rfl⟩

theorem ne_nil_of_suffix {α : Type*} {x : List α} {xs ys : List (List α)} (hys : [] ∉ ys)
    (h : x :: xs <:+ ys) : x ≠ [] :=
  fun hnil => hys (hnil ▸ h.mem List.mem_cons_self)

theorem Forced.full_of_sentence {us g : List (List Char)} {later : List (List (List Char))}
    (hgs : [] ∉ gs) (hg : g :: later <:+ gs) (h : Forced limit gs us (g :: later).flatten) :
    limit < (unwords us).length + 1 + (unwords g).length := by
  have hne := ne_nil_of_suffix hgs hg
  generalize hleft : (g :: later).flatten = left at h
  cases h with
  | sentence hg' hfull =>
    have hne' := ne_nil_of_suffix hgs hg'
    obtain ⟨-, rfl⟩ := place_unique [] [] hg hg' hne hne' hleft
    exact hfull
  | word hg' hbegun =>
    obtain ⟨hnone, -⟩ := place_unique [] _ hg hg' hne (List.cons_ne_nil _ _) hleft
    exact absurd hnone.symm hbegun

theorem Forced.full_of_word {us left : List (List Char)} (h : Forced limit gs us left)
    (hinside : ∀ g later, g :: later <:+ gs → left ≠ (g :: later).flatten) :
    ∃ w rest, left = w :: rest ∧ limit < (unwords us).length + 1 + w.length := by
  cases h with
  | sentence hg => exact absurd rfl (hinside _ _ hg)
  | word _ _ _ hfull => exact ⟨_, _, rfl, hfull⟩

/-- No line ends inside a sentence that fits on a line. -/
theorem not_forced_inside {us begun more : List (List Char)} {later : List (List (List Char))}
    (hgs : [] ∉ gs) (hg : (begun ++ more) :: later <:+ gs)
    (hshort : ((unwords (begun ++ more)).length : Int) ≤ limit) (hbegun : begun ≠ [])
    (hmore : more ≠ []) : ¬ Forced limit gs us (more ++ later.flatten) := by
  intro h
  generalize hleft : more ++ later.flatten = left at h
  cases h with
  | sentence hg' =>
    have hne' := ne_nil_of_suffix hgs hg'
    obtain ⟨hnone, -⟩ := place_unique begun [] hg hg' hmore hne' hleft
    exact hbegun hnone
  | word hg' _ hlong =>
    obtain ⟨rfl, rfl⟩ := place_unique begun _ hg hg' hmore (List.cons_ne_nil _ _) hleft
    omega

theorem Ruled.exists_break {ws before after : List (List Char)} {line : List Char}
    (h : Ruled limit gs ws (before ++ line :: after)) (hw : AllWords ws) :
    ∃ us left, line = unwords us ∧ AllWords left ∧ Layout limit left after ∧
      (left = [] ∨ Forced limit gs us left) := by
  induction before generalizing ws with
  | nil =>
    cases h with
    | @cons us left _ _ _ hend hrest =>
      exact ⟨us, left, rfl, (allWords_append.mp hw).2, hrest.layout, hend⟩
  | cons _ before ih =>
    cases h with
    | cons _ _ _ hrest => exact ih hrest (allWords_append.mp hw).2

/-- A sentence is on one line, in a row with words of other sentences: behind the words `lead`, and in
front of the words `rest`. -/
def Whole (lines : List (List Char)) (lead g rest : List (List Char)) : Prop :=
  ∃ before after us vs, lines = before ++ unwords (us ++ g ++ vs) :: after ∧
    AllWords (us ++ g ++ vs) ∧ before.flatMap words ++ us = lead ∧ vs ++ after.flatMap words = rest

theorem Whole.cons {lines lead g rest us : List (List Char)} (h : Whole lines lead g rest)
    (hu : AllWords us) : Whole (unwords us :: lines) (us ++ lead) g rest := by
  obtain ⟨before, after, us', vs, rfl, hall, rfl, hrest⟩ := h
  refine ⟨unwords us :: before, after, us', vs, rfl, hall, ?_, hrest⟩
  rw [List.flatMap_cons, words_unwords hu, List.append_assoc]

theorem whole_head {us g vs : List (List Char)} (lines : List (List Char))
    (h : AllWords (us ++ g ++ vs)) :
    Whole (unwords (us ++ g ++ vs) :: lines) us g (vs ++ lines.flatMap words) :=
  ⟨[], lines, us, vs, rfl, h, rfl, rfl⟩

theorem Ruled.whole {ws lines lead g : List (List Char)} {later : List (List (List Char))}
    (h : Ruled limit gs ws lines) (hw : AllWords ws) (hgs : [] ∉ gs) (hg : g :: later <:+ gs)
    (hshort : ((unwords g).length : Int) ≤ limit) (hsplit : ws = lead ++ (g ++ later.flatten)) :
    Whole lines lead g later.flatten := by
  induction h generalizing lead with
  | nil =>
    have hnone := (List.append_eq_nil_iff.mp hsplit.symm).2
    exact absurd (List.append_eq_nil_iff.mp hnone).1 (ne_nil_of_suffix hgs hg)
  | @cons us ws lines _ _ hend hrest ih =>
    obtain ⟨hu, hws⟩ := allWords_append.mp hw
    have hlines := hrest.layout.flatMap_words hws
    obtain ⟨p, rfl, hp⟩ | ⟨p, rfl, hp⟩ := List.append_eq_append_iff.mp hsplit
    · exact (ih hws hp).cons hu
    -- The line ends behind the sentence, in front of it or, as it cannot, inside it.
    obtain ⟨vs, rfl, hlater⟩ | ⟨vs, rfl, rfl⟩ := List.append_eq_append_iff.mp hp
    · rw [← List.append_assoc] at hu ⊢
      rw [hlater, ← hlines]
      exact whole_head lines hu
    by_cases hbegun : p = []
    · subst p
      have hstart : vs ++ later.flatten = [] ++ ([] ++ vs ++ later.flatten) := rfl
      simpa only [List.append_nil] using (ih hws hstart).cons hu
    by_cases hmore : vs = []
    · subst vs
      rw [← List.append_nil (lead ++ p)] at hu
      have hhere := whole_head lines hu
      rw [hlines] at hhere
      simpa only [List.append_nil, List.nil_append] using hhere
    obtain hnone | hforced := hend
    · exact absurd (List.append_eq_nil_iff.mp hnone).1 hmore
    · exact absurd hforced (not_forced_inside hgs hg hshort hbegun hmore)

def wordsOf (ts : List String) : List (List Char) :=
  ts.flatMap fun t => words t.toList

/-- These lines hold the sentences of the text in front of `u`, and nothing else. -/
def UpTo (text : Option String) (lines : List String) (u : String) : Prop :=
  ∃ earlier later, sentences text = earlier ++ u :: later ∧ wordsOf lines = wordsOf earlier

theorem wordsOf_ofList (lines : List (List Char)) :
    wordsOf (lines.map String.ofList) = lines.flatMap words := by
  simp [wordsOf, List.flatMap_map]

theorem wordsOf_sentences {groups : List (List (List Char))} (h : ∀ g ∈ groups, AllWords g) :
    wordsOf (groups.map fun g => String.ofList (unwords g)) = groups.flatten := by
  have hwords : ∀ g ∈ groups, words (String.ofList (unwords g)).toList = g := by
    intro g hg
    rw [String.toList_ofList, words_unwords (h g hg)]
  rw [wordsOf, List.flatMap_map, List.flatMap_congr hwords, List.flatMap_id']

theorem sentences_eq (text : Option String) :
    sentences text =
      (sentenceGroups (words (given text))).map fun g => String.ofList (unwords g) := by
  rw [sentences, sentencesOf_eq, List.map_map]
  rfl

theorem nil_notMem_sentenceGroups (ws : List (List Char)) : [] ∉ sentenceGroups ws :=
  fun h => ne_nil_of_mem_sentenceGroups h rfl

theorem exists_of_sentences_eq {text : Option String} {earlier later : List String} {u : String}
    (h : sentences text = earlier ++ u :: later) :
    ∃ front g back, sentenceGroups (words (given text)) = front ++ g :: back ∧
      wordsOf earlier = front.flatten ∧ u = String.ofList (unwords g) ∧
      wordsOf later = back.flatten := by
  have hgroups : ∀ g ∈ sentenceGroups (words (given text)), AllWords g :=
    fun g hg => (words_of_mem_sentenceGroups hg).2
  rw [sentences_eq] at h
  obtain ⟨front, rest, hsplit, rfl, hrest⟩ := List.map_eq_append_iff.mp h
  obtain ⟨g, back, rfl, rfl, rfl⟩ := List.map_eq_cons_iff.mp hrest
  rw [hsplit] at hgroups
  obtain ⟨hfront, hback⟩ := List.forall_mem_append.mp hgroups
  exact ⟨front, g, back, hsplit, wordsOf_sentences hfront, rfl,
    wordsOf_sentences (List.forall_mem_cons.mp hback).2⟩

theorem upTo_of_groups {text : Option String} {lines : List String} {g : List (List Char)}
    {front back : List (List (List Char))}
    (h : sentenceGroups (words (given text)) = front ++ g :: back)
    (hlines : wordsOf lines = front.flatten) : UpTo text lines (String.ofList (unwords g)) := by
  refine ⟨front.map fun g => String.ofList (unwords g),
    back.map fun g => String.ofList (unwords g), ?_, ?_⟩
  · rw [sentences_eq, h, List.map_append, List.map_cons]
  · rw [hlines, wordsOf_sentences]
    intro g hg
    exact (words_of_mem_sentenceGroups (h ▸ List.mem_append_left _ hg)).2

theorem exists_lead {us g : List (List Char)} (hu : AllWords us) (hg : g ≠ []) :
    ∃ lead, unwords (us ++ g) = lead ++ unwords g ∧ words lead = us := by
  by_cases hne : us = []
  · subst us
    exact ⟨[], rfl, rfl⟩
  · refine ⟨unwords us ++ [' '], ?_, ?_⟩
    · rw [unwords_append hne hg, List.append_assoc]
      rfl
    · have hspace : ∀ c ∈ [' '], isBlank c = true := List.forall_mem_singleton.mpr rfl
      rw [words_append_blank hspace, words_unwords hu]

theorem exists_trail {g vs : List (List Char)} (hg : g ≠ []) (hv : AllWords vs) :
    ∃ trail, unwords (g ++ vs) = unwords g ++ trail ∧ words trail = vs := by
  by_cases hne : vs = []
  · subst vs
    exact ⟨[], by simp, rfl⟩
  · refine ⟨' ' :: unwords vs, unwords_append hg hne, ?_⟩
    rw [words_cons rfl, words_unwords hv]

theorem words_ne_nil_of_mem_segment {text : Option String} {line : String}
    (h : line ∈ segment text limit) : words line.toList ≠ [] := by
  obtain ⟨us, hne, hu, -, rfl⟩ := exists_of_mem_segment h
  rwa [String.toList_ofList, words_unwords hu]

theorem forced_of_segment {text : Option String} {before after : List String} {a : String}
    (h : segment text limit = before ++ a :: after) (hafter : after ≠ []) :
    ∃ us, a = String.ofList (unwords us) ∧
      Forced limit (sentenceGroups (words (given text))) us (wordsOf after) := by
  have hruled := segmentChars_ruled limit (given text)
  obtain ⟨front, rest, hsplit, rfl, hrest⟩ := List.map_eq_append_iff.mp h
  obtain ⟨cs, back, rfl, rfl, rfl⟩ := List.map_eq_cons_iff.mp hrest
  rw [hsplit] at hruled
  obtain ⟨us, left, rfl, hleft, hlayout, hend⟩ :=
    hruled.exists_break fun _ => isWord_of_mem_words
  have hne : left ≠ [] := mt hlayout.lines_eq_nil_iff.mpr (by simpa using hafter)
  refine ⟨us, rfl, ?_⟩
  rw [wordsOf_ofList, hlayout.flatMap_words hleft]
  exact hend.resolve_left hne

/-- Every line break is forced: the next sentence has no room on the line above, or, inside a
sentence, the next word. A sentence within the limit is inside one line. -/
theorem breaks_forced (text : Option String) (limit : Int) :
    (∀ before a b after, segment text limit = before ++ a :: b :: after →
      (∀ u, UpTo text (before ++ [a]) u → limit < a.length + 1 + u.length) ∧
      ((∀ u, ¬ UpTo text (before ++ [a]) u) →
        ∃ w rest, words b.toList = w :: rest ∧ limit < a.length + 1 + w.length)) ∧
    ∀ earlier u later, sentences text = earlier ++ u :: later → (u.length : Int) ≤ limit →
      ∃ before line after lead trail, segment text limit = before ++ line :: after ∧
        line.toList = lead ++ u.toList ++ trail ∧
        wordsOf before ++ words lead = wordsOf earlier ∧
        words trail ++ wordsOf after = wordsOf later := by
  have hruled := segmentChars_ruled limit (given text)
  have hall : AllWords (words (given text)) := fun _ => isWord_of_mem_words
  have hgs := nil_notMem_sentenceGroups (words (given text))
  constructor
  · intro before a b after hlines
    have hgroups := flatten_sentenceGroups (words (given text))
    obtain ⟨us, rfl, hforced⟩ := forced_of_segment hlines (List.cons_ne_nil b after)
    have htotal : wordsOf (before ++ [String.ofList (unwords us)]) ++ wordsOf (b :: after) =
        words (given text) := by
      rw [← flatMap_words_segment text limit, hlines]
      simp [wordsOf]
    rw [String.length_ofList]
    constructor
    · rintro u ⟨earlier, later, hsentences, hshown⟩
      obtain ⟨front, g, back, hsplit, hearlier, rfl, -⟩ := exists_of_sentences_eq hsentences
      have hsuffix : g :: back <:+ sentenceGroups (words (given text)) :=
        hsplit ▸ List.suffix_append front (g :: back)
      rw [← hgroups, hsplit, List.flatten_append, hshown, hearlier] at htotal
      rw [List.append_cancel_left htotal] at hforced
      rw [String.length_ofList]
      exact hforced.full_of_sentence hgs hsuffix
    · intro hnone
      have hinside : ∀ g later, g :: later <:+ sentenceGroups (words (given text)) →
          wordsOf (b :: after) ≠ (g :: later).flatten := by
        rintro g later ⟨front, hsplit⟩ hleft
        refine hnone _ (upTo_of_groups hsplit.symm ?_)
        rw [← hgroups, ← hsplit, List.flatten_append, hleft] at htotal
        exact List.append_cancel_right htotal
      obtain ⟨w, rest, hfirst, hfull⟩ := hforced.full_of_word hinside
      have hb : b ∈ segment text limit := by simp [hlines]
      obtain ⟨v, vs, hwords⟩ := List.exists_cons_of_ne_nil (words_ne_nil_of_mem_segment hb)
      rw [wordsOf, List.flatMap_cons, hwords, List.cons_append, List.cons_eq_cons] at hfirst
      exact ⟨w, vs, hfirst.1 ▸ hwords, hfull⟩
  · intro earlier u later hsentences hshort
    obtain ⟨front, g, back, hgroups, hearlier, rfl, hlater⟩ := exists_of_sentences_eq hsentences
    rw [String.length_ofList] at hshort
    have hsuffix : g :: back <:+ sentenceGroups (words (given text)) :=
      hgroups ▸ List.suffix_append front (g :: back)
    have hg := ne_nil_of_suffix hgs hsuffix
    have hsplit : words (given text) = front.flatten ++ (g ++ back.flatten) := by
      rw [← flatten_sentenceGroups (words (given text)), hgroups, List.flatten_append,
        List.flatten_cons]
    obtain ⟨before, after, us, vs, hlines, hline, hbefore, hafter⟩ :=
      hruled.whole hall hgs hsuffix hshort hsplit
    obtain ⟨hug, hv⟩ := allWords_append.mp hline
    obtain ⟨trail, htrail, hvs⟩ := exists_trail (List.append_ne_nil_of_right_ne_nil us hg) hv
    obtain ⟨lead, hlead, hus⟩ := exists_lead (allWords_append.mp hug).1 hg
    refine ⟨before.map String.ofList, String.ofList (unwords (us ++ g ++ vs)),
      after.map String.ofList, lead, trail, ?_, ?_, ?_, ?_⟩
    · rw [segment, hlines, List.map_append, List.map_cons]
    · rw [String.toList_ofList, String.toList_ofList, htrail, hlead]
    · rw [wordsOf_ofList, hus, hbefore, hearlier]
    · rw [wordsOf_ofList, hvs, hafter, hlater]

theorem UpTo.exists_take {text : Option String} {lines : List String} {u : String}
    (h : UpTo text lines u) :
    ∃ n < (sentences text).length, wordsOf lines = wordsOf ((sentences text).take n) := by
  obtain ⟨earlier, later, hsentences, hlines⟩ := h
  refine ⟨earlier.length, by simp [hsentences], ?_⟩
  rw [hlines, hsentences, List.take_left]

/-- What is cut into a stone. -/
def epitaph : String :=
  "Here lies a bard who never learned to stop. He rhymed. We wept. Then we dug!"

/-- The end of the long sentence is on a line with the short one. The break before it is inside a
sentence, the break behind it is not. -/
theorem breaks_of_epitaph :
    segment (some epitaph) 20 =
      ["Here lies a bard who", "never learned to", "stop. He rhymed.", "We wept.",
        "Then we dug!"] ∧
    (∃ w rest, words "stop. He rhymed.".toList = w :: rest ∧
      (20 : Int) < "never learned to".length + 1 + w.length) ∧
    (20 : Int) < "stop. He rhymed.".length + 1 + "We wept.".length ∧
    ∃ before line after lead trail, segment (some epitaph) 20 = before ++ line :: after ∧
      line.toList = lead ++ "He rhymed.".toList ++ trail ∧
      wordsOf before ++ words lead = wordsOf ["Here lies a bard who never learned to stop."] ∧
      words trail ++ wordsOf after = wordsOf ["We wept.", "Then we dug!"] := by
  obtain ⟨hbreaks, hwhole⟩ := breaks_forced (some epitaph) 20
  have hlines : segment (some epitaph) 20 =
      ["Here lies a bard who", "never learned to", "stop. He rhymed.", "We wept.",
        "Then we dug!"] := by
    decide +kernel
  have hinside := (hbreaks ["Here lies a bard who"] _ _ _ hlines).2
  have hbetween := (hbreaks ["Here lies a bard who", "never learned to"] _ _ _ hlines).1
  have hnone : ∀ u, ¬ UpTo (some epitaph) ["Here lies a bard who", "never learned to"] u := by
    intro u hu
    have hfar : ∀ n < (sentences (some epitaph)).length,
        wordsOf ["Here lies a bard who", "never learned to"] ≠
          wordsOf ((sentences (some epitaph)).take n) := by
      decide +kernel
    obtain ⟨n, hn, htake⟩ := hu.exists_take
    exact hfar n hn htake
  have hnext : UpTo (some epitaph)
      ["Here lies a bard who", "never learned to", "stop. He rhymed."] "We wept." :=
    ⟨["Here lies a bard who never learned to stop.", "He rhymed."], ["Then we dug!"],
      by decide +kernel, by decide +kernel⟩
  exact ⟨hlines, hinside hnone, hbetween "We wept." hnext,
    hwhole ["Here lies a bard who never learned to stop."] "He rhymed." ["We wept.", "Then we dug!"]
      (by decide +kernel) (by decide +kernel)⟩

end Banter.Text
