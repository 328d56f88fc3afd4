import Banter.Proofs.Text.Word
import Banter.Text.Sentence
import Mathlib.Data.List.SplitBy

/-! The sentences of a text are its words in groups: a word that ends in a mark ends its group. -/
namespace Banter.Text

def closes (s : List Char) : Bool :=
  s.getLast?.any isSentenceMark

/-- Of these words only the last can end in a mark. -/
def Run (ws : List (List Char)) : Prop :=
  ws.IsChain fun w _ => closes w = false

theorem sentenceGroups_cons_cons (w v : List Char) (ws : List (List Char)) :
    sentenceGroups (w :: v :: ws) =
      if closes w then [w] :: sentenceGroups (v :: ws)
      else match sentenceGroups (v :: ws) with
        | [] => [[w]]
        | group :: groups => (w :: group) :: groups := rfl

/-- An element that goes on to the next one goes to the front of the next one's group. -/
theorem splitBy_cons_cons {α : Type} {r : α → α → Bool} {a b : α} (h : r a b = true) (l : List α) :
    (a :: b :: l).splitBy r = ((b :: l).splitBy r).modifyHead (a :: ·) := by
  obtain ⟨g, gs, hsplit⟩ :=
    List.exists_cons_of_ne_nil (List.splitBy_ne_nil.mpr (List.cons_ne_nil b l) : _ ≠ [])
  obtain ⟨hflat, hfilled, hchains, hbreaks⟩ := List.splitBy_eq_iff.mp hsplit
  obtain ⟨hchain, hlater⟩ := List.forall_mem_cons.mp hchains
  obtain ⟨hbreak, hrest⟩ := List.isChain_cons.mp hbreaks
  cases g with
  | nil => exact absurd List.mem_cons_self hfilled
  | cons c g =>
    -- The first group begins with `b`, so `a` may stand in front of it.
    obtain ⟨rfl, -⟩ := List.cons_eq_cons.mp hflat
    rw [hsplit, List.modifyHead_cons, List.splitBy_eq_iff]
    refine ⟨by rw [hflat]; rfl, ?_, List.forall_mem_cons.mpr ⟨?_, hlater⟩,
      List.isChain_cons.mpr ⟨fun next hnext => ?_, hrest⟩⟩
    · intro hnil
      obtain hnil | hnil := List.mem_cons.mp hnil
      · cases hnil
      · exact hfilled (List.mem_cons_of_mem _ hnil)
    · exact List.isChain_cons_cons.mpr ⟨h, hchain⟩
    · obtain ⟨hne, hnext, hlast⟩ := hbreak next hnext
      exact ⟨List.cons_ne_nil _ _, hnext, by rwa [List.getLast_cons hne]⟩

theorem sentenceGroups_eq_splitBy (ws : List (List Char)) :
    sentenceGroups ws = ws.splitBy fun w _ => !closes w := by
  induction ws with
  | nil => rfl
  | cons w ws ih =>
    cases ws with
    | nil => rfl
    | cons v ws =>
      rw [sentenceGroups_cons_cons, ih]
      split_ifs with hw
      · have hends : ∀ u ∈ [w].getLast?, (!closes u) = false := by
          intro u hu
          obtain rfl : w = u := Option.some.inj hu
          rw [hw]
          rfl
        exact (List.splitBy_append_cons (r := fun w _ => !closes w) ws hends).symm
      · have hgoes : (!closes w) = true := by rw [Bool.eq_false_iff.mpr hw]; rfl
        obtain ⟨g, gs, hsplit⟩ := List.exists_cons_of_ne_nil
          (List.splitBy_ne_nil.mpr (List.cons_ne_nil v ws) :
            (v :: ws).splitBy (fun w _ => !closes w) ≠ [])
        rw [splitBy_cons_cons (r := fun w _ => !closes w) hgoes, hsplit]
        rfl

theorem flatten_sentenceGroups (ws : List (List Char)) : (sentenceGroups ws).flatten = ws := by
  rw [sentenceGroups_eq_splitBy, List.flatten_splitBy]

theorem ne_nil_of_mem_sentenceGroups {g : List (List Char)} {ws : List (List Char)}
    (h : g ∈ sentenceGroups ws) : g ≠ [] := by
  rw [sentenceGroups_eq_splitBy] at h
  exact List.ne_nil_of_mem_splitBy h

/-- A run is the first group, if nothing follows it or its last word ends in a mark. -/
theorem sentenceGroups_append {us ws : List (List Char)} (h : Run us) (hne : us ≠ [])
    (hend : ws = [] ∨ ∃ w ∈ us.getLast?, closes w = true) :
    sentenceGroups (us ++ ws) = us :: sentenceGroups ws := by
  have hgoes : us.IsChain fun w _ => (!closes w) = true := h.imp fun w _ hw => by rw [hw]; rfl
  have hends : ∀ w ∈ us.getLast?, ∀ v ∈ ws.head?, (!closes w) = false := by
    intro w hw v hv
    obtain rfl | ⟨u, hu, hclosed⟩ := hend
    · cases hv
    · obtain rfl : w = u := Option.some.inj (hw.symm.trans hu)
      rw [hclosed]
      rfl
  rw [sentenceGroups_eq_splitBy, sentenceGroups_eq_splitBy, List.splitBy_append hends,
    List.splitBy_of_isChain hne hgoes]
  rfl

/-- No white space stands right behind a mark. -/
def Unbroken (s : List Char) : Prop :=
  s.IsChain fun c d => isSentenceMark c = true → isBlank d = false

theorem closes_singleton (c : Char) : closes [c] = isSentenceMark c := rfl

theorem closes_cons {w : List Char} (c : Char) (hw : w ≠ []) : closes (c :: w) = closes w := by
  rw [closes, List.getLast?_cons_of_ne_nil hw]
  rfl

theorem closes_append_singleton (u : List Char) (c : Char) :
    closes (u ++ [c]) = isSentenceMark c := by
  simp [closes]

theorem run_words {s : List Char} (h : Unbroken s) : Run (words s) := by
  induction s using words.induct with
  | case1 => exact List.isChain_nil
  | case2 c hc =>
    rw [words, if_pos hc]
    exact List.isChain_nil
  | case3 c hc =>
    rw [words, if_neg hc]
    exact List.isChain_singleton _
  | case4 c d rest hc ih =>
    rw [words, if_pos hc]
    exact ih (List.isChain_cons_cons.mp h).2
  | case5 c d rest hc hd ih =>
    obtain ⟨hmark, hrest⟩ := List.isChain_cons_cons.mp h
    have hopen : closes [c] = false := by
      rw [closes_singleton, Bool.eq_false_iff]
      intro hm
      rw [hmark hm] at hd
      cases hd
    rw [words, if_neg hc, if_pos hd]
    exact List.isChain_cons.mpr ⟨fun _ _ => hopen, ih hrest⟩
  | case6 c d rest hc hd ih =>
    have hwords : ∀ w ∈ words (d :: rest), w ≠ [] := fun w hw => (isWord_of_mem_words hw).1
    have hrun := ih (List.isChain_cons_cons.mp h).2
    rw [words, if_neg hc, if_neg hd]
    generalize words (d :: rest) = ws at hwords hrun
    cases ws with
    | nil => exact List.isChain_singleton _
    | cons w ws =>
      obtain ⟨hopen, hrest⟩ := List.isChain_cons.mp hrun
      refine List.isChain_cons.mpr ⟨fun v hv => ?_, hrest⟩
      rw [closes_cons c (hwords w List.mem_cons_self)]
      exact hopen v hv

theorem exists_last_word {s : List Char} (h : closes s = true) :
    ∃ w ∈ (words s).getLast?, closes w = true := by
  obtain ⟨c, hc, hmark⟩ : ∃ c, s.getLast? = some c ∧ isSentenceMark c = true :=
    (Option.any_eq_true _ _).mp h
  obtain ⟨u, rfl⟩ := List.getLast?_eq_some_iff.mp hc
  have hseen : isBlank c = false := by
    simp only [isSentenceMark, Bool.or_eq_true, beq_iff_eq] at hmark
    obtain (rfl | rfl) | rfl := hmark <;> rfl
  have hflat : (words (u ++ [c])).flatten.getLast? = some c := by
    rw [flatten_words, List.filter_append]
    simp [hseen]
  cases hlast : (words (u ++ [c])).getLast? with
  | none =>
    rw [List.getLast?_eq_none_iff.mp hlast] at hflat
    cases hflat
  | some w =>
    obtain ⟨ws, hws⟩ := List.getLast?_eq_some_iff.mp hlast
    have hw : w ≠ [] := (isWord_of_mem_words (hws ▸ by simp : w ∈ words (u ++ [c]))).1
    rw [hws, List.flatten_append, List.flatten_singleton,
      List.getLast?_append_of_ne_nil _ hw] at hflat
    exact ⟨w, rfl, by rw [closes, hflat]; exact hmark⟩

/-- Where a scan stands behind a text. -/
def behind (u : List Char) : Cursor :=
  if closes u then .marked else .running

theorem pieces_behind_cons (u : List Char) (c : Char) (s : List Char) :
    pieces (behind u) (c :: s) =
      if closes u && isBlank c then [] :: pieces .between s
      else extendWord c (pieces (behind (u ++ [c])) s) := by
  unfold behind
  rw [closes_append_singleton]
  cases closes u with
  | true => rfl
  | false => rfl

theorem pieces_between_cons (c : Char) (s : List Char) :
    pieces .between (c :: s) =
      if isBlank c then pieces .between s else extendWord c (pieces (behind [c]) s) := rfl

theorem pieces_ne_nil (cursor : Cursor) (s : List Char) : pieces cursor s ≠ [] := by
  have hextended : ∀ c ps, extendWord c ps ≠ [] := by
    intro c ps
    cases ps <;> exact List.cons_ne_nil _ _
  induction s generalizing cursor with
  | nil => exact List.cons_ne_nil _ _
  | cons c s ih =>
    cases cursor with
    | running => exact hextended _ _
    | marked =>
      unfold pieces
      split_ifs
      · exact List.cons_ne_nil _ _
      · exact hextended _ _
    | between =>
      unfold pieces
      split_ifs
      · exact ih _
      · exact hextended _ _

def wordGroups (ps : List (List Char)) : List (List (List Char)) :=
  (ps.map words).filter fun ws => !ws.isEmpty

theorem wordGroups_cons {p : List Char} (hp : words p ≠ []) (ps : List (List Char)) :
    wordGroups (p :: ps) = words p :: wordGroups ps := by
  simp [wordGroups, hp]

/-- What was read in front of a text goes to its first piece. -/
def attach (u : List Char) (ps : List (List Char)) : List (List Char) :=
  ps.modifyHead (u ++ ·)

theorem extendWord_eq_attach (c : Char) {ps : List (List Char)} (hps : ps ≠ []) :
    extendWord c ps = attach [c] ps := by
  obtain ⟨p, ps, rfl⟩ := List.exists_cons_of_ne_nil hps
  rfl

theorem attach_attach (u v : List Char) (ps : List (List Char)) :
    attach u (attach v ps) = attach (u ++ v) ps := by
  cases ps with
  | nil => rfl
  | cons p ps => simp [attach]

theorem attach_nil (ps : List (List Char)) : attach [] ps = ps := by
  cases ps <;> rfl

theorem unbroken_append_singleton {u : List Char} {c : Char} (hu : Unbroken u)
    (hc : ¬ (closes u && isBlank c) = true) : Unbroken (u ++ [c]) := by
  refine List.isChain_append.mpr ⟨hu, List.isChain_singleton c, fun x hx y hy hmark => ?_⟩
  obtain rfl : c = y := by simpa using hy
  have hclosed : closes u = true := by simp [closes, Option.mem_def.mp hx, hmark]
  simpa [hclosed] using hc

/-- What a scan cuts are the groups of words, also where it goes on in the middle of a piece. -/
theorem wordGroups_pieces (s : List Char) :
    (∀ u, Unbroken u →
        wordGroups (attach u (pieces (behind u) s)) = sentenceGroups (words (u ++ s))) ∧
      wordGroups (pieces .between s) = sentenceGroups (words s) := by
  induction s with
  | nil =>
    refine ⟨fun u hu => ?_, rfl⟩
    have hlast : attach u (pieces (behind u) []) = [u] := by simp [attach, pieces]
    rw [hlast, List.append_nil]
    by_cases hnone : words u = []
    · rw [hnone, wordGroups, List.map_singleton, hnone]
      rfl
    · have hgroup := sentenceGroups_append (run_words hu) hnone (.inl rfl)
      rw [List.append_nil] at hgroup
      rw [hgroup, wordGroups_cons hnone]
      rfl
  | cons c s ih =>
    obtain ⟨hinside, hbetween⟩ := ih
    refine ⟨fun u hu => ?_, ?_⟩
    · rw [pieces_behind_cons]
      split_ifs with hcut
      · rw [Bool.and_eq_true] at hcut
        obtain ⟨w, hw, hclosed⟩ := exists_last_word hcut.1
        have hne : words u ≠ [] := List.ne_nil_of_mem (List.mem_of_mem_getLast? hw)
        have hfirst : attach u ([] :: pieces .between s) = u :: pieces .between s := by
          simp [attach]
        rw [hfirst, wordGroups_cons hne, hbetween, words_append_cons hcut.2,
          sentenceGroups_append (run_words hu) hne (.inr ⟨w, hw, hclosed⟩)]
      · rw [extendWord_eq_attach c (pieces_ne_nil _ _), attach_attach,
          hinside (u ++ [c]) (unbroken_append_singleton hu hcut), List.append_assoc,
          List.singleton_append]
    · rw [pieces_between_cons]
      split_ifs with hc
      · rw [hbetween, words_cons hc]
      · rw [extendWord_eq_attach c (pieces_ne_nil _ _), hinside [c] (List.isChain_singleton c)]
        rfl

theorem sentencesOf_eq (s : List Char) :
    sentencesOf s = (sentenceGroups (words s)).map unwords := by
  have hkept : ∀ p : List Char, (!p.all isBlank) = !(words p).isEmpty := by
    intro p
    rw [Bool.eq_iff_iff, Bool.not_eq_true', Bool.not_eq_true', ← Bool.not_eq_true,
      ← Bool.not_eq_true, List.all_eq_true, List.isEmpty_iff, words_eq_nil_iff]
  have hgroups : wordGroups (pieces .running (trim s)) = sentenceGroups (words s) := by
    have hscan := (wordGroups_pieces (trim s)).1 [] List.isChain_nil
    rwa [attach_nil, List.nil_append, words_trim] at hscan
  rw [← hgroups, wordGroups, List.filter_map, List.map_map]
  unfold sentencesOf
  simp only [hkept]
  rfl

end Banter.Text
