import Banter.Emote
import Mathlib.Data.List.Forall2
import Mathlib.Data.List.Infix

/-!
A line is cut into runs of word characters. What it calls for is told by these runs alone: the first
pattern counts that has a keyword which one of them spells.
-/
namespace Banter.Emote

open Text

/-- A piece of a text that is all word characters and does not go on at either end. -/
structure IsRun (run s : List Char) : Prop where
  nonempty : run ≠ []
  wordChars : ∀ c ∈ run, isWordChar c = true
  maximal : ∃ before after, s = before ++ run ++ after ∧
    (∀ c ∈ before.getLast?, isWordChar c = false) ∧ ∀ c ∈ after.head?, isWordChar c = false

/-- The lowercase of the character is the letter. The long s is an s too, and the dotted capital i and
the dotless small one are both an i. -/
def SameLetter (letter c : Char) : Prop :=
  shiftCase lowercaseRuns c = letter ∨ (letter = 's' ∧ c.toNat = 0x17f) ∨
    (letter = 'i' ∧ (c.toNat = 0x130 ∨ c.toNat = 0x131))

def Spelled (word : String) (run : List Char) : Prop :=
  List.Forall₂ SameLetter word.toList run

/-- One of the runs of a text spells a keyword. -/
def Calls (p : Pattern) (s : List Char) : Prop :=
  ∃ word ∈ p.keywords, ∃ run, IsRun run s ∧ Spelled word run

theorem append_cons_eq_append {c : Char} {s t before run after : List Char} (hnew : c ∉ run)
    (h : s ++ c :: t = before ++ run ++ after) :
    (∃ rest, s = before ++ run ++ rest ∧ after = rest ++ c :: t) ∨
      ∃ middle, before = s ++ c :: middle ∧ t = middle ++ run ++ after := by
  rcases List.append_eq_append_iff.mp h with ⟨rest, hfront, hback⟩ | hafter
  · cases rest with
    | nil =>
      rw [List.append_nil] at hfront
      exact Or.inl ⟨[], by rw [hfront, List.append_nil], hback.symm⟩
    | cons e rest =>
      obtain ⟨rfl, rfl⟩ := List.cons.inj hback
      rcases List.append_eq_append_iff.mp hfront with ⟨front, -, rfl⟩ | ⟨middle, rfl, hmiddle⟩
      · exact absurd (List.mem_append_right front List.mem_cons_self) hnew
      · cases middle with
        | nil =>
          rw [List.nil_append] at hmiddle
          exact absurd (hmiddle ▸ List.mem_cons_self) hnew
        | cons e middle =>
          obtain ⟨rfl, rfl⟩ := List.cons.inj hmiddle
          exact Or.inr ⟨middle, rfl, rfl⟩
  · exact Or.inl hafter

theorem forall_getLast?_append_cons {c : Char} (hc : isWordChar c = false) (s t : List Char) :
    (∀ d ∈ (s ++ c :: t).getLast?, isWordChar d = false) ↔
      ∀ d ∈ t.getLast?, isWordChar d = false := by
  rw [List.getLast?_append, List.getLast?_cons]
  cases t.getLast? <;> simp [hc]

theorem forall_head?_append_cons {c : Char} (hc : isWordChar c = false) (s t : List Char) :
    (∀ d ∈ (s ++ c :: t).head?, isWordChar d = false) ↔ ∀ d ∈ s.head?, isWordChar d = false := by
  cases s <;> simp [hc]

/-- What is no word character keeps the runs on its two sides apart. -/
theorem isRun_append_cons {c : Char} (hc : isWordChar c = false) {run s t : List Char} :
    IsRun run (s ++ c :: t) ↔ IsRun run s ∨ IsRun run t := by
  constructor
  · rintro ⟨hnonempty, hrun, before, after, hcut, hbefore, hafter⟩
    have hnew : c ∉ run := fun hin => by
      rw [hrun c hin] at hc
      cases hc
    rcases append_cons_eq_append hnew hcut with ⟨rest, hs, rfl⟩ | ⟨middle, rfl, ht⟩
    · have hrest := (forall_head?_append_cons hc rest t).mp hafter
      exact Or.inl ⟨hnonempty, hrun, before, rest, hs, hbefore, hrest⟩
    · have hmiddle := (forall_getLast?_append_cons hc s middle).mp hbefore
      exact Or.inr ⟨hnonempty, hrun, middle, after, ht, hmiddle, hafter⟩
  · rintro (⟨hnonempty, hrun, before, after, rfl, hbefore, hafter⟩ |
      ⟨hnonempty, hrun, before, after, rfl, hbefore, hafter⟩)
    · have hrest := (forall_head?_append_cons hc after t).mpr hafter
      exact ⟨hnonempty, hrun, before, after ++ c :: t, by simp, hbefore, hrest⟩
    · have hfront := (forall_getLast?_append_cons hc s before).mpr hbefore
      exact ⟨hnonempty, hrun, s ++ c :: before, after, by simp, hfront, hafter⟩

def IsLetter (c : Char) : Prop :=
  0x61 ≤ c.toNat ∧ c.toNat ≤ 0x7a

instance (c : Char) : Decidable (IsLetter c) :=
  inferInstanceAs (Decidable (_ ∧ _))

theorem IsLetter.exists_toNat {c : Char} (h : IsLetter c) : ∃ k < 26, c.toNat = 0x61 + k :=
  ⟨c.toNat - 0x61, by have := h.1; have := h.2; omega⟩

theorem isWordChar_of_inSpans {c : Char} (h : inSpans c.toNat alphanumericSpans = true) :
    isWordChar c = true := by
  rw [isWordChar, isAlphanumeric, h, Bool.or_true]

theorem shiftCase_cases (runs : List CaseRun) (c : Char) :
    shiftCase runs c = c ∨
      ∃ run ∈ runs, run.covers c.toNat = true ∧ shiftCase runs c = run.image c := by
  unfold shiftCase
  cases hfound : runs.find? (·.covers c.toNat) with
  | none => exact Or.inl rfl
  | some run =>
    have hcovers := List.find?_some hfound
    exact Or.inr ⟨run, List.mem_of_find?_eq_some hfound, hcovers, rfl⟩

/-- The three characters that spell a letter though their lowercase is none. -/
theorem not_isLetter_shiftCase {c : Char}
    (h : c.toNat = 0x17f ∨ c.toNat = 0x130 ∨ c.toNat = 0x131) :
    ¬ IsLetter (shiftCase lowercaseRuns c) := by
  rw [← Char.ofNat_toNat c]
  rcases h with h | h | h <;> rw [h] <;> decide +kernel

theorem letters_alphanumeric : ∀ k < 26, inSpans (0x61 + k) alphanumericSpans = true := by
  decide +kernel

/-- What is lowercased to a letter from a to z is a letter, though others of its run need not be. -/
theorem shifted_alphanumeric : ∀ run ∈ lowercaseRuns, ∀ k : Nat, k < 26 →
    run.covers (0x61 + (k : Int) - run.shift).toNat = true →
      inSpans (0x61 + (k : Int) - run.shift).toNat alphanumericSpans = true := by
  decide +kernel

theorem toNat_of_image_eq {run : CaseRun} {c letter : Char} (h : run.image c = letter)
    (hletter : IsLetter letter) : (c.toNat : Int) + run.shift = letter.toNat := by
  have hpos := hletter.1
  have hvalue := congrArg Char.toNat h
  rw [CaseRun.image, Char.ofNat] at hvalue
  by_cases hvalid : ((c.toNat : Int) + run.shift).toNat.isValidChar
  · rw [dif_pos hvalid] at hvalue
    change ((c.toNat : Int) + run.shift).toNat = letter.toNat at hvalue
    omega
  · rw [dif_neg hvalid] at hvalue
    change 0 = letter.toNat at hvalue
    omega

theorem SameLetter.isWordChar {letter c : Char} (h : SameLetter letter c) (hletter : IsLetter letter) :
    isWordChar c = true := by
  refine isWordChar_of_inSpans ?_
  obtain ⟨k, hk, hvalue⟩ := hletter.exists_toNat
  rcases h with hshift | ⟨-, hc⟩ | ⟨-, hc | hc⟩
  · rcases shiftCase_cases lowercaseRuns c with hsame | ⟨run, hrun, hcovers, himage⟩
    · rw [hsame] at hshift
      rw [hshift, hvalue]
      exact letters_alphanumeric k hk
    · have hmoved := toNat_of_image_eq (himage.symm.trans hshift) hletter
      have hc : c.toNat = (0x61 + (k : Int) - run.shift).toNat := by omega
      rw [hc] at hcovers ⊢
      exact shifted_alphanumeric run hrun k hk hcovers
  all_goals
    rw [hc]
    decide +kernel

theorem SameLetter.unique {letter letter' c : Char} (h : SameLetter letter c)
    (h' : SameLetter letter' c) (hletter : IsLetter letter) (hletter' : IsLetter letter') :
    letter = letter' := by
  rcases h with rfl | ⟨rfl, hc⟩ | ⟨rfl, hc⟩ <;> rcases h' with rfl | ⟨rfl, hc'⟩ | ⟨rfl, hc'⟩
  case inl.inl => rfl
  case inl.inr.inl => exact absurd hletter (not_isLetter_shiftCase (Or.inl hc'))
  case inl.inr.inr => exact absurd hletter (not_isLetter_shiftCase (Or.inr hc'))
  case inr.inl.inl => exact absurd hletter' (not_isLetter_shiftCase (Or.inl hc))
  case inr.inl.inr.inl => rfl
  case inr.inl.inr.inr => omega
  case inr.inr.inl => exact absurd hletter' (not_isLetter_shiftCase (Or.inr hc))
  case inr.inr.inr.inl => omega
  case inr.inr.inr.inr => rfl

theorem spells_iff {letter c : Char} (hletter : IsLetter letter) :
    spells letter c = true ↔ SameLetter letter c := by
  by_cases hdot : c.toNat = 0x130
  · have hshift : shiftCase lowercaseRuns c ≠ letter := fun h =>
      not_isLetter_shiftCase (Or.inr (Or.inl hdot)) (h ▸ hletter)
    have hlower : (lowerChar c).head? = some 'i' := by simp [lowerChar, hdot]
    have hsame : 'i' = letter ↔ letter = 'i' := eq_comm
    simp [spells, SameLetter, hlower, hdot, hshift, hsame]
  · have hlower : (lowerChar c).head? = some (shiftCase lowercaseRuns c) := by simp [lowerChar, hdot]
    simp [spells, SameLetter, hlower, hdot, or_assoc]

theorem startsWithWordChar_eq_false_iff {s : List Char} :
    startsWithWordChar s = false ↔ ∀ c ∈ s.head?, isWordChar c = false := by
  cases s <;> simp [startsWithWordChar]

/-- What is left behind a keyword is what stands behind a run of characters that spells it. -/
theorem afterKeyword_eq_some_iff {word s rest : List Char} (hword : ∀ letter ∈ word, IsLetter letter) :
    afterKeyword word s = some rest ↔ ∃ run, s = run ++ rest ∧ List.Forall₂ SameLetter word run := by
  induction word generalizing s with
  | nil => simp [afterKeyword, eq_comm]
  | cons letter word ih =>
    obtain ⟨hletter, hrest⟩ := List.forall_mem_cons.mp hword
    constructor
    · intro h
      cases s with
      | nil => cases h
      | cons c s =>
        rw [afterKeyword] at h
        split_ifs at h with hspells
        obtain ⟨run, rfl, hrun⟩ := (ih hrest).mp h
        exact ⟨c :: run, rfl, .cons ((spells_iff hletter).mp hspells) hrun⟩
    · rintro ⟨run, rfl, hrun⟩
      cases hrun with
      | cons hsame hrun =>
        rw [List.cons_append, afterKeyword, if_pos ((spells_iff hletter).mpr hsame)]
        exact (ih hrest).mpr ⟨_, rfl, hrun⟩

theorem standsHere_iff {keywords : List (List Char)} {s : List Char}
    (hkeywords : ∀ word ∈ keywords, ∀ letter ∈ word, IsLetter letter) :
    standsHere keywords s = true ↔ ∃ word ∈ keywords, ∃ run after, s = run ++ after ∧
      List.Forall₂ SameLetter word run ∧ ∀ c ∈ after.head?, isWordChar c = false := by
  rw [standsHere, List.any_eq_true]
  refine exists_congr fun word => and_congr_right fun hword => ?_
  simp only [Option.any_eq_true, afterKeyword_eq_some_iff (hkeywords word hword), Bool.not_eq_true',
    startsWithWordChar_eq_false_iff]
  constructor
  · rintro ⟨after, ⟨run, hs, hrun⟩, hafter⟩
    exact ⟨run, after, hs, hrun, hafter⟩
  · rintro ⟨run, after, hs, hrun, hafter⟩
    exact ⟨after, ⟨run, hs, hrun⟩, hafter⟩

theorem elim_getLast?_cons (c : Char) (before : List Char) (inWord : Bool) :
    (c :: before).getLast?.elim inWord isWordChar =
      before.getLast?.elim (isWordChar c) isWordChar := by
  rw [List.getLast?_cons]
  cases before.getLast? <;> rfl

theorem occurs_iff {keywords : List (List Char)} {inWord : Bool} {s : List Char} :
    occurs keywords inWord s = true ↔ ∃ before rest, s = before ++ rest ∧ rest ≠ [] ∧
      before.getLast?.elim inWord isWordChar = false ∧ standsHere keywords rest = true := by
  induction s generalizing inWord with
  | nil => simp [occurs]
  | cons c s ih =>
    rw [occurs, Bool.or_eq_true, Bool.and_eq_true, Bool.not_eq_true', ih]
    constructor
    · rintro (⟨hstart, hhere⟩ | ⟨before, rest, rfl, hrest, hlast, hhere⟩)
      · exact ⟨[], c :: s, rfl, List.cons_ne_nil c s, hstart, hhere⟩
      · rw [← elim_getLast?_cons c before inWord] at hlast
        exact ⟨c :: before, rest, rfl, hrest, hlast, hhere⟩
    · rintro ⟨before, rest, hs, hrest, hlast, hhere⟩
      cases before with
      | nil =>
        rw [List.nil_append] at hs
        exact Or.inl ⟨hlast, hs ▸ hhere⟩
      | cons d before =>
        obtain ⟨rfl, rfl⟩ := List.cons.inj hs
        rw [elim_getLast?_cons] at hlast
        exact Or.inr ⟨before, rest, rfl, hrest, hlast, hhere⟩

theorem wordChars_of_sameLetters {word run : List Char} (h : List.Forall₂ SameLetter word run)
    (hword : ∀ letter ∈ word, IsLetter letter) : ∀ c ∈ run, isWordChar c = true := by
  induction h with
  | nil => exact fun _ hc => absurd hc List.not_mem_nil
  | cons hsame _ ih =>
    obtain ⟨hletter, hrest⟩ := List.forall_mem_cons.mp hword
    exact List.forall_mem_cons.mpr ⟨hsame.isWordChar hletter, ih hrest⟩

theorem eq_of_sameLetters {word word' run : List Char} (h : List.Forall₂ SameLetter word run)
    (h' : List.Forall₂ SameLetter word' run) (hword : ∀ letter ∈ word, IsLetter letter)
    (hword' : ∀ letter ∈ word', IsLetter letter) : word = word' := by
  induction h generalizing word' with
  | nil =>
    cases h'
    rfl
  | cons hsame _ ih =>
    cases h' with
    | cons hsame' hrest =>
      obtain ⟨hletter, hletters⟩ := List.forall_mem_cons.mp hword
      obtain ⟨hletter', hletters'⟩ := List.forall_mem_cons.mp hword'
      rw [hsame.unique hsame' hletter hletter', ih hrest hletters hletters']

theorem keywords_letters : ∀ p ∈ patterns, ∀ word ∈ p.keywords,
    word.toList ≠ [] ∧ ∀ letter ∈ word.toList, IsLetter letter := by
  have hall : ∀ p ∈ patterns, ∀ word ∈ p.keywords, word.toList ≠ [] ∧
      (word.toList.all fun letter => decide (IsLetter letter)) = true := by
    decide +kernel
  intro p hp word hword
  obtain ⟨hsome, hletters⟩ := hall p hp word hword
  exact ⟨hsome, fun letter hletter => of_decide_eq_true (List.all_eq_true.mp hletters letter hletter)⟩

theorem keyword_eq_of_infix : ∀ p ∈ patterns, ∀ word ∈ p.keywords, ∀ q ∈ patterns,
    ∀ word' ∈ q.keywords, word.toList <:+: word'.toList → word = word' := by
  decide +kernel

/-- The search of a pattern finds the runs that spell one of its keywords, and nothing else. -/
theorem occurs_iff_calls {p : Pattern} (hp : p ∈ patterns) {s : List Char} :
    occurs (p.keywords.map String.toList) false s = true ↔ Calls p s := by
  have hkeywords : ∀ word ∈ p.keywords.map String.toList, ∀ letter ∈ word, IsLetter letter :=
    List.forall_mem_map.mpr fun word hword => (keywords_letters p hp word hword).2
  have hbound : ∀ before : List Char, before.getLast?.elim false isWordChar = false ↔
      ∀ c ∈ before.getLast?, isWordChar c = false := fun before => by
    cases before.getLast? <;> simp
  simp only [occurs_iff, hbound, standsHere_iff hkeywords, List.mem_map,
    exists_exists_and_eq_and]
  constructor
  · rintro ⟨before, rest, rfl, -, hbefore, word, hword, run, after, rfl, hrun, hafter⟩
    obtain ⟨hsome, hletters⟩ := keywords_letters p hp word hword
    have hnonempty : run ≠ [] := by
      rintro rfl
      exact hsome (List.forall₂_nil_right_iff.mp hrun)
    exact ⟨word, hword, run, ⟨hnonempty, wordChars_of_sameLetters hrun hletters,
      before, after, (List.append_assoc _ _ _).symm, hbefore, hafter⟩, hrun⟩
  · rintro ⟨word, hword, run, ⟨hnonempty, -, before, after, rfl, hbefore, hafter⟩, hrun⟩
    exact ⟨before, run ++ after, List.append_assoc _ _ _, List.append_ne_nil_of_left_ne_nil hnonempty _,
      hbefore, word, hword, run, after, rfl, hrun, hafter⟩

theorem not_spelled_of_longer {a k b : List Char} (hmore : a ≠ [] ∨ b ≠ []) {p q : Pattern}
    {word word' : String} (hp : p ∈ patterns) (hword : word ∈ p.keywords) (hk : Spelled word k)
    (hq : q ∈ patterns) (hword' : word' ∈ q.keywords) : ¬ Spelled word' (a ++ k ++ b) := by
  intro h
  have hinside : (word'.toList.take (a ++ k).length).drop a.length <:+: word'.toList :=
    (List.drop_suffix _ _).isInfix.trans (List.take_prefix _ _).isInfix
  have hfront := List.forall₂_take_append _ (a ++ k) b h
  have hmiddle := List.forall₂_drop_append _ a k hfront
  have hletters := (keywords_letters p hp word hword).2
  have hletters' := (keywords_letters q hq word' hword').2
  have hsame := eq_of_sameLetters hk hmiddle hletters fun letter hletter =>
    hletters' letter (hinside.subset hletter)
  rw [← hsame] at hinside
  obtain rfl := keyword_eq_of_infix p hp word hword q hq word' hword' hinside
  have hlength := h.length_eq
  rw [hk.length_eq] at hlength
  simp only [List.length_append] at hlength
  rcases hmore with ha | hb
  · have hpos := List.length_pos_iff.mpr ha
    omega
  · have hpos := List.length_pos_iff.mpr hb
    omega

theorem detect_eq_some_iff {line : Option String} {emote : String} :
    detect line = some emote ↔ ∃ before p after, patterns = before ++ p :: after ∧ p.emote = emote ∧
      Calls p (given line) ∧ ∀ q ∈ before, ¬ Calls q (given line) := by
  rw [detect, Option.map_eq_some_iff]
  constructor
  · rintro ⟨p, hfound, hemote⟩
    obtain ⟨hcalls, before, after, hpatterns, hnone⟩ := List.find?_eq_some_iff_append.mp hfound
    have hp : p ∈ patterns := by simp [hpatterns]
    refine ⟨before, p, after, hpatterns, hemote, (occurs_iff_calls hp).mp hcalls, fun q hq hcall => ?_⟩
    have hin : q ∈ patterns := by simp [hpatterns, hq]
    have hquiet := hnone q hq
    rw [(occurs_iff_calls hin).mpr hcall] at hquiet
    cases hquiet
  · rintro ⟨before, p, after, hpatterns, hemote, hcalls, hnone⟩
    have hp : p ∈ patterns := by simp [hpatterns]
    refine ⟨p, List.find?_eq_some_iff_append.mpr
      ⟨(occurs_iff_calls hp).mpr hcalls, before, after, hpatterns, fun q hq => ?_⟩, hemote⟩
    have hin : q ∈ patterns := by simp [hpatterns, hq]
    rw [Bool.not_eq_true', Bool.eq_false_iff]
    exact fun hoccurs => hnone q hq ((occurs_iff_calls hin).mp hoccurs)

theorem detect_eq_none_iff {line : Option String} :
    detect line = none ↔ ∀ p ∈ patterns, ¬ Calls p (given line) := by
  rw [detect, Option.map_eq_none_iff, List.find?_eq_none]
  exact forall₂_congr fun p hp => not_congr (occurs_iff_calls hp)

/-- The first pattern counts that a whole run calls for: where the runs stand and how often does not
matter, and a keyword inside a longer run is none. -/
theorem detect_by_runs (line : Option String) :
    (∀ emote, detect line = some emote ↔ ∃ before p after, patterns = before ++ p :: after ∧
      p.emote = emote ∧ Calls p (given line) ∧ ∀ q ∈ before, ¬ Calls q (given line)) ∧
    (detect line = none ↔ ∀ p ∈ patterns, ¬ Calls p (given line)) ∧
    (∀ other, (∀ run, IsRun run (given line) ↔ IsRun run (given other)) →
      detect line = detect other) ∧
    ∀ a k b, a ≠ [] ∨ b ≠ [] → (∃ p ∈ patterns, ∃ word ∈ p.keywords, Spelled word k) →
      ∀ q ∈ patterns, ∀ word ∈ q.keywords, ¬ Spelled word (a ++ k ++ b) := by
  refine ⟨fun emote => detect_eq_some_iff, detect_eq_none_iff, fun other hruns => ?_, ?_⟩
  · have hcalls : ∀ p, Calls p (given line) ↔ Calls p (given other) := fun p => by
      simp only [Calls, hruns]
    refine Option.ext fun emote => ?_
    rw [detect_eq_some_iff, detect_eq_some_iff]
    simp only [hcalls]
  · rintro a k b hmore ⟨p, hp, word, hword, hk⟩ q hq word' hword'
    exact not_spelled_of_longer hmore hp hword hk hq hword'

/-- Capitals, a dotted capital i and a long s are read through, while an underscore goes on with the
word. The same runs in another order call for the same. -/
theorem detect_by_runs_of_shouting :
    let line := some "DANC\u0130NG _lol_ \u017fad"
    let other := some "\u017fad DANC\u0130NG _lol_"
    (∃ before p after, patterns = before ++ p :: after ∧ p.emote = "dance" ∧ Calls p (given line) ∧
      ∀ q ∈ before, ¬ Calls q (given line)) ∧
    (∀ run, IsRun run (given line) ↔ IsRun run (given other)) ∧ detect line = detect other ∧
    ¬ Spelled "lol" "_lol_".toList := by
  obtain ⟨hfirst, -, hsame, hlonger⟩ := detect_by_runs (some "DANC\u0130NG _lol_ \u017fad")
  have hdetect : detect (some "DANC\u0130NG _lol_ \u017fad") = some "dance" := by decide +kernel
  have hblank : isWordChar ' ' = false := by decide +kernel
  have hline : given (some "DANC\u0130NG _lol_ \u017fad") =
      "DANC\u0130NG _lol_".toList ++ ' ' :: "\u017fad".toList := by decide +kernel
  have hother : given (some "\u017fad DANC\u0130NG _lol_") =
      "\u017fad".toList ++ ' ' :: "DANC\u0130NG _lol_".toList := by decide +kernel
  have hruns : ∀ run, IsRun run (given (some "DANC\u0130NG _lol_ \u017fad")) ↔
      IsRun run (given (some "\u017fad DANC\u0130NG _lol_")) := fun run => by
    rw [hline, hother, isRun_append_cons hblank, isRun_append_cons hblank, or_comm]
  have hlowercase :
      ("lol".toList.all fun letter => shiftCase lowercaseRuns letter == letter) = true := by
    decide +kernel
  have hspelled : Spelled "lol" "lol".toList := List.forall₂_same.mpr fun letter hletter =>
    Or.inl (eq_of_beq (List.all_eq_true.mp hlowercase letter hletter))
  have hkeyword : ∃ p ∈ patterns, ∃ word ∈ p.keywords, Spelled word "lol".toList :=
    ⟨_, List.mem_cons_self, _, List.mem_cons_self, hspelled⟩
  exact ⟨(hfirst _).mp hdetect, hruns, hsame _ hruns,
    hlonger ['_'] "lol".toList ['_'] (Or.inl (List.cons_ne_nil _ _)) hkeyword _ List.mem_cons_self
      _ List.mem_cons_self⟩

end Banter.Emote
